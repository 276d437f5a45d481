import SyntaxHandles.Proofs.Traversal.Preorder
import Mathlib.Data.Set.Card

-- How much a traversal asks for. Its requests are written down with their answers: each answer that
-- asks for more leads to one more listing, and no node is visited that was not listed before.

namespace SyntaxHandles.Traversal

variable {ν δ ε σ : Type}

-- A request with its answer.
inductive Exchange (ν δ ε : Type)
  | listed (node : ν) (answer : Except δ (List ν))
  | visited (child parent : ν) (answer : Except ε ChildVisit)

namespace Exchange

def isListing : Exchange ν δ ε → Bool
  | listed .. => true
  | visited .. => false

def isRecursion : Exchange ν δ ε → Bool
  | visited _ _ (.ok .recurse) => true
  | _ => false

theorem isRecursion_visited {child parent : ν} {answer : Except ε ChildVisit}
    (h : answer ≠ .ok .recurse) :
    (visited child parent answer : Exchange ν δ ε).isRecursion = false := by
  rcases answer with error | decision
  · rfl
  · cases decision with
    | halt | next => rfl
    | recurse => exact absurd rfl h

-- How many nodes it hands out.
def nodes : Exchange ν δ ε → Nat
  | listed _ (.ok children) => children.length
  | _ => 0

-- Nothing fails and every node is recursed into, with the children that the source has for it.
def Unfolds (source : ν → List ν) : Exchange ν δ ε → Prop
  | listed node answer => answer = .ok (source node)
  | visited _ _ answer => answer = .ok .recurse

end Exchange

-- The same host, which also writes down what it is asked for and what it answers, oldest first.
def Host.logged (host : Host ν δ ε σ) : Host ν δ ε (σ × List (Exchange ν δ ε)) where
  children node s := ((host.children node s.1).1, (host.children node s.1).2,
    s.2 ++ [.listed node (host.children node s.1).1])
  visit child parent s := ((host.visit child parent s.1).1, (host.visit child parent s.1).2,
    s.2 ++ [.visited child parent (host.visit child parent s.1).1])
  convert := host.convert

theorem Host.logged_projects (host : Host ν δ ε σ) : Host.Projects Prod.fst host.logged host where
  children _ _ := rfl
  visit _ _ _ := rfl
  convert := rfl

section Counts

variable (log later : List (Exchange ν δ ε))

def listingsIn : Nat := log.countP Exchange.isListing

def visitsIn : Nat := log.countP (!·.isListing)

def recursionsIn : Nat := log.countP Exchange.isRecursion

def nodesIn : Nat := (log.map Exchange.nodes).sum

theorem listingsIn_append : listingsIn (log ++ later) = listingsIn log + listingsIn later :=
  List.countP_append

theorem visitsIn_append : visitsIn (log ++ later) = visitsIn log + visitsIn later :=
  List.countP_append

theorem recursionsIn_append :
    recursionsIn (log ++ later) = recursionsIn log + recursionsIn later :=
  List.countP_append

theorem nodesIn_append : nodesIn (log ++ later) = nodesIn log + nodesIn later := by
  rw [nodesIn, List.map_append, List.sum_append, nodesIn, nodesIn]

variable (node child parent : ν) (answer : Except ε ChildVisit)

theorem listingsIn_listed (answer : Except δ (List ν)) :
    listingsIn (.listed node answer :: log : List (Exchange ν δ ε)) = listingsIn log + 1 :=
  List.countP_cons_of_pos rfl

theorem listingsIn_visited :
    listingsIn (.visited child parent answer :: log : List (Exchange ν δ ε)) = listingsIn log :=
  List.countP_cons_of_neg Bool.false_ne_true

theorem visitsIn_listed (answer : Except δ (List ν)) :
    visitsIn (.listed node answer :: log : List (Exchange ν δ ε)) = visitsIn log :=
  List.countP_cons_of_neg Bool.false_ne_true

theorem visitsIn_visited :
    visitsIn (.visited child parent answer :: log : List (Exchange ν δ ε)) = visitsIn log + 1 :=
  List.countP_cons_of_pos rfl

theorem recursionsIn_listed (answer : Except δ (List ν)) :
    recursionsIn (.listed node answer :: log : List (Exchange ν δ ε)) = recursionsIn log :=
  List.countP_cons_of_neg Bool.false_ne_true

theorem recursionsIn_recurse :
    recursionsIn (.visited child parent (.ok .recurse) :: log : List (Exchange ν δ ε)) =
      recursionsIn log + 1 :=
  List.countP_cons_of_pos rfl

theorem recursionsIn_visited {answer : Except ε ChildVisit} (hn : answer ≠ .ok .recurse) :
    recursionsIn (.visited child parent answer :: log : List (Exchange ν δ ε)) =
      recursionsIn log := by
  refine List.countP_cons_of_neg ?_
  rw [Exchange.isRecursion_visited hn]
  exact Bool.false_ne_true

theorem nodesIn_listed (children : List ν) :
    nodesIn (.listed node (.ok children) :: log : List (Exchange ν δ ε)) =
      children.length + nodesIn log := by
  rw [nodesIn, List.map_cons, List.sum_cons, nodesIn, Exchange.nodes]

theorem nodesIn_visited :
    nodesIn (.visited child parent answer :: log : List (Exchange ν δ ε)) = nodesIn log := by
  rw [nodesIn, List.map_cons, List.sum_cons, nodesIn]
  exact Nat.zero_add _

end Counts

section Requests

variable {host : Host ν δ ε σ} {s t : σ × List (Exchange ν δ ε)}

theorem Host.log_of_visit {child parent : ν} {answer : Except ε ChildVisit}
    (hv : host.logged.visit child parent s = (answer, t)) :
    t.2 = s.2 ++ [.visited child parent answer] := by
  cases hv
  rfl

theorem Host.log_of_children {node : ν} {answer : Except δ (List ν)}
    (hc : host.logged.children node s = (answer, t)) : t.2 = s.2 ++ [.listed node answer] := by
  cases hc
  rfl

theorem Host.log_of_recurse {child parent : ν} {answer : Except δ (List ν)}
    {u : σ × List (Exchange ν δ ε)}
    (hv : host.logged.visit child parent s = (.ok .recurse, t))
    (hc : host.logged.children child t = (answer, u)) :
    u.2 = s.2 ++ [.visited child parent (.ok .recurse), .listed child answer] := by
  rw [log_of_children hc, log_of_visit hv, List.append_assoc]
  rfl

end Requests

section Beneath

variable {source : ν → List ν}

-- The places of some siblings and of all that is below them.
def Beneath (source : ν → List ν) (siblings : List ν) : Set Position :=
  {p | ∃ index rest node, p = index :: rest ∧ siblings[index]? = some node ∧
    (nodeAt? source node rest).isSome}

theorem beneath_nil (source : ν → List ν) : Beneath source [] = ∅ :=
  Set.eq_empty_of_forall_notMem fun _ ⟨_, _, _, _, hn, _⟩ => nomatch hn

theorem isSome_nodeAt?_iff {node : ν} {path : Position} :
    (nodeAt? source node path).isSome ↔ path = [] ∨ path ∈ Beneath source (source node) := by
  cases path with
  | nil => exact iff_of_true rfl (.inl rfl)
  | cons index rest =>
      rw [nodeAt?, Option.isSome_bind, Option.any_eq_true]
      constructor
      · rintro ⟨child, hc, hs⟩
        exact .inr ⟨index, rest, child, rfl, hc, hs⟩
      · rintro (h | ⟨_, _, child, h, hc, hs⟩)
        · cases h
        · cases h
          exact ⟨child, hc, hs⟩

-- The same places, each with one more sibling before it.
def Position.shift : Position → Position
  | [] => []
  | index :: rest => (index + 1) :: rest

theorem Position.shift_injective : Function.Injective Position.shift
  | [], [], _ => rfl
  | _ :: _, _ :: _, h => by
    simpa only [shift, List.cons.injEq, Nat.add_right_cancel_iff] using h

theorem beneath_cons (source : ν → List ν) (child : ν) (siblings : List ν) :
    Beneath source (child :: siblings) = {[0]} ∪ ((0 :: ·) '' Beneath source (source child) ∪
      Position.shift '' Beneath source siblings) := by
  ext p
  constructor
  · rintro ⟨index, rest, node, rfl, hn, hs⟩
    cases index with
    | zero =>
        obtain rfl := Option.some.inj hn
        rcases isSome_nodeAt?_iff.mp hs with rfl | hs
        · exact .inl rfl
        · exact .inr (.inl ⟨rest, hs, rfl⟩)
    | succ index => exact .inr (.inr ⟨index :: rest, ⟨index, rest, node, rfl, hn, hs⟩, rfl⟩)
  · rintro (rfl | ⟨rest, hs, rfl⟩ | ⟨_, ⟨index, rest, node, rfl, hn, hs⟩, rfl⟩)
    · exact ⟨0, [], child, rfl, rfl, rfl⟩
    · exact ⟨0, rest, child, rfl, rfl, isSome_nodeAt?_iff.mpr (.inr hs)⟩
    · exact ⟨index + 1, rest, node, rfl, hn, hs⟩

theorem encard_beneath_cons (source : ν → List ν) (child : ν) (siblings : List ν) :
    (Beneath source (child :: siblings)).encard =
      1 + ((Beneath source (source child)).encard + (Beneath source siblings).encard) := by
  have hbelow : Disjoint ((0 :: ·) '' Beneath source (source child))
      (Position.shift '' Beneath source siblings) := by
    rw [Set.disjoint_left]
    rintro _ ⟨_, -, rfl⟩ ⟨_, ⟨_, _, _, rfl, -, -⟩, h⟩
    exact absurd (List.cons.inj h).1 (Nat.succ_ne_zero _)
  have hchild : Disjoint {[0]} ((0 :: ·) '' Beneath source (source child) ∪
      Position.shift '' Beneath source siblings) := by
    rw [Set.disjoint_singleton_left]
    rintro (⟨_, ⟨_, _, _, rfl, -, -⟩, h⟩ | ⟨_, ⟨_, _, _, rfl, -, -⟩, h⟩)
    · exact nomatch (List.cons.inj h).2
    · exact absurd (List.cons.inj h).1 (Nat.succ_ne_zero _)
  rw [beneath_cons, Set.encard_union_eq hchild, Set.encard_union_eq hbelow, Set.encard_singleton,
    Function.Injective.encard_image (List.cons_injective),
    Position.shift_injective.encard_image]

-- The places below a root other than its own.
theorem beneath_root (source : ν → List ν) (root : ν) :
    Beneath source (source root) = {p | p ≠ [] ∧ (nodeAt? source root p).isSome} := by
  ext p
  constructor
  · rintro ⟨index, rest, node, rfl, hn, hs⟩
    have hp : index :: rest ∈ Beneath source (source root) := ⟨index, rest, node, rfl, hn, hs⟩
    exact ⟨List.cons_ne_nil _ _, isSome_nodeAt?_iff.mpr (.inr hp)⟩
  · exact fun ⟨hne, hs⟩ => (isSome_nodeAt?_iff.mp hs).resolve_left hne

end Beneath

-- What is written down while some siblings, which are listed already, are visited with all that is
-- asked for below them.
structure Level.Accounts (siblings : List ν) (log : List (Exchange ν δ ε)) (level : Level ε σ) :
    Prop where
  visits : level.visits = visitsIn log
  listings : listingsIn log = recursionsIn log
  le : visitsIn log ≤ siblings.length + nodesIn log
  -- Nothing is left out unless the traversal ends early.
  eq : level.result? = none → visitsIn log = siblings.length + nodesIn log
  unfolded : ∀ source, (∀ exchange ∈ log, exchange.Unfolds source) →
    level.result? = none ∧ (Beneath source siblings).encard = visitsIn log

section Accounts

variable {host : Host ν δ ε σ} {child parent : ν} {siblings listed : List ν} {s t : σ}
  {log later : List (Exchange ν δ ε)} {level : Level ε σ} {answer : Except ε ChildVisit}
  {result : Except ε VisitOutcome} {visits : Nat}

theorem Level.Accounts.nil :
    (finished 0 s : Level ε σ).Accounts [] ([] : List (Exchange ν δ ε)) where
  visits := rfl
  listings := rfl
  le := Nat.le_refl 0
  eq _ := rfl
  unfolded source _ := ⟨rfl, by rw [beneath_nil, Set.encard_empty]; rfl⟩

theorem Level.Accounts.of_stop (hn : answer ≠ .ok .recurse) :
    (stopped result 1 t : Level ε σ).Accounts (child :: siblings)
      [(.visited child parent answer : Exchange ν δ ε)] where
  visits := rfl
  listings := (recursionsIn_visited [] child parent hn).symm
  le := by
    rw [List.length_cons]
    exact Nat.le_trans (Nat.le_add_left 1 _) (Nat.le_add_right _ _)
  eq hnone := nomatch hnone
  unfolded _ h := absurd (h _ (.head _)) hn

-- A visit, and what comes after it on the same level.
theorem Level.Accounts.after_visit (h : level.Accounts siblings log) (hn : answer ≠ .ok .recurse) :
    (level.after 1).Accounts (child :: siblings) (.visited child parent answer :: log) where
  visits := by
    rw [Level.visits_after, h.visits, visitsIn_visited]
    exact Nat.add_comm 1 _
  listings := by rw [listingsIn_visited, recursionsIn_visited _ _ _ hn, h.listings]
  le := by
    have hle := h.le
    rw [visitsIn_visited, nodesIn_visited, List.length_cons]
    omega
  eq hnone := by
    have heq := h.eq (Level.result?_after 1 level ▸ hnone)
    rw [visitsIn_visited, nodesIn_visited, List.length_cons]
    omega
  unfolded _ hu := absurd (hu _ (.head _)) hn

theorem Level.Accounts.of_unlisted {error : δ} :
    (stopped result 1 t : Level ε σ).Accounts (child :: siblings)
      [(.visited child parent (.ok .recurse) : Exchange ν δ ε), .listed child (.error error)] where
  visits := rfl
  listings := rfl
  le := by
    rw [List.length_cons]
    exact Nat.le_trans (Nat.le_add_left 1 _) (Nat.le_add_right _ _)
  eq hnone := nomatch hnone
  unfolded _ h := nomatch h _ (.tail _ (.head _))

-- A visit, and what the level below it comes to if it ends the traversal.
theorem Level.Accounts.stopped_below (h : (stopped result visits t).Accounts listed log) :
    (stopped result (1 + visits) t).Accounts (child :: siblings)
      (.visited child parent (.ok .recurse) :: .listed child (.ok listed) :: log) where
  visits := by
    have hv : visits = visitsIn log := h.visits
    rw [Level.visits, visitsIn_visited, visitsIn_listed, hv]
    exact Nat.add_comm 1 _
  listings := by
    rw [listingsIn_visited, listingsIn_listed, recursionsIn_recurse, recursionsIn_listed,
      h.listings]
  le := by
    have hle := h.le
    rw [visitsIn_visited, visitsIn_listed, nodesIn_visited, nodesIn_listed, List.length_cons]
    omega
  eq hnone := nomatch hnone
  unfolded source hu := nomatch
    (h.unfolded source fun _ hm => hu _ (.tail _ (.tail _ hm))).1

-- A visit, the level below it, and what comes after them on the same level.
theorem Level.Accounts.after_below (hi : (finished visits t).Accounts listed log)
    (hr : level.Accounts siblings later) :
    (level.after (1 + visits)).Accounts (child :: siblings)
      (.visited child parent (.ok .recurse) :: .listed child (.ok listed) :: (log ++ later)) where
  visits := by
    have hv : visits = visitsIn log := hi.visits
    rw [Level.visits_after, hr.visits, hv, visitsIn_visited, visitsIn_listed, visitsIn_append]
    omega
  listings := by
    have hl := hi.listings
    have hl' := hr.listings
    rw [listingsIn_visited, listingsIn_listed, recursionsIn_recurse, recursionsIn_listed,
      listingsIn_append, recursionsIn_append]
    omega
  le := by
    have hle := hi.le
    have hle' := hr.le
    rw [visitsIn_visited, visitsIn_listed, visitsIn_append, nodesIn_visited, nodesIn_listed,
      nodesIn_append, List.length_cons]
    omega
  eq hnone := by
    have heq := hi.eq rfl
    have heq' := hr.eq (Level.result?_after (1 + visits) level ▸ hnone)
    rw [visitsIn_visited, visitsIn_listed, visitsIn_append, nodesIn_visited, nodesIn_listed,
      nodesIn_append, List.length_cons]
    omega
  unfolded source hu := by
    have hbelow := fun exchange hm => hu exchange (.tail _ (.tail _ hm))
    obtain ⟨hinner, hlater⟩ := List.forall_mem_append.mp hbelow
    obtain ⟨-, hi⟩ := hi.unfolded source hinner
    obtain ⟨hnone, hr⟩ := hr.unfolded source hlater
    have hlisted : listed = source child :=
      Except.ok.inj (hu (.listed child (.ok listed)) (.tail _ (.head _)))
    refine ⟨(Level.result?_after _ level).trans hnone, ?_⟩
    rw [encard_beneath_cons, ← hlisted, hi, hr, visitsIn_visited, visitsIn_listed, visitsIn_append]
    norm_cast
    omega

theorem Descends.exists_log {s : σ × List (Exchange ν δ ε)}
    {level : Level ε (σ × List (Exchange ν δ ε))}
    (h : Descends host.logged parent siblings s level) :
    ∃ log, level.host.2 = s.2 ++ log ∧ level.Accounts siblings log := by
  induction h with
  | finished => exact ⟨[], (List.append_nil _).symm, .nil⟩
  | failed visit => exact ⟨_, Host.log_of_visit visit, .of_stop nofun⟩
  | halted visit => exact ⟨_, Host.log_of_visit visit, .of_stop nofun⟩
  | @next parent child _ _ _ _ visit _ ih =>
      obtain ⟨log, hh, ha⟩ := ih
      refine ⟨.visited child parent (.ok .next) :: log, ?_, ha.after_visit nofun⟩
      rw [Level.host_after, hh, Host.log_of_visit visit, List.append_assoc]
      rfl
  | unlisted visit children => exact ⟨_, Host.log_of_recurse visit children, .of_unlisted⟩
  | stopped visit children _ ih =>
      obtain ⟨log, hh, ha⟩ := ih
      rw [Host.log_of_recurse visit children, List.append_assoc] at hh
      exact ⟨_, hh, ha.stopped_below⟩
  | recursed visit children _ _ ihi ihr =>
      obtain ⟨log, hh, ha⟩ := ihi
      obtain ⟨later, hl, hr⟩ := ihr
      rw [Level.host, Host.log_of_recurse visit children] at hh
      rw [hh, List.append_assoc, List.append_assoc] at hl
      exact ⟨_, (Level.host_after _ _ ▸ hl), ha.after_below hr⟩

end Accounts

end SyntaxHandles.Traversal
