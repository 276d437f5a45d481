import SyntaxHandles.Proofs.Traversal.Matching
import SyntaxHandles.Proofs.Traversal.Relation

-- What a traversal asks of its host, in the order in which it asks. Writing the requests down
-- changes nothing else, and what every single request keeps is kept by the whole traversal.

namespace SyntaxHandles.Traversal

variable {ν δ ε σ τ : Type}

inductive Request (ν : Type)
  | list (node : ν)
  | visit (child parent : ν)
  deriving DecidableEq, Repr

def Request.isVisit : Request ν → Bool
  | list _ => false
  | visit .. => true

-- The same host, which also writes down what it is asked for, oldest first.
def Host.traced (host : Host ν δ ε σ) : Host ν δ ε (σ × List (Request ν)) where
  children node s := ((host.children node s.1).1, (host.children node s.1).2, s.2 ++ [.list node])
  visit child parent s :=
    ((host.visit child parent s.1).1, (host.visit child parent s.1).2, s.2 ++ [.visit child parent])
  convert := host.convert

def Ended.map (f : σ → τ) (ended : Ended ε σ) : Ended ε τ :=
  ⟨ended.result, ended.walker, f ended.host⟩

def Level.map (f : σ → τ) : Level ε σ → Level ε τ
  | finished visits s => finished visits (f s)
  | stopped result visits s => stopped result visits (f s)

def Level.host : Level ε σ → σ
  | finished _ s => s
  | stopped _ _ s => s

def Level.visits : Level ε σ → Nat
  | finished visits _ => visits
  | stopped _ visits _ => visits

@[simp] theorem Level.host_after (earlier : Nat) (level : Level ε σ) :
    (level.after earlier).host = level.host := by
  cases level <;> rfl

@[simp] theorem Level.visits_after (earlier : Nat) (level : Level ε σ) :
    (level.after earlier).visits = earlier + level.visits := by
  cases level <;> rfl

@[simp] theorem Level.map_finished (f : σ → τ) (visits : Nat) (s : σ) :
    (finished visits s : Level ε σ).map f = finished visits (f s) := rfl

@[simp] theorem Level.map_stopped (f : σ → τ) (result : Except ε VisitOutcome) (visits : Nat)
    (s : σ) : (stopped result visits s).map f = stopped result visits (f s) := rfl

@[simp] theorem Level.map_after (f : σ → τ) (earlier : Nat) (level : Level ε σ) :
    (level.after earlier).map f = (level.map f).after earlier := by
  cases level <;> rfl

section Projection

-- A host that answers like another one, as far as a part of its state goes.
structure Host.Projects (f : τ → σ) (fine : Host ν δ ε τ) (coarse : Host ν δ ε σ) : Prop where
  children : ∀ node t, coarse.children node (f t) =
    ((fine.children node t).1, f (fine.children node t).2)
  visit : ∀ child parent t, coarse.visit child parent (f t) =
    ((fine.visit child parent t).1, f (fine.visit child parent t).2)
  convert : coarse.convert = fine.convert

variable {f : τ → σ} {fine : Host ν δ ε τ} {coarse : Host ν δ ε σ}

theorem Host.traced_projects (host : Host ν δ ε σ) :
    Host.Projects Prod.fst host.traced host where
  children _ _ := rfl
  visit _ _ _ := rfl
  convert := rfl

theorem Host.Projects.matches (h : Host.Projects f fine coarse) :
    Host.Matches (fun s t => s = f t) id coarse fine where
  children node s t hst := by
    subst hst
    exact ⟨_, _, _, rfl, h.children node t, by simp⟩
  visit child parent s t hst := by
    subst hst
    exact ⟨_, _, _, rfl, h.visit child parent t, rfl⟩
  convert := h.convert.symm

theorem run_map (h : Host.Projects f fine coarse) (fuel : Nat) (root : ν) (walker : Walker)
    (t : τ) :
    run coarse fuel root walker (f t) = (run fine fuel root walker t).map (.map f) := by
  have hrel := run_matches h.matches fuel root walker (s := f t) (t := t) rfl
  have hsame : (run coarse fuel root walker (f t)).map id =
      (run fine fuel root walker t).map (.map f) := map_eq_map hrel fun _ ended hm => by
    obtain ⟨hresult, hwalker, hhost⟩ := hm
    simp [Ended.map, hresult, hwalker, ← hhost]
  rwa [Option.map_id, id_eq] at hsame

theorem descend_map (h : Host.Projects f fine coarse) (fuel : Nat) (parent : ν)
    (pending : List ν) (t : τ) :
    descend coarse fuel parent pending (f t) =
      (descend fine fuel parent pending t).map (.map f) := by
  induction fuel generalizing parent pending t with
  | zero => simp [descend]
  | succ fuel ih =>
      cases pending with
      | nil => simp [descend]
      | cons child siblings =>
          simp only [descend, h.visit]
          obtain ⟨answer, t'⟩ := fine.visit child parent t
          cases answer with
          | error error => rfl
          | ok decision =>
              cases decision with
              | halt => rfl
              | next => simp [ih, Option.map_map, Function.comp_def]
              | recurse =>
                  simp only [h.children]
                  obtain ⟨listed, t''⟩ := fine.children child t'
                  cases listed with
                  | error error => simp [h.convert]
                  | ok children =>
                      simp only [ih]
                      cases descend fine fuel child children t'' with
                      | none => rfl
                      | some level =>
                          cases level with
                          | stopped result visits t => rfl
                          | finished visits t =>
                              simp [ih, Option.map_map, Function.comp_def]

theorem descendFrom_map (h : Host.Projects f fine coarse) (fuel : Nat) (root : ν) (t : τ) :
    descendFrom coarse fuel root (f t) =
      (descendFrom fine fuel root t).map fun (result, visits, t) => (result, visits, f t) := by
  simp only [descendFrom, h.children]
  obtain ⟨listed, t'⟩ := fine.children root t
  cases listed with
  | error error => simp [h.convert]
  | ok children =>
      simp only [descend_map h, Option.map_map]
      congr 1
      funext level
      cases level <;> rfl

end Projection

section Kept

-- A relation between the states of a host before and after each request, which holds between those
-- before and after a whole traversal as well.
structure Host.Keeps (R : σ → σ → Prop) (host : Host ν δ ε σ) : Prop where
  refl : ∀ s, R s s
  trans : ∀ {s t u}, R s t → R t u → R s u
  children : ∀ node s, R s (host.children node s).2
  visit : ∀ child parent s, R s (host.visit child parent s).2

variable {R : σ → σ → Prop} {host : Host ν δ ε σ}

theorem Host.Keeps.of_children (h : Host.Keeps R host) {node : ν} {s t : σ}
    {listed : Except δ (List ν)} (hc : host.children node s = (listed, t)) : R s t := by
  simpa only [hc] using h.children node s

theorem Host.Keeps.of_visit (h : Host.Keeps R host) {child parent : ν} {s t : σ}
    {answer : Except ε ChildVisit} (hv : host.visit child parent s = (answer, t)) : R s t := by
  simpa only [hv] using h.visit child parent s

theorem Walks.keeps (h : Host.Keeps R host) {stack : List (Frame ν)} {walker : Walker} {s : σ}
    {ended : Ended ε σ} (he : Walks host stack walker s ended) : R s ended.host := by
  induction he with
  | completed => exact h.refl _
  | left _ ih => exact ih
  | failed visit => exact h.of_visit visit
  | halted visit => exact h.of_visit visit
  | next visit _ ih => exact h.trans (h.of_visit visit) ih
  | unlisted visit children => exact h.trans (h.of_visit visit) (h.of_children children)
  | recursed visit children _ ih =>
      exact h.trans (h.of_visit visit) (h.trans (h.of_children children) ih)

theorem run_keeps (h : Host.Keeps R host) {fuel : Nat} {root : ν} {walker : Walker} {s : σ}
    {ended : Ended ε σ} (he : run host fuel root walker s = some ended) : R s ended.host := by
  simp only [run] at he
  split at he
  · next children =>
    simp only [Option.some.injEq] at he
    exact he ▸ h.of_children children
  · next children =>
    exact h.trans (h.of_children children) ((walks_of_walk fuel _ walker _ he).keeps h)

-- Something that holds of the states of a host as long as it is asked, and of the errors that it
-- answers with or that its refusals are converted to.
structure Host.Stays (P : σ → Prop) (E : ε → Prop) (host : Host ν δ ε σ) : Prop where
  children : ∀ node s, P s → P (host.children node s).2 ∧
    ∀ error, (host.children node s).1 = .error error → E (host.convert error)
  visit : ∀ child parent s, P s → P (host.visit child parent s).2 ∧
    ∀ error, (host.visit child parent s).1 = .error error → E error

variable {P : σ → Prop} {E : ε → Prop}

theorem Walks.stays (h : Host.Stays P E host) {stack : List (Frame ν)} {walker : Walker} {s : σ}
    {ended : Ended ε σ} (he : Walks host stack walker s ended) (hs : P s) :
    P ended.host ∧ ∀ error, ended.result = .error error → E error := by
  induction he with
  | completed => exact ⟨hs, fun _ he => nomatch he⟩
  | left _ ih => exact ih hs
  | @failed parent child _ _ _ s error t visit =>
      obtain ⟨ht, herror⟩ := h.visit child parent s hs
      rw [visit] at ht herror
      refine ⟨ht, fun other he => ?_⟩
      cases he
      exact herror error rfl
  | @halted parent child _ _ _ s t visit =>
      obtain ⟨ht, -⟩ := h.visit child parent s hs
      rw [visit] at ht
      exact ⟨ht, fun _ he => nomatch he⟩
  | @next parent child _ _ _ s t _ visit _ ih =>
      obtain ⟨ht, -⟩ := h.visit child parent s hs
      rw [visit] at ht
      exact ih ht
  | @unlisted parent child _ _ _ s t error u visit children =>
      obtain ⟨ht, -⟩ := h.visit child parent s hs
      rw [visit] at ht
      obtain ⟨hu, herror⟩ := h.children child t ht
      rw [children] at hu herror
      refine ⟨hu, fun converted he => ?_⟩
      cases he
      exact herror error rfl
  | @recursed parent child _ _ _ s t listed u _ visit children _ ih =>
      obtain ⟨ht, -⟩ := h.visit child parent s hs
      rw [visit] at ht
      obtain ⟨hu, -⟩ := h.children child t ht
      rw [children] at hu
      exact ih hu

theorem run_stays (h : Host.Stays P E host) {fuel : Nat} {root : ν} {walker : Walker} {s : σ}
    {ended : Ended ε σ} (he : run host fuel root walker s = some ended) (hs : P s) :
    P ended.host ∧ ∀ error, ended.result = .error error → E error := by
  obtain ⟨ht, herror⟩ := h.children root s hs
  rcases hc : host.children root s with ⟨error | listed, t⟩ <;>
    simp only [run, hc] at he <;> rw [hc] at ht herror
  · cases he
    refine ⟨ht, fun converted he => ?_⟩
    cases he
    exact herror error rfl
  · exact (walks_of_walk fuel _ walker _ he).stays h ht

-- Something that holds of the states of a host until a visit answers with an error, and what holds
-- of the error and of the state then.
structure Host.Breaks (P : σ → Prop) (Q : ε → σ → Prop) (host : Host ν δ ε σ) : Prop where
  children : ∀ {node s listed t}, P s → host.children node s = (listed, t) → P t
  decided : ∀ {child parent s decision t}, P s →
    host.visit child parent s = (.ok decision, t) → P t
  failed : ∀ {child parent s error t}, P s →
    host.visit child parent s = (.error error, t) → Q error t

variable {Q : ε → σ → Prop}

-- Nothing is asked any more once a visit answered with an error, which ends the traversal as it is.
theorem Walks.breaks (h : Host.Breaks P Q host) {stack : List (Frame ν)} {walker : Walker} {s : σ}
    {ended : Ended ε σ} (he : Walks host stack walker s ended) (hs : P s) :
    P ended.host ∨ ∃ error, ended.result = .error error ∧ Q error ended.host := by
  induction he with
  | completed => exact .inl hs
  | left _ ih => exact ih hs
  | failed visit => exact .inr ⟨_, rfl, h.failed hs visit⟩
  | halted visit => exact .inl (h.decided hs visit)
  | next visit _ ih => exact ih (h.decided hs visit)
  | unlisted visit children => exact .inl (h.children (h.decided hs visit) children)
  | recursed visit children _ ih => exact ih (h.children (h.decided hs visit) children)

theorem run_breaks (h : Host.Breaks P Q host) {fuel : Nat} {root : ν} {walker : Walker} {s : σ}
    {ended : Ended ε σ} (he : run host fuel root walker s = some ended) (hs : P s) :
    P ended.host ∨ ∃ error, ended.result = .error error ∧ Q error ended.host := by
  rcases hc : host.children root s with ⟨error | listed, t⟩ <;> simp only [run, hc] at he
  · cases he
    exact .inl (h.children hs hc)
  · exact (walks_of_walk fuel _ walker _ he).breaks h (h.children hs hc)

-- Something that holds of the states of a host from the first visit on that broke the traversal off.
structure Host.Marks (P : σ → Prop) (host : Host ν δ ε σ) : Prop where
  children : ∀ {node s listed t}, host.children node s = (listed, t) → (P t ↔ P s)
  visit : ∀ {child parent s answer t}, host.visit child parent s = (answer, t) →
    (P t ↔ answer = .ok .halt ∨ P s)

theorem Host.Marks.not_of_visit (h : Host.Marks P host) {child parent : ν} {s t : σ}
    {answer : Except ε ChildVisit} (hv : host.visit child parent s = (answer, t))
    (ha : answer ≠ .ok .halt) (hs : ¬P s) : ¬P t :=
  (not_congr (h.visit hv)).mpr (not_or.mpr ⟨ha, hs⟩)

-- Breaking off is the only way to an aborted traversal.
theorem Walks.aborted_iff (h : Host.Marks P host) {stack : List (Frame ν)} {walker : Walker}
    {s : σ} {ended : Ended ε σ} (he : Walks host stack walker s ended) (hs : ¬P s) :
    ended.result = .ok .aborted ↔ P ended.host := by
  induction he with
  | completed => exact iff_of_false nofun hs
  | left _ ih => exact ih hs
  | failed visit => exact iff_of_false nofun (h.not_of_visit visit nofun hs)
  | halted visit => exact iff_of_true rfl ((h.visit visit).mpr (.inl rfl))
  | next visit _ ih => exact ih (h.not_of_visit visit nofun hs)
  | unlisted visit children =>
      have ht := h.not_of_visit visit nofun hs
      exact iff_of_false nofun ((not_congr (h.children children)).mpr ht)
  | recursed visit children _ ih =>
      have ht := h.not_of_visit visit nofun hs
      exact ih ((not_congr (h.children children)).mpr ht)

theorem run_aborted_iff (h : Host.Marks P host) {fuel : Nat} {root : ν} {walker : Walker} {s : σ}
    {ended : Ended ε σ} (he : run host fuel root walker s = some ended) (hs : ¬P s) :
    ended.result = .ok .aborted ↔ P ended.host := by
  rcases hc : host.children root s with ⟨error | listed, t⟩ <;> simp only [run, hc] at he <;>
    have ht := (not_congr (h.children hc)).mpr hs
  · cases he
    exact iff_of_false (by simp) ht
  · exact (walks_of_walk fuel _ walker _ he).aborted_iff h ht

end Kept

section Handed

-- A property of nodes that is handed down from a node to the children that are listed for it.
def Host.HandsDown (P : ν → Prop) (host : Host ν δ ε σ) : Prop :=
  ∀ {node s children t}, P node → host.children node s = (.ok children, t) →
    ∀ child ∈ children, P child

def Request.All (P : ν → Prop) : Request ν → Prop
  | list node => P node
  | visit child parent => P child ∧ P parent

theorem Request.All.imp {P Q : ν → Prop} {request : Request ν} (h : request.All P)
    (hpq : ∀ node, P node → Q node) : request.All Q := by
  cases request with
  | list node => exact hpq node h
  | visit child parent => exact ⟨hpq child h.1, hpq parent h.2⟩

def Frame.All (P : ν → Prop) (frame : Frame ν) : Prop :=
  P frame.parent ∧ ∀ child ∈ frame.pending, P child

variable {P : ν → Prop} {host : Host ν δ ε σ}

def Handed (P : ν → Prop) (trace : List (Request ν)) : Prop :=
  ∀ request ∈ trace, request.All P

theorem Handed.concat {trace : List (Request ν)} {request : Request ν} (ht : Handed P trace)
    (hr : request.All P) : Handed P (trace ++ [request]) := by
  intro other hm
  rcases List.mem_append.mp hm with hm | hm
  · exact ht other hm
  · exact List.mem_singleton.mp hm ▸ hr

theorem Handed.of_visit {child parent : ν} {s t : σ × List (Request ν)}
    {answer : Except ε ChildVisit} (hv : host.traced.visit child parent s = (answer, t))
    (hs : Handed P s.2) (hc : P child) (hp : P parent) : Handed P t.2 := by
  obtain ⟨-, rfl⟩ := Prod.mk.injEq .. ▸ hv
  exact hs.concat ⟨hc, hp⟩

theorem Handed.of_children {node : ν} {s t : σ × List (Request ν)} {listed : Except δ (List ν)}
    (hc : host.traced.children node s = (listed, t)) (hs : Handed P s.2) (hn : P node) :
    Handed P t.2 := by
  obtain ⟨-, rfl⟩ := Prod.mk.injEq .. ▸ hc
  exact hs.concat hn

theorem Host.HandsDown.traced (h : Host.HandsDown P host) : Host.HandsDown P host.traced := by
  intro node s children t hn hc
  obtain ⟨hc, -⟩ := Prod.mk.injEq .. ▸ hc
  exact h hn (Prod.ext hc rfl)

theorem Frame.All.tail {parent child : ν} {pending : List ν}
    (h : (⟨parent, child :: pending⟩ : Frame ν).All P) : (⟨parent, pending⟩ : Frame ν).All P :=
  ⟨h.1, fun other hm => h.2 other (.tail _ hm)⟩

theorem Walks.handed (h : Host.HandsDown P host) {stack : List (Frame ν)} {walker : Walker}
    {s : σ × List (Request ν)} {ended : Ended ε (σ × List (Request ν))}
    (he : Walks host.traced stack walker s ended) (hstack : ∀ frame ∈ stack, frame.All P)
    (hs : Handed P s.2) : Handed P ended.host.2 := by
  induction he with
  | completed => exact hs
  | left _ ih => exact ih (List.forall_mem_cons.mp hstack).2 hs
  | failed visit =>
      obtain ⟨hframe, -⟩ := List.forall_mem_cons.mp hstack
      exact .of_visit visit hs (hframe.2 _ (.head _)) hframe.1
  | halted visit =>
      obtain ⟨hframe, -⟩ := List.forall_mem_cons.mp hstack
      exact .of_visit visit hs (hframe.2 _ (.head _)) hframe.1
  | next visit _ ih =>
      obtain ⟨hframe, houter⟩ := List.forall_mem_cons.mp hstack
      apply ih (List.forall_mem_cons.mpr ⟨hframe.tail, houter⟩)
      exact .of_visit visit hs (hframe.2 _ (.head _)) hframe.1
  | unlisted visit children =>
      obtain ⟨hframe, -⟩ := List.forall_mem_cons.mp hstack
      have hchild := hframe.2 _ (.head _)
      exact .of_children children (.of_visit visit hs hchild hframe.1) hchild
  | recursed visit children _ ih =>
      obtain ⟨hframe, houter⟩ := List.forall_mem_cons.mp hstack
      have hchild := hframe.2 _ (.head _)
      have hrest := List.forall_mem_cons.mpr ⟨hframe.tail, houter⟩
      apply ih (List.forall_mem_cons.mpr ⟨⟨hchild, h.traced hchild children⟩, hrest⟩)
      exact .of_children children (.of_visit visit hs hchild hframe.1) hchild

-- A traversal asks only about nodes, and hands out only nodes, that have what its root hands down.
theorem run_handed (h : Host.HandsDown P host) {fuel : Nat} {root : ν} {walker : Walker} {s : σ}
    {ended : Ended ε (σ × List (Request ν))} (hroot : P root)
    (he : run host.traced fuel root walker (s, []) = some ended) : Handed P ended.host.2 := by
  have hnone : Handed P ([] : List (Request ν)) := nofun
  simp only [run] at he
  split at he
  · next children =>
    simp only [Option.some.injEq] at he
    exact he ▸ .of_children children hnone hroot
  · next children =>
    apply (walks_of_walk fuel _ walker _ he).handed h
    · simpa [Frame.All] using ⟨hroot, h.traced hroot children⟩
    · exact .of_children children hnone hroot

end Handed

end SyntaxHandles.Traversal
