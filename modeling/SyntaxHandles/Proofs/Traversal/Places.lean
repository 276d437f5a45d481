import SyntaxHandles.Traversal.Basic
import Mathlib.Data.List.Lex
import Mathlib.Data.Set.Finite.Lattice

-- Places below a root: a node may stand at several of them, each with its own path from the root.
-- The paths are in the order of their indices, a path before its own continuations. What a visitor
-- is asked about, if it answers by the place, is told by this order and its answers.

namespace SyntaxHandles.Traversal

variable {ν ε : Type}

-- The index of a child at each level, from the root on.
abbrev Position := List Nat

def nodeAt? (source : ν → List ν) : ν → Position → Option ν
  | node, [] => some node
  | node, index :: rest => (source node)[index]?.bind fun child => nodeAt? source child rest

structure Place (ν : Type) where
  position : Position
  node : ν

def Place.below (source : ν → List ν) (place : Place ν) : List (Place ν) :=
  (source place.node).mapIdx fun index child => ⟨place.position ++ [index], child⟩

-- A place has the node that the path from the root leads to.
def Place.StandsIn (source : ν → List ν) (root : ν) (place : Place ν) : Prop :=
  nodeAt? source root place.position = some place.node

section Paths

variable {source : ν → List ν} {root node : ν}

theorem nodeAt?_append (source : ν → List ν) (root : ν) (path rest : Position) :
    nodeAt? source root (path ++ rest) =
      (nodeAt? source root path).bind fun node => nodeAt? source node rest := by
  induction path generalizing root with
  | nil => rfl
  | cons index path ih => simp only [List.cons_append, nodeAt?, ih, Option.bind_assoc]

theorem nodeAt?_concat {path : Position} (h : nodeAt? source root path = some node) (index : Nat) :
    nodeAt? source root (path ++ [index]) = (source node)[index]? := by
  rw [nodeAt?_append, h]
  simp [nodeAt?]

theorem Place.StandsIn.of_mem_below {place child : Place ν} (h : place.StandsIn source root)
    (hm : child ∈ place.below source) : child.StandsIn source root ∧
      child.position ≠ [] ∧ place.position = child.position.dropLast := by
  obtain ⟨index, hi, rfl⟩ := List.mem_mapIdx.mp hm
  refine ⟨?_, by simp, by simp⟩
  rw [StandsIn, nodeAt?_concat h, List.getElem?_eq_getElem hi]

theorem Place.StandsIn.ext {place other : Place ν} (h : place.StandsIn source root)
    (ho : other.StandsIn source root) (hp : place.position = other.position) : place = other := by
  rw [StandsIn, hp, ho] at h
  rcases place with ⟨_, _⟩
  cases other
  cases hp
  cases h
  rfl

-- A root with finitely many places below it lies at finite depth everywhere.
theorem acc_of_length_lt (bound : Nat)
    (h : ∀ path, (nodeAt? source node path).isSome → path.length < bound) :
    Acc (fun child parent => child ∈ source parent) node := by
  induction bound generalizing node with
  | zero => exact absurd (h [] rfl) (Nat.not_lt_zero _)
  | succ bound ih =>
      refine .intro node fun child hm => ih fun path hp => ?_
      obtain ⟨index, hi, rfl⟩ := List.getElem_of_mem hm
      have hlong := h (index :: path) (by simpa [nodeAt?, List.getElem?_eq_getElem hi] using hp)
      simpa using hlong

theorem acc_of_finite (h : {path | (nodeAt? source root path).isSome}.Finite) :
    Acc (fun child parent => child ∈ source parent) root := by
  obtain ⟨bound, hb⟩ := (h.image List.length).bddAbove
  refine acc_of_length_lt (bound + 1) fun path hp => ?_
  exact Nat.lt_succ_of_le (hb (Set.mem_image_of_mem List.length hp))

end Paths

-- The end that an answer puts to a traversal.
def stop? : Except ε ChildVisit → Option (Except ε VisitOutcome)
  | .error error => some (.error error)
  | .ok .halt => some (.ok .aborted)
  | .ok .next | .ok .recurse => none

-- Everything above a place is recursed into, from the root on.
def Entered (decision : Position → Except ε ChildVisit) (position : Position) : Prop :=
  ∀ earlier, earlier <+: position → earlier ≠ [] → decision earlier = .ok .recurse

-- A place that a visitor is asked about if nothing ends the traversal before.
structure Asked (source : ν → List ν) (root : ν) (decision : Position → Except ε ChildVisit)
    (position : Position) : Prop where
  ne_root : position ≠ []
  exists_node : (nodeAt? source root position).isSome
  entered : ∀ earlier, earlier <+: position → earlier ≠ [] → earlier ≠ position →
    decision earlier = .ok .recurse

-- A set of places of which a visitor is asked about some, one after the other, with the end that
-- its last answer puts to the traversal.
structure Tour (decision : Position → Except ε ChildVisit) (places : Set Position)
    (visited : List Position) (result? : Option (Except ε VisitOutcome)) : Prop where
  ascending : visited.Pairwise (· < ·)
  mem_iff : ∀ p, p ∈ visited ↔ p ∈ places ∧ ∀ q ∈ places, q < p → stop? (decision q) = none
  ends : (result? = none ∧ ∀ p ∈ places, stop? (decision p) = none) ∨
    ∃ earlier last, visited = earlier ++ [last] ∧ result?.isSome ∧ stop? (decision last) = result?

section Tours

variable {decision : Position → Except ε ChildVisit} {first second : Set Position}
  {visited later : List Position} {result? : Option (Except ε VisitOutcome)}

theorem Tour.empty : Tour decision ∅ [] none where
  ascending := .nil
  mem_iff p := by simp
  ends := .inl ⟨rfl, fun p hp => absurd hp (Set.notMem_empty p)⟩

theorem Tour.singleton (p : Position) : Tour decision {p} [p] (stop? (decision p)) where
  ascending := List.pairwise_singleton _ p
  mem_iff q := by
    simp only [List.mem_singleton, Set.mem_singleton_iff, forall_eq]
    exact ⟨fun h => ⟨h, fun hq => absurd (h ▸ hq) (List.lt_irrefl p)⟩, fun h => h.1⟩
  ends := by
    cases hs : stop? (decision p) with
    | none => exact .inl ⟨rfl, fun q hq => by rw [Set.mem_singleton_iff.mp hq, hs]⟩
    | some result => exact .inr ⟨[], p, rfl, rfl, hs⟩

-- Nothing that comes after the end of a traversal is visited.
theorem Tour.ended {result : Except ε VisitOutcome} (h : Tour decision first visited (some result))
    (hlt : ∀ p ∈ first, ∀ q ∈ second, p < q) :
    Tour decision (first ∪ second) visited (some result) where
  ascending := h.ascending
  mem_iff p := by
    obtain ⟨hnone, -⟩ | ⟨earlier, last, rfl, -, hs⟩ := h.ends
    · exact nomatch hnone
    have hlast := ((h.mem_iff last).mp (by simp)).1
    rw [h.mem_iff]
    constructor
    · rintro ⟨hp, hq⟩
      refine ⟨.inl hp, fun q hm hlt' => ?_⟩
      rcases hm with hm | hm
      · exact hq q hm hlt'
      · exact absurd hlt' (List.lt_asymm (hlt p hp q hm))
    · rintro ⟨hp | hp, hq⟩
      · exact ⟨hp, fun q hm => hq q (.inl hm)⟩
      · have hn := hq last (.inl hlast) (hlt last hlast p hp)
        rw [hs] at hn
        exact nomatch hn
  ends := by
    obtain ⟨hnone, -⟩ | hlast := h.ends
    · exact nomatch hnone
    · exact .inr hlast

theorem Tour.append (h : Tour decision first visited none)
    (hl : Tour decision second later result?) (hlt : ∀ p ∈ first, ∀ q ∈ second, p < q) :
    Tour decision (first ∪ second) (visited ++ later) result? := by
  obtain ⟨-, hfirst⟩ | ⟨_, _, -, hsome, -⟩ := h.ends
  swap
  · exact nomatch hsome
  have hmem p : p ∈ visited ↔ p ∈ first :=
    (h.mem_iff p).trans (and_iff_left fun q hq _ => hfirst q hq)
  refine ⟨?_, fun p => ?_, ?_⟩
  · refine List.pairwise_append.mpr ⟨h.ascending, hl.ascending, fun p hp q hq => ?_⟩
    exact hlt p ((hmem p).mp hp) q ((hl.mem_iff q).mp hq).1
  · rw [List.mem_append, hmem, hl.mem_iff]
    constructor
    · rintro (hp | ⟨hp, hq⟩)
      · refine ⟨.inl hp, fun q hm hlt' => ?_⟩
        rcases hm with hm | hm
        · exact hfirst q hm
        · exact absurd hlt' (List.lt_asymm (hlt p hp q hm))
      · refine ⟨.inr hp, fun q hm hlt' => ?_⟩
        rcases hm with hm | hm
        · exact hfirst q hm
        · exact hq q hm hlt'
    · rintro ⟨hp | hp, hq⟩
      · exact .inl hp
      · exact .inr ⟨hp, fun q hm => hq q (.inr hm)⟩
  · obtain ⟨rfl, hsecond⟩ | ⟨earlier, last, rfl, hsome, hs⟩ := hl.ends
    · refine .inl ⟨rfl, fun p hp => ?_⟩
      rcases hp with hp | hp
      · exact hfirst p hp
      · exact hsecond p hp
    · exact .inr ⟨visited ++ earlier, last, by rw [List.append_assoc], hsome, hs⟩

end Tours

section Levels

variable {source : ν → List ν} {root node : ν} {decision : Position → Except ε ChildVisit}
  {base : Position} {index : Nat}

-- The places that a visitor is asked about below the children of one node, from one of them on.
def AskedFrom (source : ν → List ν) (root : ν) (decision : Position → Except ε ChildVisit)
    (base : Position) (index : Nat) : Set Position :=
  {p | Asked source root decision p ∧ ∃ i rest, index ≤ i ∧ p = base ++ i :: rest}

theorem askedFrom_root :
    AskedFrom source root decision [] 0 = {p | Asked source root decision p} := by
  ext p
  refine ⟨fun h => h.1, fun h => ⟨h, ?_⟩⟩
  cases p with
  | nil => exact absurd rfl h.ne_root
  | cons i rest => exact ⟨i, rest, Nat.zero_le i, rfl⟩

theorem askedFrom_of_length_le (hn : nodeAt? source root base = some node)
    (hi : (source node).length ≤ index) : AskedFrom source root decision base index = ∅ := by
  refine Set.eq_empty_of_forall_notMem fun p ⟨ha, i, rest, hle, hp⟩ => ?_
  have hsome := ha.exists_node
  rw [hp, nodeAt?_append, hn, Option.bind_some, nodeAt?,
    List.getElem?_eq_none (Nat.le_trans hi hle)] at hsome
  exact nomatch hsome

theorem entered_concat (h : Entered decision base)
    (hd : decision (base ++ [index]) = .ok .recurse) : Entered decision (base ++ [index]) := by
  intro earlier hp hne
  rcases List.prefix_concat_iff.mp hp with rfl | hp
  · exact hd
  · exact h earlier hp hne

-- The places from a child on: the child itself, those below it if it is recursed into, and those
-- from its next sibling on.
theorem askedFrom_eq {child : ν} (hn : nodeAt? source root base = some node)
    (hc : (source node)[index]? = some child) (he : Entered decision base) :
    AskedFrom source root decision base index = {base ++ [index]} ∪
      (AskedFrom source root decision (base ++ [index]) 0 ∪
        AskedFrom source root decision base (index + 1)) := by
  ext p
  simp only [Set.mem_union, Set.mem_singleton_iff]
  constructor
  · rintro ⟨ha, i, rest, hle, rfl⟩
    rcases Nat.eq_or_lt_of_le hle with rfl | hlt
    · cases rest with
      | nil => exact .inl rfl
      | cons j rest => exact .inr (.inl ⟨ha, j, rest, Nat.zero_le j, by simp⟩)
    · exact .inr (.inr ⟨ha, i, rest, hlt, rfl⟩)
  · rintro (rfl | ⟨ha, j, rest, -, rfl⟩ | ⟨ha, i, rest, hle, rfl⟩)
    · refine ⟨⟨by simp, by rw [nodeAt?_concat hn, hc]; rfl, fun earlier hp hne hother => ?_⟩,
        index, [], Nat.le_refl _, rfl⟩
      exact he earlier ((List.prefix_concat_iff.mp hp).resolve_left hother) hne
    · exact ⟨ha, index, j :: rest, Nat.le_refl _, by simp⟩
    · exact ⟨ha, i, rest, Nat.le_of_succ_le hle, rfl⟩

-- Nothing is asked about below a child that is not recursed into.
theorem askedFrom_of_not_recurse (hd : decision (base ++ [index]) ≠ .ok .recurse) :
    AskedFrom source root decision (base ++ [index]) 0 = ∅ := by
  refine Set.eq_empty_of_forall_notMem fun p ⟨ha, i, rest, _, hp⟩ => hd ?_
  exact ha.entered _ (hp ▸ List.prefix_append _ _) (by simp) (by simp [hp])

theorem child_lt (p : Position) (hp : p ∈ AskedFrom source root decision (base ++ [index]) 0 ∪
    AskedFrom source root decision base (index + 1)) : base ++ [index] < p := by
  rcases hp with ⟨-, i, rest, -, rfl⟩ | ⟨-, i, rest, hle, rfl⟩
  · simp [List.append_left_lt]
  · exact List.append_left_lt (List.cons_lt_cons_iff.mpr (.inl hle))

theorem below_lt (p : Position) (hp : p ∈ AskedFrom source root decision (base ++ [index]) 0)
    (q : Position) (hq : q ∈ AskedFrom source root decision base (index + 1)) : p < q := by
  obtain ⟨-, i, rest, -, rfl⟩ := hp
  obtain ⟨-, j, rest', hle, rfl⟩ := hq
  rw [List.append_assoc]
  exact List.append_left_lt (List.cons_lt_cons_iff.mpr (.inl hle))

end Levels

end SyntaxHandles.Traversal
