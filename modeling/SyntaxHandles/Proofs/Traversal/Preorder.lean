import SyntaxHandles.Proofs.Traversal.Endings
import SyntaxHandles.Proofs.Traversal.Matching
import SyntaxHandles.Proofs.Traversal.Places

-- Which places a traversal visits, and in which order, if the children of a node are always the
-- same and the visitor answers by the place. A visitor that knows the nodes only, and answers
-- alike, is led the same way.

namespace SyntaxHandles.Traversal

variable {ν δ ε σ : Type}

structure Visit (ν : Type) where
  child : Place ν
  parent : Place ν

-- A visitor that answers by the place, and writes its visits down, the oldest one first.
def Host.byPlace (source : ν → List ν) (decision : Position → Except ε ChildVisit)
    (convert : δ → ε) : Host (Place ν) δ ε (List (Visit ν)) where
  children place visits := (.ok (place.below source), visits)
  visit child parent visits := (decision child.position, visits ++ [⟨child, parent⟩])
  convert

-- The parent stands at its place, and the child at one below it.
def Visit.StandsIn (source : ν → List ν) (root : ν) (visit : Visit ν) : Prop :=
  visit.parent.StandsIn source root ∧ visit.child ∈ visit.parent.below source

def positions (visits : List (Visit ν)) : List Position :=
  visits.map (·.child.position)

def Level.result? : Level ε σ → Option (Except ε VisitOutcome)
  | finished _ _ => none
  | stopped result _ _ => some result

@[simp] theorem Level.result?_after (earlier : Nat) (level : Level ε σ) :
    (level.after earlier).result? = level.result? := by
  cases level <;> rfl

-- What a level comes to is a tour through these places, beside the visits before it.
def Level.Tours (source : ν → List ν) (root : ν) (decision : Position → Except ε ChildVisit)
    (places : Set Position) (before : List (Visit ν)) (level : Level ε (List (Visit ν))) : Prop :=
  ∃ visits, level.host = before ++ visits ∧ (∀ visit ∈ visits, visit.StandsIn source root) ∧
    Tour decision places (positions visits) level.result?

section Level

variable {source : ν → List ν} {root node : ν} {decision : Position → Except ε ChildVisit}
  {first second : Set Position} {before : List (Visit ν)} {visit : Visit ν}
  {level : Level ε (List (Visit ν))}

theorem Level.Tours.of_stop {result : Except ε VisitOutcome} (hv : visit.StandsIn source root)
    (hs : stop? (decision visit.child.position) = some result)
    (hlt : ∀ q ∈ second, visit.child.position < q) :
    (stopped result 1 (before ++ [visit])).Tours source root decision
      ({visit.child.position} ∪ second) before := by
  have hone : Tour decision {visit.child.position} _ _ := .singleton visit.child.position
  rw [hs] at hone
  refine ⟨[visit], rfl, List.forall_mem_singleton.mpr hv, hone.ended fun p hp => ?_⟩
  exact Set.mem_singleton_iff.mp hp ▸ hlt

theorem Level.Tours.after_visit (h : level.Tours source root decision second (before ++ [visit]))
    (hv : visit.StandsIn source root) (hs : stop? (decision visit.child.position) = none)
    (hlt : ∀ q ∈ second, visit.child.position < q) (earlier : Nat) :
    (level.after earlier).Tours source root decision
      ({visit.child.position} ∪ second) before := by
  obtain ⟨visits, hh, hstands, htour⟩ := h
  have hone : Tour decision {visit.child.position} _ _ := .singleton visit.child.position
  rw [hs] at hone
  refine ⟨visit :: visits, ?_, List.forall_mem_cons.mpr ⟨hv, hstands⟩, ?_⟩
  · rw [Level.host_after, hh, List.append_assoc, List.singleton_append]
  · rw [Level.result?_after]
    exact hone.append htour fun p hp => Set.mem_singleton_iff.mp hp ▸ hlt

theorem Level.Tours.stopped_before {result : Except ε VisitOutcome} {visits : Nat}
    {after : List (Visit ν)}
    (h : (stopped result visits after).Tours source root decision first before)
    (hlt : ∀ p ∈ first, ∀ q ∈ second, p < q) :
    (stopped result visits after).Tours source root decision (first ∪ second) before := by
  obtain ⟨visits, hh, hstands, htour⟩ := h
  exact ⟨visits, hh, hstands, htour.ended hlt⟩

theorem Level.Tours.finished_before {visits : Nat} {after : List (Visit ν)}
    (h : (finished visits after).Tours source root decision first before)
    (hl : level.Tours source root decision second after)
    (hlt : ∀ p ∈ first, ∀ q ∈ second, p < q) (earlier : Nat) :
    (level.after earlier).Tours source root decision (first ∪ second) before := by
  obtain ⟨visits, hh, hstands, htour⟩ := h
  obtain ⟨visits', hh', hstands', htour'⟩ := hl
  refine ⟨visits ++ visits', ?_, List.forall_mem_append.mpr ⟨hstands, hstands'⟩, ?_⟩
  · rw [Level.host_after, hh', ← List.append_assoc, ← hh]
    rfl
  · rw [Level.result?_after, positions, List.map_append]
    exact htour.append htour' hlt

theorem drop_below_eq_cons {place child : Place ν} {rest : List (Place ν)} {index : Nat}
    (h : (place.below source).drop index = child :: rest) :
    (source place.node)[index]? = some child.node ∧
      child.position = place.position ++ [index] ∧
      (place.below source).drop (index + 1) = rest := by
  have hi : index < (place.below source).length := by
    by_contra hle
    rw [List.drop_eq_nil_of_le (Nat.le_of_not_lt hle)] at h
    exact nomatch h
  rw [List.drop_eq_getElem_cons hi] at h
  obtain ⟨rfl, rfl⟩ := List.cons.inj h
  simp only [Place.below, List.length_mapIdx] at hi
  simp [Place.below, hi]

-- The recursion on the children of a place, from one of them on. The induction is on how deep the
-- source goes below the node, and on the children that are left.
theorem exists_descends (convert : δ → ε)
    (grounded : Acc (fun child parent => child ∈ source parent) node)
    {place : Place ν} (hnode : place.node = node) (hplace : place.StandsIn source root)
    (he : Entered decision place.position) (index : Nat) (before : List (Visit ν)) :
    ∃ level, Descends (Host.byPlace source decision convert) place
        ((place.below source).drop index) before level ∧
      level.Tours source root decision (AskedFrom source root decision place.position index)
        before := by
  induction grounded generalizing place index before with
  | intro node _ ih =>
    subst hnode
    generalize hp : (place.below source).drop index = pending
    induction pending generalizing index before with
    | nil =>
        have hle : (source place.node).length ≤ index := by simpa [Place.below] using hp
        rw [askedFrom_of_length_le hplace hle]
        exact ⟨_, .finished, [], (List.append_nil before).symm, nofun, .empty⟩
    | cons child rest ihp =>
        obtain ⟨hc, hposition, hrest⟩ := drop_below_eq_cons hp
        have hchild : child ∈ place.below source :=
          List.mem_of_mem_drop (hp ▸ List.mem_cons_self)
        have hv : Visit.StandsIn source root ⟨child, place⟩ := ⟨hplace, hchild⟩
        have hlt : ∀ q ∈ AskedFrom source root decision (place.position ++ [index]) 0 ∪
            AskedFrom source root decision place.position (index + 1),
            place.position ++ [index] < q := child_lt
        rw [askedFrom_eq hplace hc he]
        rw [← hposition] at hlt ⊢
        have hvisit : (Host.byPlace source decision convert).visit child place before =
          (decision child.position, before ++ [⟨child, place⟩]) := rfl
        rcases hd : decision child.position with error | answer <;> rw [hd] at hvisit
        · exact ⟨_, .failed hvisit, .of_stop hv (by rw [hd]; rfl) hlt⟩
        cases answer with
        | halt => exact ⟨_, .halted hvisit, .of_stop hv (by rw [hd]; rfl) hlt⟩
        | next =>
            obtain ⟨level, hlevel, ht⟩ := ihp (index + 1) (before ++ [⟨child, place⟩]) hrest
            have hnone : AskedFrom source root decision child.position 0 = ∅ := by
              rw [hposition]
              exact askedFrom_of_not_recurse (by simp [← hposition, hd])
            rw [hnone, Set.empty_union] at hlt ⊢
            exact ⟨_, .next hvisit hlevel, ht.after_visit hv (by rw [hd]; rfl) hlt 1⟩
        | recurse =>
            have hbelow : ∀ p ∈ AskedFrom source root decision (place.position ++ [index]) 0,
                ∀ q ∈ AskedFrom source root decision place.position (index + 1), p < q := below_lt
            have hin : Entered decision child.position := by
              rw [hposition] at hd ⊢
              exact entered_concat he hd
            rw [← hposition] at hbelow
            obtain ⟨inner, hinner, hi⟩ := ih child.node (List.mem_of_getElem? hc) rfl
              (hplace.of_mem_below hchild).1 hin 0 (before ++ [⟨child, place⟩])
            rw [List.drop_zero] at hinner
            cases inner with
            | stopped result visits after =>
                exact ⟨_, .stopped hvisit rfl hinner,
                  (hi.stopped_before hbelow).after_visit hv (by rw [hd]; rfl) hlt 1⟩
            | finished visits after =>
                obtain ⟨level, hlevel, ht⟩ := ihp (index + 1) after hrest
                have hboth := (hi.finished_before ht hbelow visits).after_visit hv
                  (by rw [hd]; rfl) hlt 1
                refine ⟨_, .recursed hvisit rfl hinner hlevel, ?_⟩
                simpa only [Level.Tours, Level.host_after, Level.result?_after] using hboth

end Level

section Whole

variable {source : ν → List ν} {root : ν} {decision : Position → Except ε ChildVisit}

-- The visits of a traversal whose visitor answers by the place, and its result.
structure InPreorder (source : ν → List ν) (root : ν) (decision : Position → Except ε ChildVisit)
    (visits : List (Visit ν)) (result : Except ε VisitOutcome) : Prop where
  -- In the order of the places, and each of them once.
  ascending : (positions visits).Pairwise (· < ·)
  -- Those whose ancestors below the root are all recursed into, up to the first answer that ends
  -- the traversal.
  mem_iff : ∀ p, p ∈ positions visits ↔ Asked source root decision p ∧
    ∀ q, Asked source root decision q → q < p → stop? (decision q) = none
  nodes : ∀ visit ∈ visits, visit.child.StandsIn source root ∧
    visit.parent.StandsIn source root ∧ visit.parent.position = visit.child.position.dropLast
  ends : (result = .ok .completed ∧ ∀ p, Asked source root decision p → stop? (decision p) = none) ∨
    ∃ earlier last, visits = earlier ++ [last] ∧
      stop? (decision last.child.position) = some result

theorem InPreorder.of_tours {level : Level ε (List (Visit ν))}
    (h : level.Tours source root decision {p | Asked source root decision p} []) :
    InPreorder source root decision level.host (level.result?.getD (.ok .completed)) := by
  obtain ⟨visits, hh, hstands, htour⟩ := h
  rw [List.nil_append] at hh
  subst hh
  refine ⟨htour.ascending, htour.mem_iff, fun visit hv => ?_, ?_⟩
  · obtain ⟨hparent, hchild⟩ := hstands visit hv
    obtain ⟨hc, -, hp⟩ := hparent.of_mem_below hchild
    exact ⟨hc, hparent, hp⟩
  · obtain ⟨hnone, hall⟩ | ⟨earlier, last, hp, hsome, hlast⟩ := htour.ends
    · exact .inl ⟨by rw [hnone]; rfl, hall⟩
    · obtain ⟨result, hr⟩ := Option.isSome_iff_exists.mp hsome
      obtain ⟨before, after, hv, rfl, hafter⟩ := List.map_eq_append_iff.mp hp
      obtain ⟨visit, rfl, rfl⟩ := List.map_eq_singleton_iff.mp hafter
      exact .inr ⟨before, visit, hv, by rw [hlast, hr]; rfl⟩

theorem Level.exists_unwinds {host : Host ν δ ε σ} {level : Level ε σ} {pending : List ν} {s : σ}
    (h : Descends host root pending s level) : ∃ visits,
      Unwinds host [⟨root, pending⟩] s (level.result?.getD (.ok .completed)) visits level.host := by
  cases level with
  | finished visits after => exact ⟨_, .finished h .completed⟩
  | stopped result visits after => exact ⟨_, .stopped h⟩

theorem exists_walks_byPlace (finite : {path | (nodeAt? source root path).isSome}.Finite)
    (decision : Position → Except ε ChildVisit) (convert : δ → ε) (walker : Walker) :
    ∃ after visits result, Walks (Host.byPlace source decision convert)
        [⟨⟨[], root⟩, Place.below source ⟨[], root⟩⟩] walker [] ⟨result, after, visits⟩ ∧
      InPreorder source root decision visits result := by
  have hroot : Place.StandsIn source root ⟨[], root⟩ := rfl
  have hentered : Entered decision [] := fun earlier hp hne => absurd (List.prefix_nil.mp hp) hne
  obtain ⟨level, hlevel, htours⟩ :=
    exists_descends convert (acc_of_finite finite) rfl hroot hentered 0 []
  rw [List.drop_zero] at hlevel
  rw [askedFrom_root] at htours
  obtain ⟨count, hu⟩ := Level.exists_unwinds hlevel
  obtain ⟨state, hw⟩ := hu.walks walker
  exact ⟨_, _, _, hw, .of_tours htours⟩

end Whole

section Agreement

variable {source : ν → List ν} {root : ν} {decision other : Position → Except ε ChildVisit}
  {visits visits' : List (Visit ν)} {result result' : Except ε VisitOutcome} {p : Position}

theorem lt_of_isPrefix {earlier p : Position} (h : earlier <+: p) (hne : earlier ≠ p) :
    earlier < p := by
  obtain ⟨rest, rfl⟩ := h
  cases rest with
  | nil => exact absurd (List.append_nil earlier).symm hne
  | cons i rest =>
      have hlt : earlier ++ [] < earlier ++ i :: rest :=
        List.append_left_lt (List.nil_lt_cons i rest)
      rwa [List.append_nil] at hlt

-- Whether a visitor is asked about a place is told by its answers at the places before.
theorem Asked.of_agree (h : Asked source root decision p) (hq : ∀ q, q < p → other q = decision q) :
    Asked source root other p where
  ne_root := h.ne_root
  exists_node := h.exists_node
  entered earlier hp hne hother :=
    (hq earlier (lt_of_isPrefix hp hother)).trans (h.entered earlier hp hne hother)

theorem InPreorder.mem_positions_of_agree (h : InPreorder source root decision visits result)
    (h' : InPreorder source root other visits' result') (hp : p ∈ positions visits)
    (hq : ∀ q, q < p → other q = decision q) : p ∈ positions visits' := by
  obtain ⟨hasked, hnone⟩ := (h.mem_iff p).mp hp
  refine (h'.mem_iff p).mpr ⟨hasked.of_agree hq, fun q hqa hlt => ?_⟩
  have hback : Asked source root decision q :=
    hqa.of_agree fun r hr => (hq r (List.lt_trans hr hlt)).symm
  rw [hq q hlt]
  exact hnone q hback hlt

-- The place of a visit tells the visit.
theorem InPreorder.visit_eq (h : InPreorder source root decision visits result)
    (h' : InPreorder source root other visits' result') {visit visit' : Visit ν}
    (hv : visit ∈ visits) (hv' : visit' ∈ visits')
    (hp : visit.child.position = visit'.child.position) : visit = visit' := by
  obtain ⟨hchild, hparent, hposition⟩ := h.nodes visit hv
  obtain ⟨hchild', hparent', hposition'⟩ := h'.nodes visit' hv'
  have hc : visit.child = visit'.child := hchild.ext hchild' hp
  have hparents : visit.parent = visit'.parent :=
    hparent.ext hparent' (by rw [hposition, hposition', hp])
  cases visit
  cases visit'
  exact congrArg₂ Visit.mk hc hparents

theorem InPreorder.mem_of_agree (h : InPreorder source root decision visits result)
    (h' : InPreorder source root other visits' result') {visit : Visit ν} (hv : visit ∈ visits)
    (hq : ∀ q, q < visit.child.position → other q = decision q) : visit ∈ visits' := by
  obtain ⟨visit', hv', hp⟩ := List.mem_map.mp
    (h.mem_positions_of_agree h' (List.mem_map_of_mem hv) hq)
  rwa [h.visit_eq h' hv hv' hp.symm]

-- The visits up to a place are told by the answers before it.
theorem InPreorder.filter_eq_of_agree (h : InPreorder source root decision visits result)
    (h' : InPreorder source root other visits' result') (hq : ∀ q, q < p → other q = decision q) :
    visits'.filter (·.child.position ≤ p) = visits.filter (·.child.position ≤ p) := by
  have hbefore {q r : Position} (hle : q ≤ p) (hr : r < q) : other r = decision r :=
    hq r (lt_of_lt_of_le hr hle)
  have hirrefl : Std.Irrefl fun visit visit' : Visit ν =>
      visit.child.position < visit'.child.position := ⟨fun visit => lt_irrefl visit.child.position⟩
  have hasymm : Std.Antisymm fun visit visit' : Visit ν =>
      visit.child.position < visit'.child.position :=
    ⟨fun _ _ hlt hgt => absurd hlt (List.lt_asymm hgt)⟩
  refine List.Pairwise.eq_of_mem_iff ((List.pairwise_map.mp h'.ascending).filter _)
    ((List.pairwise_map.mp h.ascending).filter _) fun visit => ?_
  simp only [List.mem_filter, decide_eq_true_eq]
  refine and_congr_left fun hle => ⟨fun hv => ?_, fun hv => ?_⟩
  · exact h'.mem_of_agree h hv fun q hlt => (hbefore hle hlt).symm
  · exact h.mem_of_agree h' hv fun q hlt => hbefore hle hlt

end Agreement

section Nodes

variable {source : ν → List ν} {root : ν} {decision : Position → Except ε ChildVisit}
  {convert : δ → ε}

-- A visitor that knows the nodes only answers one visit after the other as their places ask for,
-- by what it remembers of those before.
def Host.Answers (host : Host ν δ ε σ) (decision : Position → Except ε ChildVisit) :
    List (Visit ν) → σ → σ → Prop
  | [], s, t => s = t
  | visit :: visits, s, t => ∃ u,
      host.visit visit.child.node visit.parent.node s = (decision visit.child.position, u) ∧
        host.Answers decision visits u t

theorem map_node_below (source : ν → List ν) (place : Place ν) :
    (place.below source).map Place.node = source place.node :=
  List.ext_getElem (by simp [Place.below]) (by simp [Place.below])

-- Every visitor that answers alike is led by the open levels as the one that knows the places.
theorem Walks.exists_answers {stack : List (Frame (Place ν))} {walker : Walker}
    {before : List (Visit ν)} {ended : Ended ε (List (Visit ν))}
    (h : Walks (Host.byPlace source decision convert) stack walker before ended) :
    ∃ visits, ended.host = before ++ visits ∧
      ended.walker.visited = walker.visited + visits.length ∧
      ∀ (σ : Type) (host : Host ν δ ε σ) (s t : σ),
        (∀ node u, host.children node u = (.ok (source node), u)) →
        host.Answers decision visits s t →
        Walks host (stack.map (.map Place.node)) walker s ⟨ended.result, ended.walker, t⟩ := by
  induction h with
  | completed => exact ⟨[], (List.append_nil _).symm, rfl, fun σ host s t _ ht => ht ▸ .completed⟩
  | left _ ih =>
      obtain ⟨visits, hh, hcount, hw⟩ := ih
      exact ⟨visits, hh, hcount, fun σ host s t hpure ht => .left (hw σ host s t hpure ht)⟩
  | @failed parent child _ _ _ _ _ _ visit =>
      obtain ⟨hd, rfl⟩ := Prod.mk.inj visit
      refine ⟨[⟨child, parent⟩], rfl, rfl, fun σ host s t _ ht => ?_⟩
      obtain ⟨u, hv, hut⟩ := ht
      exact hut ▸ .failed (hv.trans (by rw [hd]))
  | @halted parent child _ _ _ _ _ visit =>
      obtain ⟨hd, rfl⟩ := Prod.mk.inj visit
      refine ⟨[⟨child, parent⟩], rfl, rfl, fun σ host s t _ ht => ?_⟩
      obtain ⟨u, hv, hut⟩ := ht
      exact hut ▸ .halted (hv.trans (by rw [hd]))
  | @next parent child _ _ _ _ _ _ visit _ ih =>
      obtain ⟨hd, rfl⟩ := Prod.mk.inj visit
      obtain ⟨visits, hh, hcount, hw⟩ := ih
      refine ⟨⟨child, parent⟩ :: visits, by simpa using hh, ?_, ?_⟩
      · simp only [hcount, List.length_cons, Nat.add_assoc, Nat.add_comm 1]
      · rintro σ host s t hpure ⟨u, hv, hut⟩
        have hrest := hw σ host u t hpure hut
        simp only [List.map_cons, Frame.map] at hrest ⊢
        exact .next (hv.trans (by rw [hd])) (by simpa using hrest)
  | unlisted visit children => cases (Prod.mk.inj children).1
  | @recursed parent child _ _ _ _ _ _ _ _ visit children _ ih =>
      obtain ⟨hd, rfl⟩ := Prod.mk.inj visit
      obtain ⟨hlisted, rfl⟩ := Prod.mk.inj children
      cases hlisted
      obtain ⟨visits, hh, hcount, hw⟩ := ih
      refine ⟨⟨child, parent⟩ :: visits, by simpa using hh, ?_, ?_⟩
      · simp only [hcount, List.length_cons, Nat.add_assoc, Nat.add_comm 1]
      · rintro σ host s t hpure ⟨u, hv, hut⟩
        have hrest := hw σ host u t hpure hut
        simp only [List.map_cons, Frame.map, map_node_below] at hrest ⊢
        exact .recursed (hv.trans (by rw [hd])) (hpure child.node u) (by simpa using hrest)

end Nodes

theorem exists_run_of_walks {host : Host ν δ ε σ} {root : ν} {listed : List ν} {walker : Walker}
    {s t : σ} {ended : Ended ε σ} (children : host.children root s = (.ok listed, t))
    (h : Walks host [⟨root, listed⟩] walker t ended) :
    ∃ enough, ∀ fuel, enough ≤ fuel → run host fuel root walker s = some ended := by
  obtain ⟨enough, hw⟩ := exists_walk_of_walks h
  exact ⟨enough, fun fuel hle => run_mono (by simpa only [run, children] using hw) hle⟩

-- A traversal that is led by the places below its root, of which there are finitely many, visits in
-- their order those that are recursed into from the root on, until an answer ends it. A visitor
-- that knows the nodes only, and answers alike, is asked about the same. Answers that differ only
-- after a place do not change the visits up to it.
theorem visits_in_preorder {source : ν → List ν} {root : ν}
    (finite : {path | (nodeAt? source root path).isSome}.Finite)
    (decision : Position → Except ε ChildVisit) (convert : δ → ε) (walker : Walker) :
    ∃ state visits result, InPreorder source root decision visits result ∧
      (∃ enough, ∀ fuel, enough ≤ fuel →
        run (Host.byPlace source decision convert) fuel ⟨[], root⟩ walker [] =
          some ⟨result, ⟨state, walker.visited + visits.length⟩, visits⟩) ∧
      (∀ (σ : Type) (host : Host ν δ ε σ) (s t : σ),
        (∀ node u, host.children node u = (.ok (source node), u)) →
        host.Answers decision visits s t →
        ∃ enough, ∀ fuel, enough ≤ fuel → run host fuel root walker s =
          some ⟨result, ⟨state, walker.visited + visits.length⟩, t⟩) ∧
      (∀ (other : Position → Except ε ChildVisit) (fuel : Nat) (later : Walker)
        (ended : Ended ε (List (Visit ν))) (p : Position),
        run (Host.byPlace source other convert) fuel ⟨[], root⟩ later [] = some ended →
        (∀ q, q < p → other q = decision q) →
        ended.host.filter (·.child.position ≤ p) = visits.filter (·.child.position ≤ p)) := by
  obtain ⟨⟨state, visited⟩, visits, result, hwalks, hin⟩ :=
    exists_walks_byPlace finite decision convert walker
  have hroot (choice : Position → Except ε ChildVisit) :
      (Host.byPlace source choice convert).children ⟨[], root⟩ [] =
        (.ok (Place.below source ⟨[], root⟩), []) := rfl
  obtain ⟨own, hown, hcount, hnodes⟩ := hwalks.exists_answers
  obtain rfl : visits = own := hown
  obtain rfl : visited = walker.visited + visits.length := hcount
  refine ⟨state, visits, result, hin, exists_run_of_walks (hroot decision) hwalks,
    fun σ host s t hpure hanswers => ?_, fun other fuel later ended p hrun hagree => ?_⟩
  · have hw := hnodes σ host s t hpure hanswers
    rw [List.map_singleton, Frame.map, map_node_below] at hw
    exact exists_run_of_walks (hpure root s) hw
  · obtain ⟨after, visits', result', hwalks', hin'⟩ :=
      exists_walks_byPlace finite other convert later
    obtain ⟨enough, hr⟩ := exists_run_of_walks (hroot other) hwalks'
    rw [run_unique hrun (hr enough (Nat.le_refl _))]
    exact hin.filter_eq_of_agree hin' hagree

-- A node that stands at three places, two of them below one node that stands at two.
def shared : Nat → List Nat
  | 0 => [1, 2, 1]
  | 1 => [2]
  | _ => []

-- Stops at the last of these places.
def wary : Position → Except String ChildVisit
  | [2, 0] => .ok .halt
  | _ => .ok .recurse

theorem finite_shared : {path | (nodeAt? shared 0 path).isSome}.Finite := by
  refine (List.finite_toSet [[], [0], [0, 0], [1], [2], [2, 0]]).subset fun path hp => ?_
  have hleaf (rest : Position) (h : (nodeAt? shared 2 rest).isSome) : rest = [] := by
    cases rest with
    | nil => rfl
    | cons i rest => simp [nodeAt?, shared] at h
  have hinner (rest : Position) (h : (nodeAt? shared 1 rest).isSome) : rest = [] ∨ rest = [0] := by
    rcases rest with _ | ⟨_ | i, rest⟩
    · exact .inl rfl
    · exact .inr (by rw [hleaf rest h])
    · simp [nodeAt?, shared] at h
  rcases path with _ | ⟨_ | _ | _ | i, rest⟩
  · simp
  · rcases hinner rest hp with rfl | rfl <;> simp
  · simp [hleaf rest hp]
  · rcases hinner rest hp with rfl | rfl <;> simp
  · simp [nodeAt?, shared] at hp

theorem visits_in_preorder_of_shared : {path | (nodeAt? shared 0 path).isSome}.Finite ∧
    ∃ visits, InPreorder shared 0 wary visits (.ok .aborted) ∧
      positions visits = [[0], [0, 0], [1], [2], [2, 0]] := by
  obtain ⟨state, visits, result, hin, ⟨enough, hrun⟩, -⟩ :=
    visits_in_preorder finite_shared wary (id : String → String) {}
  obtain ⟨ended, hended, hresult, hpositions⟩ : ∃ ended,
      run (Host.byPlace shared wary (id : String → String)) 9 ⟨[], 0⟩ {} [] = some ended ∧
        ended.result = .ok .aborted ∧
        positions ended.host = [[0], [0, 0], [1], [2], [2, 0]] := ⟨_, rfl, rfl, rfl⟩
  rw [run_unique hended (hrun enough (Nat.le_refl _))] at hresult hpositions
  exact ⟨finite_shared, visits, hresult ▸ hin, hpositions⟩

end SyntaxHandles.Traversal
