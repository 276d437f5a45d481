import SyntaxHandles.Proofs.Traversal.Refinement

-- The points that a traversal comes by, and what is left of it where no node can be listed any
-- more: the nodes that were listed before are visited, and nothing else is.

namespace SyntaxHandles.Traversal

variable {ν δ ε σ : Type}

section Passing

variable {host : Host ν δ ε σ} {root : ν} {stack : List (Frame ν)} {s t : σ}

-- The open levels that a traversal comes by, and the state that it has there.
inductive Passes (host : Host ν δ ε σ) (root : ν) (s : σ) : List (Frame ν) → σ → Prop
  | start {listed t} (children : host.children root s = (.ok listed, t)) :
      Passes host root s [⟨root, listed⟩] t
  | left {parent outer t} (before : Passes host root s (⟨parent, []⟩ :: outer) t) :
      Passes host root s outer t
  | next {parent child pending outer t u}
      (before : Passes host root s (⟨parent, child :: pending⟩ :: outer) t)
      (visit : host.visit child parent t = (.ok .next, u)) :
      Passes host root s (⟨parent, pending⟩ :: outer) u
  | recursed {parent child pending outer t u listed v}
      (before : Passes host root s (⟨parent, child :: pending⟩ :: outer) t)
      (visit : host.visit child parent t = (.ok .recurse, u))
      (children : host.children child u = (.ok listed, v)) :
      Passes host root s (⟨child, listed⟩ :: ⟨parent, pending⟩ :: outer) v

-- A traversal that comes by open levels has begun.
theorem Passes.exists_children (h : Passes host root s stack t) :
    ∃ listed u, host.children root s = (.ok listed, u) := by
  induction h with
  | start children => exact ⟨_, _, children⟩
  | left _ ih => exact ih
  | next _ _ ih => exact ih
  | recursed _ _ _ ih => exact ih

-- What the open levels come to is what the whole traversal comes to.
theorem Passes.exists_run (h : Passes host root s stack t) {result : Except ε VisitOutcome}
    {visits : Nat} {u : σ} (hu : Unwinds host stack t result visits u) (walker : Walker) :
    ∃ fuel after, run host fuel root walker s = some ⟨result, after, u⟩ := by
  induction h generalizing visits with
  | start children =>
      obtain ⟨state, he⟩ := hu.walks walker
      obtain ⟨fuel, hw⟩ := exists_walk_of_walks he
      exact ⟨fuel, _, by simpa only [run, children] using hw⟩
  | left _ ih => exact ih (.finished .finished hu)
  | next _ visit ih => exact ih (hu.next visit)
  | recursed _ visit children ih => exact ih (hu.recursed visit children)

theorem Passes.all {P : ν → Prop} (hd : Host.HandsDown P host) (hroot : P root)
    (h : Passes host root s stack t) : ∀ frame ∈ stack, frame.All P := by
  induction h with
  | start children => exact List.forall_mem_singleton.mpr ⟨hroot, hd hroot children⟩
  | left _ ih => exact (List.forall_mem_cons.mp ih).2
  | next _ _ ih =>
      obtain ⟨hframe, houter⟩ := List.forall_mem_cons.mp ih
      exact List.forall_mem_cons.mpr ⟨hframe.tail, houter⟩
  | recursed _ _ children ih =>
      obtain ⟨hframe, houter⟩ := List.forall_mem_cons.mp ih
      have hchild := hframe.2 _ (.head _)
      exact List.forall_mem_cons.mpr ⟨⟨hchild, hd hchild children⟩,
        List.forall_mem_cons.mpr ⟨hframe.tail, houter⟩⟩

theorem Passes.keeps {R : σ → σ → Prop} (hk : Host.Keeps R host)
    (h : Passes host root s stack t) : R s t := by
  induction h with
  | start children => exact hk.of_children children
  | left _ ih => exact ih
  | next _ visit ih => exact hk.trans ih (hk.of_visit visit)
  | recursed _ visit children ih =>
      exact hk.trans ih (hk.trans (hk.of_visit visit) (hk.of_children children))

end Passing

section Delivering

-- What was listed and is still to be visited, each node with its parent, in the order of visits.
def outstanding (stack : List (Frame ν)) : List (ν × ν) :=
  stack.flatMap fun frame => frame.pending.map (·, frame.parent)

-- The rest of a traversal that lists nothing any more.
def deliver (visit : ν → ν → σ → Except ε ChildVisit × σ) (refused : ε) :
    List (ν × ν) → σ → Except ε VisitOutcome × σ
  | [], s => (.ok .completed, s)
  | (child, parent) :: rest, s =>
    match visit child parent s with
    | (.error error, s) => (.error error, s)
    | (.ok .halt, s) => (.ok .aborted, s)
    | (.ok .recurse, s) => (.error refused, s)
    | (.ok .next, s) => deliver visit refused rest s

-- What holds after each of these visits.
def Remains (visit : ν → ν → σ → Except ε ChildVisit × σ) (P : σ → Prop) :
    List (ν × ν) → σ → Prop
  | [], _ => True
  | (child, parent) :: rest, s =>
    P (visit child parent s).2 ∧
      ((visit child parent s).1 = .ok .next → Remains visit P rest (visit child parent s).2)

variable {P : σ → Prop} {refused : ε}

theorem Remains.and {visit : ν → ν → σ → Except ε ChildVisit × σ} {Q : σ → Prop}
    (keeps : ∀ child parent s, Q s → Q (visit child parent s).2) {pairs : List (ν × ν)} {s : σ}
    (h : Remains visit P pairs s) (hs : Q s) : Remains visit (fun s => Q s ∧ P s) pairs s := by
  induction pairs generalizing s with
  | nil => trivial
  | cons pair rest ih =>
      obtain ⟨child, parent⟩ := pair
      exact ⟨⟨keeps child parent s hs, h.1⟩,
        fun hnext => ih (h.2 hnext) (keeps child parent s hs)⟩

theorem unwinds_deliver (host : Host ν δ ε σ) (stack : List (Frame ν)) (s : σ)
    (refuse : ∀ frame ∈ stack, ∀ child ∈ frame.pending, ∀ s, P s →
      ∃ error, host.children child s = (.error error, s) ∧ host.convert error = refused)
    (hr : Remains host.visit P (outstanding stack) s) :
    ∃ visits, Unwinds host stack s (deliver host.visit refused (outstanding stack) s).1 visits
      (deliver host.visit refused (outstanding stack) s).2 := by
  induction stack generalizing s with
  | nil => exact ⟨0, .completed⟩
  | cons frame outer ih =>
      obtain ⟨parent, pending⟩ := frame
      obtain ⟨hframe, houter⟩ := List.forall_mem_cons.mp refuse
      induction pending generalizing s with
      | nil =>
          obtain ⟨visits, hu⟩ := ih s houter hr
          exact ⟨_, .finished .finished hu⟩
      | cons child pending ihp =>
          have hpending := fun other ho => hframe other (.tail _ ho)
          obtain ⟨hp, hrest⟩ := hr
          simp only [outstanding, List.flatMap_cons, List.map_cons, List.cons_append, deliver]
          rcases hv : host.visit child parent s with ⟨error | decision, t⟩
          · exact ⟨1, .stopped (.failed hv)⟩
          · rw [hv] at hp hrest
            cases decision with
            | halt => exact ⟨1, .stopped (.halted hv)⟩
            | recurse =>
                obtain ⟨error, hc, rfl⟩ := hframe child (.head _) t hp
                exact ⟨1, .stopped (.unlisted hv hc)⟩
            | next =>
                obtain ⟨visits, hu⟩ := ihp t
                  (List.forall_mem_cons.mpr ⟨hpending, houter⟩) (hrest rfl) hpending
                exact ⟨_, hu.next hv⟩

end Delivering

end SyntaxHandles.Traversal
