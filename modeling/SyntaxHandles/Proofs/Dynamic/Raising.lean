import SyntaxHandles.Proofs.Dynamic.Visits
import SyntaxHandles.Proofs.Traversal.Passing

-- Traversals whose visitors raise exceptions, or break them off. A visit that a traversal comes to
-- ends it there. Each visit is noted with what it answers and with what is there after it, which
-- changes nothing else.

namespace SyntaxHandles

namespace Scripting

variable {σ ε : Type}

section Ending

variable {library : Native.Library} {key : Nat} {refuse : Fault → ε} {root child parent : CursorToken}
  {visit : (child parent : CursorToken) → Script σ (Except ε ChildVisit)}
  {pending : List CursorToken} {stack outer : List (Traversal.Frame CursorToken)}
  {s t u : Thread × σ}

-- The fuel of a traversal decides only whether it comes to its end.
theorem walk_of_passes (passes : Traversal.Passes (host library key refuse visit) root s stack t)
    {result : Except (Halt ε) VisitOutcome} {visits : Nat}
    (rest : Traversal.Unwinds (host library key refuse visit) stack t result visits u) :
    ∃ enough, ∀ fuel, enough ≤ fuel →
      (walk library fuel key refuse visit root).run s = concluded (some (result, u)) := by
  obtain ⟨enough, walker, hrun⟩ := passes.exists_run rest {}
  refine ⟨enough, fun fuel hle => ?_⟩
  rw [run_walk, Traversal.run_mono hrun hle]
  rfl

theorem walk_of_raise
    (passes : Traversal.Passes (host library key refuse visit) root s
      (⟨parent, child :: pending⟩ :: outer) t) {problem : ε}
    (raises : (visit child parent).run t = .ok (.error problem, u)) :
    ∃ enough, ∀ fuel, enough ≤ fuel →
      (walk library fuel key refuse visit root).run s = .ok (.error problem, u) := by
  have hv : (host library key refuse visit).visit child parent t = (.error (.problem problem), u) := by
    simp only [host, Session.host, answered, raises]
    rfl
  exact walk_of_passes passes (.stopped (.failed hv))

theorem walk_of_halt
    (passes : Traversal.Passes (host library key refuse visit) root s
      (⟨parent, child :: pending⟩ :: outer) t)
    (halts : (visit child parent).run t = .ok (.ok .halt, u)) :
    ∃ enough, ∀ fuel, enough ≤ fuel →
      (walk library fuel key refuse visit root).run s = .ok (.ok .aborted, u) := by
  have hv : (host library key refuse visit).visit child parent t = (.ok .halt, u) := by
    simp only [host, Session.host, answered, halts]
    rfl
  exact walk_of_passes passes (.stopped (.halted hv))

end Ending

def noting (visit : (child parent : CursorToken) → Script σ (Except ε ChildVisit))
    (child parent : CursorToken) :
    Script (Visits σ (Except ε ChildVisit × (Thread × σ))) (Except ε ChildVisit) := do
  let answer ← aside (visit child parent)
  let (thread, visits) ← get
  note (answer, (thread, visits.desk))
  return answer

variable {library : Native.Library} {fuel key : Nat} {refuse : Fault → ε} {root : CursorToken}
  {visit : (child parent : CursorToken) → Script σ (Except ε ChildVisit)}

theorem run_noting (child parent : CursorToken) (thread : Thread)
    (v : Visits σ (Except ε ChildVisit × (Thread × σ))) :
    (noting visit child parent).run (thread, v) = ((visit child parent).run (thread, v.desk)).map
      fun (answer, after, desk) =>
        (answer, (after, { v with desk, seen := (answer, (after, desk)) :: v.seen })) := by
  rw [noting, StateT.run_bind, run_aside]
  cases (visit child parent).run (thread, v.desk) <;> rfl

theorem alike_noting (child parent : CursorToken) (thread : Thread)
    (v : Visits σ (Except ε ChildVisit × (Thread × σ))) :
    Alike (fun (v : Visits σ _) desk => v.desk = desk) id
      ((noting visit child parent).run (thread, v))
      ((visit child parent).run (thread, v.desk)) := by
  rw [run_noting]
  rcases (visit child parent).run (thread, v.desk) with stop | ⟨problem | decision, after, desk⟩
  · exact .stop stop
  · exact .ended (.error problem) after rfl
  · exact .ended (.ok decision) after rfl

theorem answered_noting (child parent : CursorToken) (thread : Thread)
    (v : Visits σ (Except ε ChildVisit × (Thread × σ))) :
    answered (noting visit child parent) (thread, v) =
      match (visit child parent).run (thread, v.desk) with
      | .error stop => (.error (.stop stop), (thread, v))
      | .ok (answer, after, desk) => (answer.mapError .problem,
          (after, { v with desk, seen := (answer, (after, desk)) :: v.seen })) := by
  rw [answered, run_noting]
  cases (visit child parent).run (thread, v.desk) <;> rfl

-- No visit failed that was noted.
def Unfailed (noted : List (Except ε ChildVisit × (Thread × σ))) : Prop :=
  ∀ visit ∈ noted, visit.1.isOk

-- The visit that was noted last is the first one that failed.
def FailedLast (s : Thread × Visits σ (Except ε ChildVisit × (Thread × σ))) (problem : ε) : Prop :=
  ∃ older, s.2.seen = (.error problem, (s.1, s.2.desk)) :: older ∧ Unfailed older

theorem noting_breaks (library : Native.Library) (key : Nat) (refuse : Fault → ε)
    (visit : (child parent : CursorToken) → Script σ (Except ε ChildVisit)) :
    Traversal.Host.Breaks (fun s => Unfailed s.2.seen)
      (fun halt s => ∀ problem, halt = .problem problem → FailedLast s problem)
      (host library key refuse (noting visit)) where
  children hs hc := by
    obtain ⟨-, rfl⟩ := Prod.mk.inj hc
    exact hs
  decided {child parent s decision t} hs hv := by
    have hv' : answered (noting visit child parent) s = (.ok decision, t) := hv
    rw [answered_noting] at hv'
    generalize (visit child parent).run (s.1, s.2.desk) = ended at hv'
    rcases ended with stop | ⟨error | decided, after, desk⟩
    · exact nomatch hv'
    · exact nomatch hv'
    · cases hv'
      exact List.forall_mem_cons.mpr ⟨rfl, hs⟩
  failed {child parent s halt t} hs hv := by
    have hv' : answered (noting visit child parent) s = (.error halt, t) := hv
    rw [answered_noting] at hv'
    generalize (visit child parent).run (s.1, s.2.desk) = ended at hv'
    rcases ended with stop | ⟨error | decided, after, desk⟩
    · cases hv'
      exact fun problem he => nomatch he
    · cases hv'
      rintro problem ⟨⟩
      exact ⟨_, rfl, hs⟩
    · exact nomatch hv'

theorem Unfailed.reverse {noted : List (Except ε ChildVisit × (Thread × σ))} (h : Unfailed noted) :
    Unfailed noted.reverse :=
  fun visit hm => h visit (List.mem_reverse.mp hm)

-- Either no visit fails, or the last one does, and what it fails with ends the traversal, where
-- everything is as the visit left it.
theorem seen_of_traverse {s t : Thread × σ} {result : Except ε VisitOutcome}
    {seen : List (Except ε ChildVisit × (Thread × σ))}
    (h : (traverse library fuel key refuse (noting visit) root).run s = .ok ((result, seen), t)) :
    Unfailed seen ∨ ∃ earlier problem, seen = earlier ++ [(.error problem, t)] ∧
      Unfailed earlier ∧ result = .error problem := by
  rw [run_traverse] at h
  cases hrun : Traversal.run (host library key refuse (noting visit)) fuel root {}
      (s.1, { desk := s.2 }) with
  | none =>
      rw [hrun] at h
      exact nomatch h
  | some ended =>
      have hended := Traversal.run_breaks (noting_breaks library key refuse visit) hrun
        (fun _ hm => nomatch hm)
      obtain ⟨result', walker, thread, visits⟩ := ended
      rw [hrun] at h
      rcases result' with (problem | stop) | outcome
      · cases h
        rcases hended with hok | ⟨error, he, hq⟩
        · exact .inl hok.reverse
        · obtain ⟨older, hseen, hold⟩ := hq problem (Except.error.inj he).symm
          have hlast := (congrArg List.reverse hseen).trans List.reverse_cons
          exact .inr ⟨older.reverse, problem, hlast, hold.reverse, rfl⟩
      · exact nomatch h
      · cases h
        rcases hended with hok | ⟨error, he, -⟩
        · exact .inl hok.reverse
        · exact nomatch he

end Scripting

end SyntaxHandles
