import SyntaxHandles.Proofs.Dynamic.Outcomes
import SyntaxHandles.Proofs.Traversal.Returning

-- What visitors of a host answer. Only whole numbers are answers, and only zero breaks a traversal
-- off: whatever else a visitor returns, and be it false, means to go on.

namespace SyntaxHandles.Dynamic

open Scripting Telling

namespace Value

theorem visit_eq_halt_iff (value : Value) : value.visit = .halt ↔ value.integer? = some 0 := by
  rw [visit_eq_ofAnswer]
  constructor
  · intro h
    cases hn : value.integer? with
    | none =>
        rw [hn] at h
        cases h
    | some n =>
        rw [hn, ChildVisit.ofAnswer, Option.bind_some] at h
        cases hk : (Constant.ofRaw? n : Option ChildVisit) with
        | none =>
            rw [hk] at h
            cases h
        | some decision =>
            rw [hk] at h
            obtain rfl : decision = .halt := h
            exact congrArg some (raw_of_ofRaw? hk).symm
  · intro h
    rw [h]
    rfl

end Value

-- One call of a visitor: with what it was called, and what came of it.
structure Visit where
  child : Value
  parent : Value
  answer : Except Problem Value

def Visit.nodes (visit : Visit) : Value × Value :=
  (visit.child, visit.parent)

-- Whether the visitor broke the traversal off.
def Visit.Breaks (visit : Visit) : Prop :=
  ∃ value, visit.answer = .ok value ∧ value.integer? = some 0

-- One visit by a function of the host, which is noted.
def answering (session : Nat) (callback : Value → Value → Part Value)
    (child parent : CursorToken) :
    Scripting.Script (Visits Desk Visit) (Except Problem ChildVisit) := do
  let child ← aside (wrap session (.cursor child))
  let parent ← aside (wrap session (.cursor parent))
  let answer ← aside (callback child parent).run
  note ⟨child, parent, answer⟩
  return answer.map Value.visit

def visits (library : Native.Library) (fuel session : Nat) (root : CursorToken)
    (callback : Value → Value → Part Value) :
    Script (Except Problem VisitOutcome × List Visit) :=
  traverse library fuel session refused (answering session callback) root

section Visits

variable {library : Native.Library} {fuel session : Nat} {root : CursorToken}
  {callback patched : Value → Value → Part Value} {s t : Thread × Desk}

-- The objects that a visitor is called with are made for the call.

def childAt (session : Nat) (child : CursorToken) (desk : Desk) : Value :=
  .held desk.made session (.cursor child)

def parentAt (session : Nat) (parent : CursorToken) (desk : Desk) : Value :=
  .held desk.grown.made session (.cursor parent)

-- What a visitor answers at a visit.
def answerAt (session : Nat) (callback : Value → Value → Part Value) (child parent : CursorToken)
    (s : Thread × Desk) : Except Stop (Except Problem Value × (Thread × Desk)) :=
  (callback (childAt session child s.2) (parentAt session parent s.2)).run.run (s.1, s.2.grown.grown)

theorem run_visitOnce (child parent : CursorToken) (s : Thread × Desk) :
    (visitOnce session callback child parent).run s =
      (answerAt session callback child parent s).map fun (answer, after) =>
        (answer.map Value.visit, after) := by
  rw [visitOnce, run_next (run_wrap session (.cursor child) s),
    run_next (run_wrap session (.cursor parent) (s.1, s.2.grown)), StateT.run_bind]
  change answerAt session callback child parent s >>= _ = _
  cases answerAt session callback child parent s <;> rfl

theorem run_answering (child parent : CursorToken) (thread : Thread) (v : Visits Desk Visit) :
    (answering session callback child parent).run (thread, v) =
      (answerAt session callback child parent (thread, v.desk)).map fun (answer, after, desk) =>
        (answer.map Value.visit, (after, { v with desk, seen :=
          ⟨childAt session child v.desk, parentAt session parent v.desk, answer⟩ :: v.seen })) := by
  have hfirst : (aside (wrap session (.cursor child)) : Scripting.Script (Visits Desk Visit) _).run
      (thread, v) = .ok (childAt session child v.desk, (thread, { v with desk := v.desk.grown })) :=
    rfl
  have hsecond : (aside (wrap session (.cursor parent)) :
      Scripting.Script (Visits Desk Visit) _).run (thread, { v with desk := v.desk.grown }) =
        .ok (parentAt session parent v.desk, (thread, { v with desk := v.desk.grown.grown })) := rfl
  rw [answering, run_next hfirst, run_next hsecond, StateT.run_bind, run_aside, answerAt]
  cases (callback _ _).run.run _ <;> rfl

-- That the visits are noted is of no consequence.
theorem alike_answering (session : Nat) (callback : Value → Value → Part Value)
    (child parent : CursorToken) (thread : Thread) (v : Visits Desk Visit) :
    Alike (fun (v : Visits Desk Visit) desk => v.desk = desk) id
      ((answering session callback child parent).run (thread, v))
      ((visitOnce session callback child parent).run (thread, v.desk)) := by
  rw [run_answering, run_visitOnce]
  rcases answerAt session callback child parent (thread, v.desk) with
    stop | ⟨problem | value, after, desk⟩
  · exact .stop stop
  · exact .ended (.error problem) after rfl
  · exact .ended (.ok value.visit) after rfl

theorem visits_told (s : Thread × Desk) :
    ((visits library fuel session root callback).run s).map outcomeTold =
      ((walk library fuel session refused (visitOnce session callback) root).run s).map got :=
  map_outcomeTold session root (alike_answering session callback) s

section Breaking

theorem breaks_iff {node above : Value} {answer : Except Problem Value} :
    (⟨node, above, answer⟩ : Visit).Breaks ↔ answer.map Value.visit = .ok .halt := by
  cases answer with
  | error problem => exact iff_of_false (fun ⟨_, h, _⟩ => nomatch h) nofun
  | ok value =>
      constructor
      · rintro ⟨_, h, hn⟩
        cases h
        exact congrArg Except.ok (value.visit_eq_halt_iff.mpr hn)
      · intro h
        exact ⟨value, rfl, value.visit_eq_halt_iff.mp (Except.ok.inj h)⟩

theorem answering_marks (library : Native.Library) (session : Nat)
    (callback : Value → Value → Part Value) :
    Traversal.Host.Marks (fun s => ∃ visit ∈ s.2.seen, visit.Breaks)
      (host library session refused (answering session callback)) where
  children hc := by
    obtain ⟨-, rfl⟩ := Prod.mk.inj hc
    exact Iff.rfl
  visit {child parent s answer t} hv := by
    have hv' : answered (answering session callback child parent) (s.1, s.2) = (answer, t) := hv
    rw [answered, run_answering] at hv'
    rcases hr : answerAt session callback child parent (s.1, s.2.desk) with
      stop | ⟨ended, after, desk⟩ <;> rw [hr] at hv' <;> cases hv'
    · exact (or_iff_right (by simp)).symm
    · simp only [List.exists_mem_cons_iff, breaks_iff]
      refine or_congr_left ?_
      cases ended with
      | error problem => simp [Except.map, Except.mapError]
      | ok value =>
          exact ⟨fun h => congrArg _ (Except.ok.inj h), fun h => congrArg _ (Except.ok.inj h)⟩

-- A traversal is aborted if, and only if, a visitor breaks it off.
theorem visits_aborted_iff {result : Except Problem VisitOutcome} {calls : List Visit}
    (h : (visits library fuel session root callback).run s = .ok ((result, calls), t)) :
    result = .ok .aborted ↔ ∃ visit ∈ calls, visit.Breaks := by
  rw [visits, run_traverse] at h
  cases hrun : Traversal.run (host library session refused (answering session callback)) fuel root
      {} (s.1, { desk := s.2 }) with
  | none =>
      rw [hrun] at h
      exact nomatch h
  | some ended =>
      have hended := Traversal.run_aborted_iff (answering_marks library session callback) hrun nofun
      obtain ⟨result', walker, thread, noted⟩ := ended
      rw [hrun] at h
      rcases result' with (problem | stop) | outcome <;> cases h
      · simp only [List.mem_reverse]
        exact iff_of_false nofun (hended.not.mp nofun)
      · simp only [List.mem_reverse, ← hended, Except.ok.injEq]

-- A visit that answers with zero is the last one, wherever the traversal comes to it.
theorem visits_of_break {child parent : CursorToken} {pending : List CursorToken}
    {outer : List (Traversal.Frame CursorToken)} {u : Thread × Desk} {value : Value}
    (passes : Traversal.Passes (host library session refused (visitOnce session callback)) root s
      (⟨parent, child :: pending⟩ :: outer) t)
    (answers : answerAt session callback child parent t = .ok (.ok value, u))
    (hzero : value.integer? = some 0) :
    ∃ enough, ∀ fuel, enough ≤ fuel → ∃ calls,
      (visits library fuel session root callback).run s = .ok ((.ok .aborted, calls), u) := by
  have halts : (visitOnce session callback child parent).run t = .ok (.ok .halt, u) := by
    rw [run_visitOnce, answers]
    simp only [Except.map, value.visit_eq_halt_iff.mpr hzero]
  obtain ⟨enough, hends⟩ := walk_of_halt passes halts
  refine ⟨enough, fun fuel hle => ?_⟩
  have hunnoted := traverse_unnoted library fuel session refused root
    (alike_answering session callback) s
  rw [hends fuel hle, ← visits] at hunnoted
  cases hr : (visits library fuel session root callback).run s with
  | error stop =>
      rw [hr] at hunnoted
      exact nomatch hunnoted
  | ok told =>
      obtain ⟨⟨result, calls⟩, after⟩ := told
      rw [hr] at hunnoted
      cases hunnoted
      exact ⟨calls, rfl⟩

end Breaking

section Responding

-- A visitor that comes to an answer or raises, wherever it is called.
def Responds (callback : Value → Value → Part Value) : Prop :=
  ∀ node above s, s.1.Free → ∃ answer t, (callback node above).run.run s = .ok (answer, t) ∧ t.1.Free

theorem answering_stays (library : Native.Library) (session : Nat) (responds : Responds callback) :
    Traversal.Host.Stays (fun p : Thread × Visits Desk Visit => p.1.Free)
      (fun halt => ∀ stop, halt ≠ .stop stop)
      (host library session refused (answering session callback)) := by
  refine Session.host_stays (fun _ hp => hp) (fun node p hp => ?_) (fun _ _ h => by cases h)
    fun child parent ⟨thread, v⟩ hp => ?_
  · exact (Session.Offers.unhindered (.children node) hp).free
  · obtain ⟨answer, t, ha, ht⟩ := responds (childAt session child v.desk)
      (parentAt session parent v.desk) (thread, v.desk.grown.grown) hp
    simp only [answered, run_answering, answerAt, ha]
    refine ⟨ht, fun halt he stop hs => ?_⟩
    subst hs
    cases answer <;> cases he

-- If the nodes below the root do not go on without end, a traversal by such a visitor returns.
theorem visits_return (responds : Responds callback) (hs : s.1.Free)
    (finite : Acc (fun node above => node ∈ library.children above) root.raw) :
    ∃ enough told, ∀ fuel, enough ≤ fuel →
      (visits library fuel session root callback).run s = .ok told := by
  have hacc : Acc (host library session refused (answering session callback)).ChildOf root :=
    Subrelation.accessible (fun ⟨_, _, _, listed, hm⟩ => (Session.host_lists listed _ hm).2)
      (InvImage.accessible Token.raw finite)
  have hreturns : Traversal.Returns (host library session refused (answering session callback)) root
      {} (s.1, { desk := s.2 }) :=
    Traversal.returns_of_acc (Subrelation.accessible Traversal.Host.Lists.childOf hacc)
  obtain ⟨enough, ended, hrun⟩ := hreturns
  obtain ⟨-, hends⟩ := Traversal.run_stays (answering_stays library session responds)
    (hrun enough (Nat.le_refl enough)) hs
  obtain ⟨result, walker, thread, v⟩ := ended
  have htold (fuel : Nat) (hle : enough ≤ fuel) :
      (visits library fuel session root callback).run s = ending (some (result, (thread, v))) := by
    rw [visits, run_traverse, hrun fuel hle]
    rfl
  rcases result with (problem | stop) | outcome
  · exact ⟨enough, _, htold⟩
  · exact absurd rfl (hends _ rfl stop)
  · exact ⟨enough, _, htold⟩

end Responding

section Patching

-- The same end, except that an answer that is no code may have become the code for going on.
inductive Patches : Except Stop (Except Problem Value × (Thread × Desk)) →
    Except Stop (Except Problem Value × (Thread × Desk)) → Prop
  | same (ended) : Patches ended ended
  | replaced {value : Value}
      (unknown : value.integer?.bind Constant.ofRaw? = (none : Option ChildVisit)) (t) :
      Patches (.ok (.ok value, t)) (.ok (.ok (.int (Constant.raw ChildVisit.next)), t))

-- The same calls, as far as the answers do not matter.
def SameCalls (v w : Visits Desk Visit) : Prop :=
  v.desk = w.desk ∧ v.seen.map Visit.nodes = w.seen.map Visit.nodes

theorem alike_patched (session : Nat)
    (hp : ∀ child parent s,
      Patches ((callback child parent).run.run s) ((patched child parent).run.run s))
    (child parent : CursorToken) (thread : Thread) {v w : Visits Desk Visit} (h : SameCalls v w) :
    Alike SameCalls id ((answering session callback child parent).run (thread, v))
      ((answering session patched child parent).run (thread, w)) := by
  obtain ⟨hdesk, hseen⟩ := h
  have ha : Patches (answerAt session callback child parent (thread, v.desk))
    (answerAt session patched child parent (thread, v.desk)) := hp _ _ _
  rw [run_answering, run_answering, ← hdesk]
  generalize answerAt session callback child parent (thread, v.desk) = x at ha ⊢
  generalize answerAt session patched child parent (thread, v.desk) = y at ha ⊢
  have related (answer answer' : Except Problem Value) (desk : Desk) :
      SameCalls
        { v with desk, seen := ⟨childAt session child v.desk, parentAt session parent v.desk, answer⟩
          :: v.seen }
        { w with desk, seen := ⟨childAt session child v.desk, parentAt session parent v.desk, answer'⟩
          :: w.seen } :=
    ⟨rfl, congrArg (_ :: ·) hseen⟩
  cases ha with
  | same =>
      rcases x with stop | ⟨problem | value, after, desk⟩
      · exact .stop stop
      · exact .ended (.error problem) after (related _ _ desk)
      · exact .ended (.ok value.visit) after (related _ _ desk)
  | @replaced value unknown t =>
      have hvisit : value.visit = .next := by
        rw [value.visit_eq_ofAnswer, ChildVisit.ofAnswer, unknown]
        rfl
      simp only [Except.map, hvisit]
      exact .ended (.ok ChildVisit.next) t.1 (related _ _ t.2)

-- What comes of a traversal, with the nodes of its calls but not their answers.
def withNodes (told : (Except Problem VisitOutcome × List Visit) × (Thread × Desk)) :
    (Except Problem VisitOutcome × List (Value × Value)) × (Thread × Desk) :=
  ((told.1.1, told.1.2.map Visit.nodes), told.2)

theorem visits_patched (hp : ∀ child parent s,
      Patches ((callback child parent).run.run s) ((patched child parent).run.run s))
    (s : Thread × Desk) :
    ((visits library fuel session root callback).run s).map withNodes =
      ((visits library fuel session root patched).run s).map withNodes := by
  have hsame (fault : Fault) : refused fault = id (refused fault) := rfl
  have hv (child parent : CursorToken) (thread : Thread) (v w : Visits Desk Visit)
      (h : SameCalls v w) := alike_patched session hp child parent thread h
  have ha := walk_alike library fuel session root hsame hv s.1
    (show SameCalls { desk := s.2 } { desk := s.2 } from ⟨rfl, rfl⟩)
  rw [visits, visits, run_traverse_walk, run_traverse_walk]
  generalize (walk library fuel session refused (answering session callback) root).run _ = x at ha ⊢
  generalize (walk library fuel session refused (answering session patched) root).run _ = y at ha ⊢
  cases ha with
  | stop stop => rfl
  | ended result thread related =>
      obtain ⟨hdesk, hseen⟩ := related
      cases result <;>
        simp only [Except.map, withNodes, Except.mapError, List.map_reverse, hdesk, hseen, id]

end Patching

end Visits

-- What a visitor answers is a code only if it is a number that is one, however large numbers get,
-- and a host is told that a traversal was aborted only if a visitor answered with zero. Whatever is
-- no code may as well be the code for going on: the same calls are made, and they come to the same.
-- A traversal of a tree that ends everywhere returns, if its visitor always answers or raises. It is
-- broken off at the first answer of zero that it comes to, and left as the visitor left it there.
theorem visitors_fail_open :
    (∀ value : Value, value.visit = .ofAnswer (value.integer?.filter (Value.FitsInt64 ·)) ∧
      value.visit = .ofAnswer value.integer?) ∧
    (∀ library fuel name identity session root callback (s : Thread × Desk),
      s.2.labels.lookup name = some (.held identity session (.cursor root)) →
        (visiting library fuel name callback).run.run s =
          ((visits library fuel session root callback).run s).map outcomeTold) ∧
    (∀ library fuel host f values named root callback (s : Thread × Desk),
      Invocation.ofCall s.2.listAt f values named = .ok (.visit root callback) →
        (invoke library fuel host f values named).run.run s =
          ((visits library fuel root.session root.item fun child parent =>
            host.call callback [child, parent]).run s).map outcomeTold) ∧
    (∀ library fuel session root callback s told,
      (visits library fuel session root callback).run s = .ok told →
        ((outcomeTold told).1 = .ok (.int (Constant.raw VisitOutcome.aborted)) ↔
          ∃ visit ∈ told.1.2, visit.Breaks)) ∧
    (∀ library fuel session root callback patched,
      (∀ child parent s,
        Patches ((callback child parent).run.run s) ((patched child parent).run.run s)) →
      ∀ s, ((visits library fuel session root callback).run s).map withNodes =
        ((visits library fuel session root patched).run s).map withNodes) ∧
    (∀ library session (root : CursorToken) callback s, Responds callback → s.1.Free →
      Acc (fun node above => node ∈ library.children above) root.raw →
        ∃ enough told, ∀ fuel, enough ≤ fuel →
          (visits library fuel session root callback).run s = .ok told) ∧
    ∀ library session root callback s child parent pending outer t value u,
      Traversal.Passes (host library session refused (visitOnce session callback)) root s
        (⟨parent, child :: pending⟩ :: outer) t →
      answerAt session callback child parent t = .ok (.ok value, u) → value.integer? = some 0 →
        ∃ enough, ∀ fuel, enough ≤ fuel → ∃ calls,
          (visits library fuel session root callback).run s = .ok ((.ok .aborted, calls), u) := by
  refine ⟨fun value => ?_, ?_, ?_, ?_, fun _ _ _ _ _ _ hp => visits_patched hp,
    fun _ _ _ _ _ responds hs finite => visits_return responds hs finite,
    fun _ _ _ _ _ _ _ _ _ _ _ _ passes answers hzero => visits_of_break passes answers hzero⟩
  · exact ⟨value.visit_eq_ofAnswer_filter, value.visit_eq_ofAnswer⟩
  · intro library fuel name identity session root callback s hl
    rw [run_visiting hl, visits_told]
  · intro library fuel host f values named root callback s hc
    rw [run_invoke_visit host hc, visits_told]
  · rintro library fuel session root callback s ⟨⟨result, calls⟩, t⟩ h
    rw [← visits_aborted_iff h]
    rcases result with problem | outcome
    · exact iff_of_false (by simp [outcomeTold, unnoted, got, Except.map]) (by simp)
    · cases outcome
      · exact iff_of_false (by simp [outcomeTold, unnoted, got, Except.map, Constant.raw]) (by simp)
      · exact iff_of_true rfl rfl

theorem acc_sampleFamily :
    Acc (fun node above => node ∈ Session.sampleFamily.library.children above) sampleRoot.raw := by
  let node (name : Nat) := Session.sampleFamily.cursor (some name)
  have leaf {name : Nat} (h : Session.sampleFamily.library.children (node name) = []) :
      Acc (fun node above => node ∈ Session.sampleFamily.library.children above) (node name) :=
    .intro _ fun below hb => nomatch (h ▸ hb : below ∈ [])
  refine .intro _ fun child hc => ?_
  rcases List.mem_pair.mp (show child ∈ [node 1, node 2] from hc) with rfl | rfl
  · refine .intro _ fun below hb => ?_
    obtain rfl := List.mem_singleton.mp (show below ∈ [node 3] from hb)
    exact leaf rfl
  · exact leaf rfl

-- Visitors that answer with zero, with what is false, with the code for going on, and with the code
-- for asking for more.
theorem visitors_fail_open_of_sample :
    ∃ desk told, desk.labels.lookup "c" = some (.held 0 1 (.cursor sampleRoot)) ∧
      (visits Session.sampleFamily.library 9 1 sampleRoot fun _ _ => pure (.int 0)).run
        (Session.sampleParsed, desk) = .ok told ∧
      (outcomeTold told).1 = .ok (.int (Constant.raw VisitOutcome.aborted)) ∧
      (visiting Session.sampleFamily.library 9 "c" fun _ _ => pure (.int 0)).run.run
        (Session.sampleParsed, desk) = .ok (outcomeTold told) ∧
      (invoke Session.sampleFamily.library 9 .exhausted .visitChildren
        [.held 0 1 (.cursor sampleRoot), .function .cursorKind] []).run.run
          (Session.sampleParsed, desk) =
        ((visits Session.sampleFamily.library 9 1 sampleRoot fun child parent =>
          Host.exhausted.call (.function .cursorKind) [child, parent]).run
            (Session.sampleParsed, desk)).map outcomeTold ∧
      ((visits Session.sampleFamily.library 9 1 sampleRoot fun _ _ => pure (.flag false)).run
        (Session.sampleParsed, desk)).map withNodes =
          ((visits Session.sampleFamily.library 9 1 sampleRoot fun _ _ => pure (.int 1)).run
            (Session.sampleParsed, desk)).map withNodes ∧
      (∃ enough told, ∀ fuel, enough ≤ fuel →
        (visits Session.sampleFamily.library fuel 1 sampleRoot fun _ _ => pure (.int 2)).run
          (Session.sampleParsed, desk) = .ok told) ∧
      ∃ u enough, ∀ fuel, enough ≤ fuel → ∃ calls,
        (visits Session.sampleFamily.library fuel 1 sampleRoot fun _ _ => pure (.int 0)).run
          (Session.sampleParsed, desk) = .ok ((.ok .aborted, calls), u) := by
  obtain ⟨-, visiting, invoked, aborted, patched, returns, breaks⟩ := visitors_fail_open
  let desk : Desk := ⟨"m", [("c", .held 0 1 (.cursor sampleRoot))], [], [], [], [], [], [], 1⟩
  obtain ⟨told, htold, hbreaks⟩ : ∃ told,
      (visits Session.sampleFamily.library 9 1 sampleRoot fun _ _ => pure (.int 0)).run
        (Session.sampleParsed, desk) = .ok told ∧ ∃ visit ∈ told.1.2, visit.Breaks :=
    ⟨_, rfl, _, .head _, _, rfl, rfl⟩
  have hroot : desk.labels.lookup "c" = some (.held 0 1 (.cursor sampleRoot)) := rfl
  have passes : Traversal.Passes (host Session.sampleFamily.library 1 refused
      (visitOnce 1 fun _ _ => pure (.int 0))) sampleRoot (Session.sampleParsed, desk)
        [⟨sampleRoot, [sampleFirst, _]⟩] _ := .start rfl
  refine ⟨desk, told, hroot, htold, (aborted _ _ _ _ _ _ _ htold).mpr hbreaks, ?_,
    invoked _ 9 .exhausted .visitChildren _ [] ⟨1, sampleRoot⟩ (.function .cursorKind) _ rfl,
    patched _ _ _ _ _ _ (fun _ _ s => .replaced rfl s) _,
    returns _ 1 sampleRoot _ _ (fun _ _ s hs => ⟨_, s, rfl, hs⟩)
      (Session.free_of_reaches Session.sampleParsed_reached) acc_sampleFamily,
    _, breaks _ 1 sampleRoot _ _ _ _ _ _ _ _ _ passes rfl rfl⟩
  rw [visiting _ 9 "c" 0 1 sampleRoot _ _ hroot, htold]
  rfl

end SyntaxHandles.Dynamic
