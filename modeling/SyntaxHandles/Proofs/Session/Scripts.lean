import SyntaxHandles.Proofs.Registry.Rule
import SyntaxHandles.Proofs.Session.Unhindered
import SyntaxHandles.Session.Run

-- Whole scripts over sessions, with the scripts that run at the visits of their traversals. None of
-- them is stopped by a conflict.

namespace SyntaxHandles

open Thread

namespace Scripting

variable {σ κ ε α β : Type}

-- A script that starts where no session is borrowed leaves them so, and is not stopped by a conflict.
def Safe (script : Script σ α) : Prop :=
  ∀ s, s.1.Free → (∀ a t, script.run s = .ok (a, t) → t.1.Free) ∧
    ∀ conflict, script.run s ≠ .error (.conflict conflict)

theorem Safe.of_run {script : Script σ α}
    (h : ∀ s, s.1.Free → ∃ a t, script.run s = .ok (a, t) ∧ t.1.Free) : Safe script := by
  intro s hs
  obtain ⟨a, t, hr, ht⟩ := h s hs
  refine ⟨fun a' t' hr' => ?_, fun conflict he => ?_⟩
  · rw [hr] at hr'
    cases hr'
    exact ht
  · rw [hr] at he
    exact nomatch he

theorem Safe.pure (a : α) : Safe (pure a : Script σ α) :=
  .of_run fun s hs => ⟨a, s, rfl, hs⟩

theorem Safe.bind {x : Script σ α} {f : α → Script σ β} (hx : Safe x) (hf : ∀ a, Safe (f a)) :
    Safe (x >>= f) := by
  intro s hs
  obtain ⟨hfree, hgoes⟩ := hx s hs
  rw [StateT.run_bind]
  rcases hr : x.run s with stop | ⟨a, t⟩
  · refine ⟨nofun, fun conflict he => hgoes conflict ?_⟩
    rw [hr]
    exact congrArg Except.error (Except.error.inj he)
  · exact hf a t (hfree a t hr)

theorem Safe.get : Safe (get : Script σ (Thread × σ)) :=
  .of_run fun s hs => ⟨s, s, rfl, hs⟩

theorem safe_modifyDesk (f : σ → σ) : Safe (modifyDesk f) :=
  .of_run fun s hs => ⟨(), (s.1, f s.2), rfl, hs⟩

theorem safe_setSearch (search : Except String Unit) : Safe (setSearch search : Script σ Unit) :=
  .of_run fun s hs => ⟨(), ({ s.1 with search }, s.2), rfl, fun k => hs k⟩

theorem safe_report : Safe (report : Script σ (List Native.Call)) :=
  .of_run fun s hs =>
    ⟨s.1.native.report.1, ({ s.1 with native := s.1.native.report.2 }, s.2), rfl, fun k => hs k⟩

theorem run_perform (operation : Operation α) (thread : Thread) (desk : σ) :
    (perform operation).run (thread, desk) = match operation.run thread with
      | (.ok a, after) => .ok (.ok a, (after, desk))
      | (.error (.fault fault), after) => .ok (.error fault, (after, desk))
      | (.error (.conflict conflict), _) => .error (.conflict conflict) := by
  simp only [perform, StateT.run_bind, StateT.run_get, pure_bind]
  rcases operation.run thread with ⟨(fault | conflict) | a, after⟩ <;> rfl

theorem safe_perform {operation : Operation α}
    (h : ∀ s : Thread, s.Free → Unhindered operation s) :
    Safe (perform operation : Script σ (Except Fault α)) := by
  refine .of_run fun ⟨thread, desk⟩ hs => ?_
  obtain ⟨hfree, hgoes⟩ := h thread hs
  have hrun := run_perform operation thread desk
  rcases hr : operation.run thread with ⟨(fault | conflict) | a, after⟩ <;>
    rw [hr] at hfree hgoes hrun
  · exact ⟨_, _, hrun, hfree⟩
  · exact absurd rfl (hgoes conflict)
  · exact ⟨_, _, hrun, hfree⟩

-- What is done in the middle of a traversal.

theorem run_aside (script : Script σ α) (thread : Thread) (v : Visits σ κ) :
    (aside script).run (thread, v) = (script.run (thread, v.desk)).map
      fun (a, after, desk) => (a, (after, { v with desk })) := by
  change (script.run (thread, v.desk)).bind _ = _
  cases script.run (thread, v.desk) <;> rfl

theorem safe_aside {script : Script σ α} (h : Safe script) :
    Safe (aside script : Script (Visits σ κ) α) := by
  rintro ⟨thread, visits⟩ hs
  obtain ⟨hfree, hgoes⟩ := h (thread, visits.desk) hs
  have hrun := run_aside script thread visits
  rcases hr : script.run (thread, visits.desk) with stop | ⟨a, after, desk⟩ <;>
    rw [hr] at hfree hgoes hrun
  · refine ⟨fun a t he => ?_, fun conflict he => hgoes conflict ?_⟩ <;> rw [hrun] at he
    · cases he
    · exact congrArg Except.error (Except.error.inj he)
  · refine ⟨fun a' t he => ?_, fun conflict he => ?_⟩ <;> rw [hrun] at he <;> cases he
    exact hfree a (after, desk) rfl

theorem safe_note (entry : κ) : Safe (note entry : Script (Visits σ κ) Unit) :=
  safe_modifyDesk _

theorem safe_countVisit : Safe (countVisit : Script (Visits σ κ) Nat) :=
  (Safe.get.bind fun _ => .pure _).bind fun _ => (safe_modifyDesk _).bind fun _ => .pure _

-- What a traversal makes of the answer of a visitor.
def answered (visit : Script σ (Except ε ChildVisit)) (s : Thread × σ) :
    Except (Halt ε) ChildVisit × (Thread × σ) :=
  match visit.run s with
  | .error stop => (.error (.stop stop), s)
  | .ok (result, s) => (result.mapError .problem, s)

def converted (refuse : Fault → ε) : Interrupt → Halt ε
  | .fault fault => .problem (refuse fault)
  | .conflict conflict => .stop (.conflict conflict)

-- What a script comes to that is a traversal and nothing else.
def concluded : Option (Except (Halt ε) VisitOutcome × (Thread × σ)) →
    Except Stop (Except ε VisitOutcome × (Thread × σ))
  | none => .error .outOfFuel
  | some (.error (.stop stop), _) => .error stop
  | some (.error (.problem problem), s) => .ok (.error problem, s)
  | some (.ok outcome, s) => .ok (.ok outcome, s)

-- What a script is told of a traversal, with the notes of its visits.
def ending : Option (Except (Halt ε) VisitOutcome × (Thread × Visits σ κ)) →
    Except Stop ((Except ε VisitOutcome × List κ) × (Thread × σ))
  | none => .error .outOfFuel
  | some (.error (.stop stop), _) => .error stop
  | some (.error (.problem problem), thread, visits) =>
    .ok ((.error problem, visits.seen.reverse), thread, visits.desk)
  | some (.ok outcome, thread, visits) =>
    .ok ((.ok outcome, visits.seen.reverse), thread, visits.desk)

-- A traversal of a session by the visits of a script.
def host (library : Native.Library) (key : Nat) (refuse : Fault → ε)
    (visit : (child parent : CursorToken) → Script σ (Except ε ChildVisit)) :
    Traversal.Host CursorToken Interrupt (Halt ε) (Thread × σ) :=
  Session.host library key (converted refuse) fun child parent => answered (visit child parent)

-- A script that walks the descendants of a node, and does nothing else.
def walk (library : Native.Library) (fuel key : Nat) (refuse : Fault → ε)
    (visit : (child parent : CursorToken) → Script σ (Except ε ChildVisit)) (root : CursorToken) :
    Script σ (Except ε VisitOutcome) := fun s =>
  concluded (Session.visitChildren library key (converted refuse)
    (fun child parent => answered (visit child parent)) fuel root s)

section Traversals

variable {library : Native.Library} {fuel key : Nat} {refuse : Fault → ε} {root : CursorToken}

theorem run_traverse
    (visit : (child parent : CursorToken) → Script (Visits σ κ) (Except ε ChildVisit))
    (thread : Thread) (desk : σ) :
    (traverse library fuel key refuse visit root).run (thread, desk) =
      ending ((Traversal.run (host library key refuse visit) fuel root {}
        (thread, { desk })).map fun ended => (ended.result, ended.host)) := by
  refine congrArg (fun visit => ending (Session.visitChildren library key (converted refuse) visit
    fuel root (thread, { desk }))) (funext fun child => funext fun parent => funext fun s => ?_)
  rw [answered]
  rcases (visit child parent).run s with stop | ⟨result, t⟩ <;> rfl

variable {visit : (child parent : CursorToken) → Script σ (Except ε ChildVisit)}

theorem host_stays (h : ∀ child parent, Safe (visit child parent)) :
    Traversal.Host.Stays (fun p : Thread × σ => p.1.Free)
      (fun halt : Halt ε => ∀ conflict, halt ≠ .stop (.conflict conflict))
      (host library key refuse visit) := by
  refine Session.host_stays (fun _ hp => hp) (fun node p hp => ?_) (fun fault conflict he => ?_)
    fun child parent p hp => ?_
  · exact (Session.Offers.unhindered (.children node) hp).free
  · cases he
  · obtain ⟨hfree, hgoes⟩ := h child parent p hp
    simp only [answered]
    rcases hr : (visit child parent).run p with stop | ⟨result, q⟩ <;> rw [hr] at hfree hgoes
    · refine ⟨hp, fun halt he conflict hc => ?_⟩
      cases he
      cases hc
      exact hgoes conflict rfl
    · refine ⟨hfree result q rfl, fun halt he conflict hc => ?_⟩
      subst hc
      cases result <;> cases he

theorem run_walk (s : Thread × σ) :
    (walk library fuel key refuse visit root).run s =
      concluded ((Traversal.run (host library key refuse visit) fuel root {} s).map
        fun ended => (ended.result, ended.host)) :=
  rfl

theorem safe_walk (h : ∀ child parent, Safe (visit child parent)) (root : CursorToken) :
    Safe (walk library fuel key refuse visit root) := by
  intro s hs
  have hrun : (walk library fuel key refuse visit root).run s = _ := run_walk s
  rcases hv : Traversal.run (host library key refuse visit) fuel root {} s with
    _ | ⟨result, walker, after⟩ <;> rw [hv] at hrun
  · refine ⟨fun a t he => ?_, fun conflict he => ?_⟩ <;> rw [hrun] at he <;> cases he
  obtain ⟨hfree, hends⟩ := Traversal.run_stays (host_stays h) hv hs
  rcases result with (problem | stop) | outcome <;>
    refine ⟨fun a t he => ?_, fun conflict he => ?_⟩ <;> rw [hrun] at he <;> cases he
  · exact hfree
  · exact hends _ rfl conflict rfl
  · exact hfree

-- The notes of a traversal are kept beside it.
theorem run_traverse_walk
    (visit : (child parent : CursorToken) → Script (Visits σ κ) (Except ε ChildVisit))
    (thread : Thread) (desk : σ) :
    (traverse library fuel key refuse visit root).run (thread, desk) =
      ((walk library fuel key refuse visit root).run (thread, { desk })).map
        fun (result, thread, visits) => ((result, visits.seen.reverse), (thread, visits.desk)) := by
  rw [run_traverse, run_walk]
  rcases Traversal.run (host library key refuse visit) fuel root {} _ with
    _ | ⟨(problem | stop) | outcome, walker, after⟩ <;> rfl

theorem safe_traverse {visit : (child parent : CursorToken) →
      Script (Visits σ κ) (Except ε ChildVisit)} (h : ∀ child parent, Safe (visit child parent))
    (root : CursorToken) : Safe (traverse library fuel key refuse visit root) := by
  rintro ⟨thread, desk⟩ hs
  have hsafe : Safe (walk library fuel key refuse visit root) := safe_walk h root
  obtain ⟨hfree, hgoes⟩ := hsafe (thread, { desk }) hs
  rw [run_traverse_walk]
  rcases hw : (walk library fuel key refuse visit root).run (thread, { desk }) with
    stop | ⟨result, after, visits⟩ <;> rw [hw] at hfree hgoes
  · refine ⟨nofun, fun conflict he => hgoes conflict ?_⟩
    exact congrArg Except.error (Except.error.inj he)
  · refine ⟨fun a t he => ?_, nofun⟩
    cases he
    exact hfree result (after, visits) rfl

end Traversals

end Scripting

namespace SessionScript

open Scripting Session

variable {library : Native.Library} {fuel key : Nat}

theorem safe_offered {α : Type} {operation : Operation α} (h : Offers library key operation) :
    Safe (perform operation : Script (Except Fault α)) :=
  safe_perform fun _ hs => h.unhindered hs

theorem safe_within (name : String) {part : Nat → Script Outcome} (hp : ∀ key, Safe (part key)) :
    Safe (within name part) := by
  refine .bind .get fun s => ?_
  cases s.2.sessions.lookup name with
  | none => exact .pure _
  | some key =>
      exact (safe_perform fun _ hs => unhindered_hold hs key).bind fun _ => (hp key).bind fun _ =>
        (safe_perform fun _ hs => unhindered_letGo hs key).bind fun _ => .pure _

theorem safe_withItem {α : Type} (label : String) (kind : Item → Option α)
    {part : α → Script Outcome} (hp : ∀ a, Safe (part a)) : Safe (withItem label kind part) := by
  refine .bind .get fun s => ?_
  cases (s.2.items.lookup label).bind kind with
  | none => exact .pure _
  | some item => exact hp item

theorem safe_bindItem (label : Option String) (item : Item) : Safe (bindItem label item) :=
  safe_modifyDesk _

theorem safe_bindSession (name : String) (key : Nat) : Safe (bindSession name key) := by
  refine .bind .get fun s => (safe_modifyDesk _).bind fun _ => (safe_modifyDesk _).bind fun _ => ?_
  cases s.2.sessions.lookup name with
  | none => exact .pure _
  | some old => exact safe_perform fun _ hs => (unhindered_letGo hs old).map

theorem safe_answer (key : Nat) (label : Option String) (result : Except Fault Answer) :
    Safe (answer key label result) := by
  refine .bind (.bind .get fun _ => .pure _) fun registry => ?_
  split
  · exact .pure _
  · exact (safe_bindItem label _).bind fun _ => .pure _
  · exact (safe_bindItem label _).bind fun _ => .pure _
  · exact .pure _

theorem safe_handle (label : Option String) (result : Except Fault Item) :
    Safe (handle label result) := by
  cases result with
  | error fault => exact .pure _
  | ok item => exact (safe_bindItem label item).bind fun _ => .pure _

theorem safe_reported {step : Script Outcome} (h : Safe step) : Safe (reported step) :=
  safe_report.bind fun _ => h.bind fun _ => safe_report.bind fun _ => .pure _

theorem safe_visit (key : Nat) (plan : Plan) {bodies : List (Nat × Script (List Report))}
    (hb : ∀ body ∈ bodies, Safe body.2) (label : Option String) (child parent : CursorToken) :
    Safe (visit key plan bodies label child parent) := by
  refine safe_countVisit.bind fun count => .bind .get fun s => ?_
  refine (safe_note _).bind fun _ => (safe_aside (safe_bindItem _ _)).bind fun _ => ?_
  cases hl : bodies.lookup count with
  | none => cases plan.decide count (showCursor child (s.1.sessions key)) <;> exact .pure _
  | some body =>
      obtain ⟨earlier, later, rfl, -⟩ := List.lookup_eq_some_iff.mp hl
      have hbody : Safe body := hb (count, body) (by simp)
      refine (safe_aside hbody).bind fun reports => (safe_note _).bind fun _ => ?_
      cases plan.decide count (showCursor child (s.1.sessions key)) <;> exact .pure _

variable (library fuel) in
mutual

theorem safe_outcome (step : Step) : Safe (outcome library fuel step) := by
  cases step with
  | library search => exact (safe_setSearch search).bind fun _ => .pure _
  | session name =>
      refine (safe_perform fun _ hs => unhindered_start hs).bind fun started => ?_
      cases started with
      | error fault => exact .pure _
      | ok key => exact (safe_bindSession name key).bind fun _ => .pure _
  | current name =>
      refine (safe_perform fun _ hs => unhindered_currentSession hs).bind fun current => ?_
      cases current with
      | error fault => exact .pure _
      | ok key => exact (safe_bindSession name key).bind fun _ => .pure _
  | sameSession name other =>
      refine .bind .get fun s => ?_
      dsimp only
      split <;> exact .pure _
  | dropSession name =>
      refine .bind .get fun s => ?_
      split
      · exact .pure _
      · next key _ =>
        exact (safe_modifyDesk _).bind fun _ =>
          (safe_perform fun _ hs => unhindered_letGo hs key).bind fun _ => .pure _
  | createIndex name options label =>
      refine safe_within name fun key => ?_
      cases options.read IndexOptions.ofJson? with
      | error problem => exact .pure _
      | ok options => exact (safe_offered (.createIndex options)).bind fun _ => safe_handle label _
  | parse name index filename options label =>
      refine safe_within name fun key => safe_withItem index Item.asIndex? fun index => ?_
      cases options.read ParseOptions.ofJson? with
      | error fault => exact .pure _
      | ok options =>
          exact (safe_offered (.parse index filename options)).bind fun _ => safe_handle label _
  | filename name unit =>
      exact safe_within name fun key => safe_withItem unit Item.asUnit? fun unit =>
        (safe_perform fun _ hs => (unhindered_unit hs unit).map).bind fun _ => .pure _
  | root name unit label =>
      exact safe_within name fun key => safe_withItem unit Item.asUnit? fun unit =>
        (safe_perform fun _ hs => unhindered_root hs unit).bind fun _ => safe_answer key label _
  | dispose name item =>
      exact safe_within name fun key => safe_withItem item some fun item =>
        (safe_perform fun _ hs => unhindered_dispose hs item.id).bind fun _ => .pure _
  | isAlive name item =>
      exact safe_within name fun key => safe_withItem item some fun item =>
        (safe_perform fun _ hs => unhindered_isAlive hs item.id).bind fun _ => .pure _
  | askCursor name item query label =>
      exact safe_within name fun key => safe_withItem item Item.asCursor? fun token =>
        (safe_offered (.askCursor query token)).bind fun _ => safe_answer key label _
  | askType name item query label =>
      exact safe_within name fun key => safe_withItem item Item.asType? fun token =>
        (safe_offered (.askType query token)).bind fun _ => safe_answer key label _
  | same item other =>
      exact safe_withItem item some fun item => safe_withItem other some fun other => .pure _
  | inspect item => exact safe_withItem item some fun item => .pure _
  | visit name item plan bodies label =>
      refine safe_within name fun key => safe_withItem item Item.asCursor? fun token => ?_
      exact (safe_traverse (fun child parent =>
        safe_visit key plan (safe_runBodies bodies) label child parent) token).bind fun _ => .pure _

theorem safe_runSteps (steps : List Step) : Safe (runSteps library fuel steps) := by
  cases steps with
  | nil => exact .pure _
  | cons step steps =>
      exact (safe_reported (safe_outcome step)).bind fun _ =>
        (safe_runSteps steps).bind fun _ => .pure _

theorem safe_runBody (body : Nat × List Step) : Safe (runBody library fuel body).2 := by
  obtain ⟨visit, steps⟩ := body
  exact safe_runSteps steps

theorem safe_runBodies (bodies : List (Nat × List Step)) :
    ∀ body ∈ runBodies library fuel bodies, Safe body.2 := by
  match bodies with
  | [] => exact fun _ hm => nomatch hm
  | (_, []) :: bodies => exact safe_runBodies bodies
  | (visit, step :: steps) :: bodies =>
      exact List.forall_mem_cons.mpr ⟨safe_runBody (visit, step :: steps), safe_runBodies bodies⟩

end

theorem safe_dropSessions (sessions : List (String × Nat)) : Safe (dropSessions sessions) := by
  induction sessions with
  | nil => exact .pure _
  | cons session sessions ih =>
      obtain ⟨name, key⟩ := session
      exact (safe_modifyDesk _).bind fun _ =>
        (safe_perform fun _ hs => unhindered_letGo hs key).bind fun _ => ih

theorem safe_script (library : Native.Library) (fuel : Nat) (steps : List Step) :
    Safe (script library fuel steps) :=
  (safe_runSteps library fuel steps).bind fun _ => Safe.get.bind fun _ =>
    (safe_dropSessions _).bind fun _ => safe_report.bind fun _ =>
      (safe_perform fun _ hs => unhindered_exit hs).bind fun _ => safe_report.bind fun _ => .pure _

-- Callbacks of the visitors included.
theorem run_ne_conflict (library : Native.Library) (steps : List Step) (conflict : Conflict) :
    run library steps ≠ .error (.conflict conflict) :=
  (safe_script library Traversal.ample steps ({}, {}) fun _ => rfl).2 conflict

end SessionScript

-- Scripts over registries come to their end if no body of a look changes the entries that it looks
-- at, and if no registry runs out of identities. Whatever starts in their course finds registries
-- borrowed by bodies of looks alone: an operation that runs a constructor, or lets go of a resource,
-- holds no borrow itself. Sessions are not borrowed at all between operations, so nothing that is
-- asked of them, at a visit or elsewhere, comes into conflict.
theorem no_conflict_is_reached :
    (∀ first steps, RegistryScript.Few (RegistryScript.run first steps).2.history →
      (∀ call, RegistryScript.Within first steps call → ¬call.Breaks) →
        (∃ answers, (RegistryScript.run first steps).1 = .ok answers) ∧
          ∀ call, RegistryScript.Within first steps call → call.Clear) ∧
      (∀ thread, Reaches {} thread → thread.Free ∧
        (∀ library key {α : Type} (operation : Operation α),
          Session.Offers library key operation →
            ∀ conflict, (operation.run thread).1 ≠ .error (.conflict conflict)) ∧
        ∀ {τ ε : Type} library key (convert : Interrupt → ε) (visit : (child parent : CursorToken) →
            Thread × τ → Except ε ChildVisit × (Thread × τ)) fuel token own error after,
          thread.Has key → Session.Roams thread visit →
            Session.visitChildren library key convert visit fuel token (thread, own) =
              some (.error error, after) →
            (∃ child parent p, (visit child parent p).1 = .error error) ∨
              ∃ fault, error = convert (.fault fault)) ∧
      ∀ library steps conflict, SessionScript.run library steps ≠ .error (.conflict conflict) := by
  refine ⟨fun first steps few rule => ⟨?_, fun call h => ?_⟩, fun thread reached => ⟨?_, ?_, ?_⟩, ?_⟩
  · exact RegistryScript.exists_answers few rule
  · exact (h.ready few rule).clear
  · exact Session.free_of_reaches reached
  · intro library key α operation offered
    exact (offered.unhindered (Session.free_of_reaches reached)).goes
  · intro τ ε library key convert visit fuel token own error after has roams traversal
    exact Session.visitChildren_error reached has roams traversal
  · exact SessionScript.run_ne_conflict

-- A look whose body reads, looks once more, disposes of what is dead and fails to make a resource.
def lookingSteps : List RegistryScript.Step :=
  [.acquireText "r" "a" .index, .acquireText "r" "b" .index, .dispose "r" "b",
    .look "r" "a" true [.liveCount "r", .look "r" "a" true [.isAlive "r" "a", .dispose "r" "b"],
      .acquireProbe "r" "c" .index [.isAlive "r" "b"] (some .index) [.dispose "r" "b"]]]

theorem no_conflict_is_reached_of_sample :
    (∃ answers, (RegistryScript.run "r" lookingSteps).1 = .ok answers) ∧
      (∀ conflict, ((Session.dispose 1 Session.sampleUnit).run Session.sampleParsed).1 ≠
        .error (.conflict conflict)) ∧
      ∀ conflict, SessionScript.run Session.sampleFamily.library
        [.session "s", .createIndex "s" (.given {}) (some "i"), .dropSession "s"] ≠
          .error (.conflict conflict) := by
  obtain ⟨registries, sessions, scripts⟩ := no_conflict_is_reached
  have hlength : (RegistryScript.run "r" lookingSteps).2.history.length < UInt32.size := by
    decide +kernel
  have hkeeps : (RegistryScript.whole "r" lookingSteps).keepsTo 40 = true := by decide +kernel
  have few : RegistryScript.Few (RegistryScript.run "r" lookingSteps).2.history := fun key =>
    Nat.lt_of_le_of_lt List.countP_le_length hlength
  have reached : Reaches {} Session.sampleParsed :=
    .tail (.tail (.single (.act .start)) (.act (.step ⟨by decide, by decide⟩
      (.createIndex Session.sampleFamily.library {})))) (.act (.step ⟨by decide, by decide⟩
      (.parse Session.sampleFamily.library ⟨⟨1, 1, .index⟩⟩ "a.c" {})))
  refine ⟨?_, ?_, ?_⟩
  · exact (registries "r" lookingSteps few fun call h =>
      RegistryScript.not_breaks_of_keepsTo hkeeps h).1
  · exact (sessions _ reached).2.1 Session.sampleFamily.library 1 _ (.dispose Session.sampleUnit)
  · exact scripts _ _

end SyntaxHandles
