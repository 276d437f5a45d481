import SyntaxHandles.Proofs.Dynamic.Follows

-- Courses of session operations. None is stopped by a conflict, and all leave the sessions to be
-- asked for more.

namespace SyntaxHandles.Dynamic

open Scripting Thread
open SessionScript (Item)

variable {α β : Type}

theorem safe_ended {x : Course α} {f : α → Course β} (hx : Safe x.run)
    (hf : ∀ a, Safe (f a).run) : Safe (x >>= f).run := by
  rw [ExceptT.run_bind]
  refine hx.bind fun ended => ?_
  cases ended with
  | error failure => exact .pure _
  | ok a => exact hf a

theorem safe_return (a : α) : Safe (pure a : Course α).run :=
  .pure _

theorem safe_fail (failure : Failure) : Safe (Course.fail failure : Course α).run :=
  .pure _

theorem safe_lift {script : Scripting.Script Names α} (h : Safe script) :
    Safe (liftM script : Course α).run :=
  h.bind fun _ => .pure _

theorem safe_known? (name : String) : Safe (Course.known? name).run :=
  safe_ended (safe_lift (Safe.get.bind fun _ => .pure _)) fun _ => safe_return _

theorem safe_keep (name : String) (sight : Sight) : Safe (Course.keep name sight).run :=
  safe_lift (safe_modifyDesk _)

theorem safe_known (name : String) : Safe (Course.known name).run := by
  refine safe_ended (safe_known? name) fun sight => ?_
  cases sight with
  | none => exact safe_fail _
  | some sight => exact safe_return sight

theorem safe_held {want : Item → Option α} {failure : Failure} {f : Nat × α → Course β}
    (name : String)
    (h : ∀ session item wanted, want item = some wanted → Safe (f (session, wanted)).run) :
    Safe (Course.held want failure name >>= f).run := by
  rw [Course.held, bind_assoc]
  refine safe_ended (safe_known name) fun sight => ?_
  cases sight with
  | held session item =>
      cases hw : want item with
      | none =>
          simp only [hw]
          exact safe_fail failure
      | some wanted => simpa only [hw, pure_bind] using h session item wanted hw
  | _ => exact safe_fail failure

theorem safe_operate {operation : Operation α}
    (h : ∀ s : Thread, s.Free → Unhindered operation s) : Safe (Course.operate operation).run := by
  refine safe_ended (safe_lift (safe_perform h)) fun result => ?_
  cases result with
  | error fault => exact safe_fail _
  | ok a => exact safe_return a

section Programs

variable (library : Native.Library) (fuel : Nat)

theorem safe_offers (key : Nat) {operation : Operation α}
    (h : Session.Offers library key operation) : Safe (Course.operate operation).run :=
  safe_operate fun _ hs => h.unhindered hs

theorem unhindered_createCurrent (options : IndexOptions) {s : Thread} (hs : s.Free) :
    Unhindered (do
      let session ← currentSession
      letGo session
      return Sight.held session (.index (← Session.createIndex library session options))) s :=
  (unhindered_currentSession hs).bind fun session _ _ ht =>
    (unhindered_letGo ht session).bind fun _ _ _ hu =>
      (Session.unhindered_createIndex hu options).map

theorem Act.safe (act : Act) : Safe (act.bySession library).run := by
  cases act with
  | write literal => exact safe_return _
  | copy object => exact safe_known object
  | createIndex exclude display =>
      exact safe_operate fun _ hs => unhindered_createCurrent library _ hs
  | parse index file args flags =>
      refine safe_held index fun session _ index _ => ?_
      exact safe_ended (safe_offers library session (.parse index file _)) fun _ =>
        safe_return _
  | root unit =>
      refine safe_held unit fun session _ unit _ => ?_
      exact safe_ended (safe_offers library session (.root unit)) fun _ => safe_return _
  | dispose handle | tellDispose handle =>
      refine safe_held handle fun session _ id _ => ?_
      exact safe_ended (safe_offers library session (.dispose id)) fun _ => safe_return _
  | askCursor query cursor =>
      refine safe_held cursor fun session _ token _ => ?_
      exact safe_ended (safe_offers library session (.askCursor query token)) fun _ =>
        safe_return _
  | askType query type =>
      refine safe_held type fun session _ token _ => ?_
      exact safe_ended (safe_offers library session (.askType query token)) fun _ =>
        safe_return _
  | tellRoot unit =>
      refine safe_held unit fun session _ unit _ => ?_
      exact safe_ended (safe_offers library session (.root unit)) fun _ => safe_return _
  | isAlive handle =>
      refine safe_held handle fun session _ id _ => ?_
      exact safe_ended (safe_offers library session (.isAlive id)) fun _ => safe_return _
  | filename unit =>
      refine safe_held unit fun session _ unit _ => ?_
      exact safe_ended (safe_offers library session (.filename unit)) fun _ =>
        safe_return _
  | isValid token =>
      refine safe_held token fun session item validity hv => ?_
      cases item <;> cases hv <;>
        exact safe_ended (safe_offers library session (.isValid _)) fun _ => safe_return _
  | rawKind token => exact safe_held token fun _ _ _ _ => safe_return _

theorem safe_within {body : Course Unit} (h : Safe body.run) (object : String) :
    Safe (Course.within object body).run := by
  refine safe_held object fun session _ id _ => ?_
  refine safe_ended (safe_lift h) fun ended => ?_
  refine safe_ended (safe_operate fun _ hs => Session.unhindered_dispose hs id) fun _ => ?_
  cases ended with
  | error failure => exact safe_fail _
  | ok _ => exact safe_return _

theorem safe_handling {body : Course Unit} {catches : Failure → Bool}
    {handle : Failure → Course Unit} (h : Safe body.run)
    (hh : ∀ failure, Safe (handle failure).run) :
    Safe (Course.handling body catches handle).run := by
  refine safe_ended (safe_lift h) fun ended => ?_
  cases ended with
  | error failure =>
      simp only
      split
      · exact hh failure
      · exact safe_fail _
  | ok _ => exact safe_return _

theorem safe_calledBack {callback : Course Unit} (h : Safe callback.run) (session : Nat)
    (child parent answer : String) (node above : CursorToken) :
    Safe (Course.calledBack session child parent callback answer node above).run :=
  safe_ended (safe_keep child _) fun _ => safe_ended (safe_keep parent _) fun _ =>
    safe_ended h fun _ => safe_ended (safe_known? answer) fun _ => safe_return _

theorem safe_visiting {callback : Course Unit} (h : Safe callback.run)
    (root child parent answer : String) :
    Safe (Course.visiting library fuel root child parent callback answer).run := by
  refine safe_held root fun session _ token _ => ?_
  have hwalk : Safe (walk library fuel session Failure.ofFault (fun node above =>
      (Course.calledBack session child parent callback answer node above).run) token) :=
    safe_walk (safe_calledBack h session child parent answer) token
  exact safe_ended hwalk fun _ => safe_return _

theorem Program.safe (program : Program) : Safe (program.bySession library fuel).run := by
  induction program with
  | done => exact safe_return _
  | raise text => exact safe_fail _
  | act operation name next ih =>
      exact safe_ended (operation.safe library) fun _ => safe_ended (safe_keep name _) fun _ => ih
  | choose name next ih => exact safe_ended (safe_known? name) fun sight => ih sight
  | block object body next body_ih ih =>
      exact safe_ended (safe_within body_ih object) fun _ => ih
  | attempt body catches handle next body_ih handle_ih ih =>
      exact safe_ended (safe_handling body_ih handle_ih) fun _ => ih
  | visit root child parent callback answer name next callback_ih ih =>
      exact safe_ended (safe_visiting library fuel callback_ih root child parent answer) fun _ =>
        safe_ended (safe_keep name _) fun _ => ih

theorem Program.safe_ask (program : Program) : Safe (program.ask library) := by
  refine (program.safe library Traversal.ample).bind fun ended => ?_
  cases ended <;> exact .pure _

end Programs

section Ends

variable {library : Native.Library} {name : String} {session : Nat} {item : Item}
  {t : Thread × Names}

theorem runs_held {want : Item → Option α} {failure : Failure} {wanted : α}
    (hl : t.2.lookup name = some (.held session item)) (hw : want item = some wanted) :
    (Course.held want failure name).run.run t = .ok (.ok (session, wanted), t) := by
  have hknown : (Course.known? name).run.run t = .ok (.ok (t.2.lookup name), t) := rfl
  rw [Course.held, Course.known, bind_assoc, runs_next hknown, hl]
  simp only [pure_bind, hw]
  rfl

theorem runs_operate (operation : Operation α) (t : Thread × Names) :
    (Course.operate operation).run.run t = match operation.run t.1 with
      | (.ok a, after) => .ok (.ok a, (after, t.2))
      | (.error (.fault fault), after) => .ok (.error (.ofFault fault), (after, t.2))
      | (.error (.conflict conflict), _) => .error (.conflict conflict) := by
  rw [Course.operate, runs_bind, runs_lift, run_perform]
  rcases operation.run t.1 with ⟨(fault | conflict) | a, after⟩ <;> rfl

-- What is asked about something of a session that has a name.
inductive Act.Asks (name : String) : Item → Act → Prop
  | cursor (query : CursorQuery) (token : CursorToken) :
      Asks name (.cursor token) (.askCursor query name)
  | type (query : TypeQuery) (token : TypeToken) : Asks name (.type token) (.askType query name)

theorem runs_isValid (library : Native.Library) {validity : Nat → Operation Bool} {valid : Bool}
    (hl : t.2.lookup name = some (.held session item)) (hw : validity? item = some validity)
    (hr : (validity session).run t.1 = (.ok valid, t.1)) :
    ((Act.isValid name).bySession library).run.run t = .ok (.ok (.flag valid), t) := by
  rw [Act.bySession, runs_next (runs_held hl hw), runs_bind, runs_operate, hr]
  rfl

-- What is asked of a token that has a name.
theorem runs_question {ν : Type} {want : Item → Option (Token ν)} {token : Token ν}
    (question : Nat → Token ν → Operation Answer)
    (hl : t.2.lookup name = some (.held session item)) (hw : want item = some token) :
    (do
      let (session, token) ← Course.held want .misfit name
      return .ofAnswer session (← Course.operate (question session token)) :
        Course Sight).run.run t = match (question session token).run t.1 with
      | (.ok answer, after) => .ok (.ok (.ofAnswer session answer), (after, t.2))
      | (.error (.fault fault), after) => .ok (.error (.ofFault fault), (after, t.2))
      | (.error (.conflict conflict), _) => .error (.conflict conflict) := by
  rw [runs_next (runs_held hl hw), runs_bind, runs_operate]
  rcases (question session token).run t.1 with ⟨(fault | conflict) | answer, after⟩ <;> rfl

-- An act on something that is told valid or not, as the case may be: it comes to an answer or to a
-- refusal.
def Act.Answers (library : Native.Library) (act : Act) (name : String) (thread : Thread)
    (session : Nat) (item : Item) (valid : Bool) : Prop :=
  ∀ names : Names, names.lookup name = some (.held session item) →
    ((Act.isValid name).bySession library).run.run (thread, names) =
      .ok (.ok (.flag valid), (thread, names)) ∧
    if valid then ∃ sight after, (act.bySession library).run.run (thread, names) =
      .ok (.ok sight, (after, names))
    else ∃ id reason, (act.bySession library).run.run (thread, names) =
      .ok (.error (.ofFault (.invalidHandle id reason)), (thread, names))

theorem Act.exists_answers {ν : Type} {want : Item → Option (Token ν)} {token : Token ν}
    {subject : Option Native.Subject} {Keeps : Answer → Prop} {act : Act}
    (question : Nat → Token ν → Operation Answer)
    {thread : Thread} (hs : thread.Free)
    (hact : act.bySession library = do
      let (session, token) ← Course.held want .misfit name
      return .ofAnswer session (← Course.operate (question session token)))
    (hw : want item = some token)
    (hv : validity? item = some fun session => Session.isValid session token)
    (hi : Session.Inquiry session token subject Keeps thread
      ((question session token).run thread)) :
    ∃ valid, act.Answers library name thread session item valid := by
  obtain ⟨hr, answer, after, ha⟩ | ⟨hr, reason, ha⟩ := hi.of_isValid hs
  · refine ⟨true, fun names hl => ⟨runs_isValid library hl hv hr, .ofAnswer session answer,
      after, ?_⟩⟩
    rw [hact, runs_question question hl hw, ha]
  · refine ⟨false, fun names hl => ⟨runs_isValid library hl hv hr, token.owner, reason, ?_⟩⟩
    rw [hact, runs_question question hl hw, ha]

-- A question is answered if what it is about is told valid, and refused otherwise.
theorem Act.Asks.answers (library : Native.Library) {act : Act} (asks : act.Asks name item)
    {thread : Thread} (hs : thread.Free) (session : Nat) :
    ∃ valid, act.Answers library name thread session item valid := by
  cases asks with
  | cursor query token =>
      exact exists_answers (Session.askCursor library · query ·) hs rfl rfl rfl
        (Session.askCursor_inquiry query token)
  | type query token =>
      exact exists_answers (Session.askType library · query ·) hs rfl rfl rfl
        (Session.askType_inquiry query token)

theorem Program.ask_act (library : Native.Library) (act : Act) (name : String)
    (t : Thread × Names) : ((Program.act act name .done).ask library).run t =
      match (act.bySession library).run.run t with
      | .error stop => .error stop
      | .ok (.error failure, u) => .ok (some failure, u)
      | .ok (.ok sight, u) => .ok (none, (u.1, (name, sight) :: u.2)) := by
  have hcourse : ((Program.act act name .done).bySession library Traversal.ample).run.run t =
      (act.bySession library >>= fun sight => Course.keep name sight >>= fun _ =>
        (pure () : Course Unit)).run.run t := rfl
  rw [Program.ask, StateT.run_bind, hcourse, runs_bind]
  rcases (act.bySession library).run.run t with stop | ⟨failure | sight, u⟩ <;> rfl

-- However the body of a block ends, the block ends as it does, with its resource dead.
theorem runs_within {object : String} {id : ResourceId} {body : Course Unit}
    {ended : Except Failure Unit} {u : Thread × Names}
    (hl : t.2.lookup object = some (.held session item)) (hh : handle? item = some id)
    (hr : body.run.run t = .ok (ended, u)) (hu : u.1.Free) :
    ∃ after, (Course.within object body).run.run t = .ok (ended, (after, u.2)) ∧
      (Session.isAlive session id).run after = (.ok false, after) := by
  obtain ⟨released, after, hd, hdead⟩ := Session.exists_dispose hu session id
  have hbody : (liftM body.run : Course (Except Failure Unit)).run.run t = .ok (.ok ended, u) := by
    rw [runs_lift, hr]
    rfl
  have hdispose : (Course.operate (Session.dispose session id)).run.run u =
      .ok (.ok released, (after, u.2)) := by
    rw [runs_operate, hd]
  refine ⟨after, ?_, hdead⟩
  rw [Course.within, runs_next (runs_held hl hh), runs_next hbody, runs_next hdispose]
  cases ended <;> rfl

theorem runs_within_stop {object : String} {id : ResourceId} {body : Course Unit} {stop : Stop}
    (hl : t.2.lookup object = some (.held session item)) (hh : handle? item = some id)
    (hr : body.run.run t = .error stop) :
    (Course.within object body).run.run t = .error stop := by
  rw [Course.within, runs_next (runs_held hl hh), runs_bind, runs_lift, hr]
  rfl

theorem Program.ask_block (library : Native.Library) {object : String} (body : Program)
    {id : ResourceId} (hs : t.1.Free) (hl : t.2.lookup object = some (.held session item))
    (hh : handle? item = some id) :
    (∃ stop, (body.ask library).run t = .error stop ∧
      ((Program.block object body .done).ask library).run t = .error stop) ∨
    ∃ failure u v, (body.ask library).run t = .ok (failure, u) ∧
      ((Program.block object body .done).ask library).run t = .ok (failure, v) ∧
      (Session.isAlive session id).run v.1 = (.ok false, v.1) := by
  have hfree := (body.safe library Traversal.ample t hs).1
  rw [ask, ask, StateT.run_bind, StateT.run_bind, bySession, runs_bind]
  rcases hr : (body.bySession library Traversal.ample).run.run t with stop | ⟨ended, u⟩
  · rw [runs_within_stop hl hh hr]
    exact .inl ⟨stop, rfl, rfl⟩
  · obtain ⟨after, hw, hdead⟩ := runs_within hl hh hr (hfree _ _ hr)
    rw [hw]
    cases ended with
    | ok _ => exact .inr ⟨none, u, (after, u.2), rfl, rfl, hdead⟩
    | error failure => exact .inr ⟨some failure, u, (after, u.2), rfl, rfl, hdead⟩

end Ends

end SyntaxHandles.Dynamic
