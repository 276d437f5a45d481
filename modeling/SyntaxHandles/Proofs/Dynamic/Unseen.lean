import SyntaxHandles.Proofs.Dynamic.Follows

-- What a host does on its desk that programs see nothing of: new objects get identities, exceptions
-- get accounts, and what goes wrong is put in words. With it, what programs keep.

namespace SyntaxHandles.Dynamic

open Scripting Telling
open SessionScript (Item)

variable {α β : Type} {s : Thread × Desk}

-- A script that only the host knows of.
def Unseen (P : α → Desk → Prop) (script : Script α) : Prop :=
  ∀ s : Thread × Desk, ∃ a desk, script.run s = .ok (a, (s.1, desk)) ∧ s.2.Like desk ∧ P a desk

theorem Unseen.pure {P : α → Desk → Prop} {a : α} (h : ∀ desk, P a desk) :
    Unseen P (pure a : Script α) :=
  fun s => ⟨a, s.2, rfl, .refl _, h _⟩

theorem Unseen.bind {P : α → Desk → Prop} {Q : β → Desk → Prop} {x : Script α}
    {f : α → Script β} (hx : Unseen P x)
    (hf : ∀ a s, P a s.2 → ∃ b desk, (f a).run s = .ok (b, (s.1, desk)) ∧ s.2.Like desk ∧
      Q b desk) : Unseen Q (x >>= f) := by
  intro s
  obtain ⟨a, desk, hr, hlike, ha⟩ := hx s
  obtain ⟨b, last, hr', hlike', hb⟩ := hf a (s.1, desk) ha
  refine ⟨b, last, ?_, hlike.trans hlike', hb⟩
  rw [StateT.run_bind, hr]
  exact hr'

theorem Unseen.lift {P : α → Desk → Prop} {script : Script α} (h : Unseen P script) :
    Silent P (liftM script : Part α) := by
  intro s
  obtain ⟨a, desk, hr, hlike, ha⟩ := h s
  refine ⟨a, desk, ?_, hlike, ha⟩
  rw [runs_lift, hr]
  rfl

theorem unseen_newIdentity : Unseen (fun _ _ => True) newIdentity :=
  fun s => ⟨s.2.made, s.2.grown, rfl, s.2.like_grown, trivial⟩

-- What becomes of a new identity.
theorem unseen_new {P : α → Desk → Prop} {f : Nat → α} (h : ∀ identity desk, P (f identity) desk) :
    Unseen P (newIdentity >>= fun identity => pure (f identity)) :=
  unseen_newIdentity.bind fun identity s _ => ⟨f identity, s.2, rfl, .refl _, h _ _⟩

theorem unseen_identified {value : Value} (hv : value.Plain) :
    Unseen (fun kept _ => Shows kept value.sight) (identified value) := by
  cases hv with
  | nothing => exact .pure fun _ => Value.Plain.nothing.shows
  | flag b => exact .pure fun _ => (Value.Plain.flag b).shows
  | int n identity =>
      cases identity with
      | zero => exact unseen_new fun identity _ => (Value.Plain.int n identity).shows
      | succ identity => exact .pure fun _ => (Value.Plain.int n _).shows
  | text string identity =>
      cases identity with
      | zero => exact unseen_new fun identity _ => (Value.Plain.text string identity).shows
      | succ identity => exact .pure fun _ => (Value.Plain.text string _).shows
  | location identity place => exact .pure fun _ => (Value.Plain.location identity place).shows
  | held identity session item =>
      exact .pure fun _ => (Value.Plain.held identity session item).shows

theorem follows_unseen {part : Script Value} {sight : Sight}
    (h : Unseen (fun value _ => Shows value sight) part) :
    Follows Shows (liftM part) (pure sight) := by
  intro s hs
  obtain ⟨value, desk, hr, hlike, hv⟩ := h.lift s
  rw [hr, ← hlike.names]
  exact .ok hv (hlike.fresh hs)

theorem follows_keep (name : String) {part : Part Value} {course : Course Sight}
    (h : Follows Shows part course) :
    Follows Always (keep name part) (course >>= Course.keep name) := by
  refine h.bind fun value sight hv => ?_
  refine (unseen_identified hv.plain).lift.follows fun kept _ hk => ?_
  intro s hs
  rw [hv.seen] at hk
  obtain ⟨rfl, hknown⟩ := hk
  exact .ok trivial (hs.keep name hknown)

-- What a program sees of a reply.
def Reply.sight : Reply → Sight
  | item session held => .held session held
  | answer session given => .ofAnswer session given

theorem unseen_valueOf (reply : Reply) :
    Unseen (fun value _ => Shows value reply.sight) (valueOf reply) := by
  have hheld (session : Nat) (item : Item) :
      Unseen (fun value _ => Shows value (.held session item)) (wrap session item) :=
    unseen_new fun identity _ => (Value.Plain.held identity session item).shows
  cases reply with
  | item session item => exact hheld session item
  | answer session answer =>
      cases answer with
      | number n => exact .pure fun _ => (Value.Plain.int n 0).shows
      | flag b => exact .pure fun _ => (Value.Plain.flag b).shows
      | text string => exact .pure fun _ => (Value.Plain.text string 0).shows
      | optionalText string =>
          cases string with
          | none => exact .pure fun _ => Value.Plain.nothing.shows
          | some string => exact .pure fun _ => (Value.Plain.text string 0).shows
      | location place =>
          exact unseen_new fun identity _ => (Value.Plain.location identity place).shows
      | nullability n => exact .pure fun _ => (Value.Plain.int (Constant.raw n) 0).shows
      | cursor token => exact hheld session (.cursor token)
      | type token => exact hheld session (.type token)

theorem follows_fulfil (library : Native.Library) (request : Request) :
    Follows Shows (fulfil library request)
      (Course.operate (request.perform library) >>= fun reply => pure reply.sight) := by
  refine (follows_attempt _).bind fun reply other hr => ?_
  subst hr
  exact follows_unseen (unseen_valueOf reply)

theorem operate_map {α β : Type} (operation : Operation α) (g : α → β) :
    Course.operate (operation >>= fun a => pure (g a)) =
      Course.operate operation >>= fun a => pure (g a) := by
  refine ExceptT.ext (StateT.ext fun s => ?_)
  have hbind := Effect.run_bind operation (fun a => pure (g a)) s.1
  change (Course.operate _).run.run s = (Course.operate operation >>= _).run.run s
  rw [runs_bind, Course.operate, Course.operate, runs_bind, runs_bind, runs_lift, runs_lift,
    run_perform, run_perform, hbind]
  rcases operation.run s.1 with ⟨(fault | conflict) | a, after⟩ <;> rfl

-- Texts among the values of a host.
def AreTexts (values : List Value) (texts : List String) : Prop :=
  List.Forall₂ (fun value s => ∃ identity, value = .text s identity) values texts

theorem unseen_allIdentified {values : List Value} {texts : List String}
    (h : AreTexts values texts) :
    Unseen (fun kept _ => AreTexts kept texts) (allIdentified values) := by
  induction h with
  | nil => exact .pure fun _ => .nil
  | @cons value string values texts hv _ ih =>
      obtain ⟨identity, rfl⟩ := hv
      have hone : Unseen (fun kept _ => ∃ identity, kept = .text string identity)
          (identified (.text string identity)) := by
        cases identity with
        | zero => exact unseen_new fun identity _ => ⟨identity, rfl⟩
        | succ identity => exact .pure fun _ => ⟨_, rfl⟩
      refine hone.bind fun kept s hk => ?_
      obtain ⟨rest, desk, hr, hlike, hrest⟩ := ih s
      refine ⟨kept :: rest, desk, ?_, hlike, .cons hk hrest⟩
      rw [StateT.run_bind, hr]
      rfl

theorem areTexts_map (texts : List String) :
    AreTexts (texts.map fun string => .text string) texts := by
  induction texts with
  | nil => exact .nil
  | cons string texts ih => exact .cons ⟨0, rfl⟩ ih

-- An exception that was made from some texts.
def IsException (c : Class) (texts : List String) (value : Value) (desk : Desk) : Prop :=
  ∃ identity values tuple, value = .exception identity ∧ AreTexts values texts ∧
    desk.account identity = { ofClass := c, arguments := .tuple values tuple }

theorem silent_makeException (c : Class) (texts : List String) :
    Silent (IsException c texts) (makeException c (texts.map fun string => .text string)) := by
  intro s
  obtain ⟨identity, desk, hr, hlike, -⟩ := unseen_newIdentity.lift s
  have htuple : Unseen (fun value _ => ∃ values tuple, value = .tuple values tuple ∧
      AreTexts values texts) (identified (.tuple (texts.map fun string => .text string))) := by
    refine (unseen_allIdentified (areTexts_map texts)).bind fun values s hv => ?_
    exact unseen_new (fun tuple _ => ⟨values, tuple, rfl, hv⟩) s
  obtain ⟨_, last, hr', hlike', values, tuple, rfl, hv⟩ := htuple.lift (s.1, desk)
  let account : Account := { ofClass := c, arguments := .tuple values tuple }
  let accounts := (identity, account) :: last.accounts.filter (·.1 ≠ identity)
  refine ⟨.exception identity, { last with accounts }, ?_, ?_, identity, values, tuple, rfl, hv, ?_⟩
  · rw [makeException, runs_next hr, runs_next hr']
    rfl
  · exact (hlike.trans hlike').trans ⟨rfl, rfl, rfl, rfl⟩
  · simp only [accounts, Desk.account, List.lookup_cons_self, Option.getD_some, account]

section Words

variable (library : Native.Library) (fuel : Nat) (base : Host)

-- The words of an exception are found two levels down: those of the exception are those of a text.
def speaker : Host :=
  (base.deeper library fuel).deeper library fuel

theorem run_plainText (hs : s.2.Fresh) {c : Class} {message : String} {value : Value}
    (he : IsException c [message] value s.2) :
    ((speaker library fuel base).plainText value).run.run s = .ok (.ok message, s) := by
  obtain ⟨identity, _, tuple, rfl, _ | ⟨⟨place, rfl⟩, ⟨⟩⟩, haccount⟩ := he
  have hclass : (classOf (.exception identity)).run.run s = .ok (.ok c, s) := by
    have hr : (classOf (.exception identity)).run.run s =
        .ok (.ok (s.2.account identity).ofClass, s) := rfl
    rw [hr, haccount]
  have htext : ((base.deeper library fuel).plainText (.text message place)).run.run s =
      .ok (.ok message, s) :=
    runs_next (run_overriding? hs (run_classOf (.text message place) s) (by simp [overridable]))
  have hexception : ((base.deeper library fuel).ownPlainText (.exception identity)).run.run s =
      .ok (.ok message, s) := by
    rw [← htext, Host.ownPlainText, runs_next (a := s.2.account identity) (t := s) rfl, haccount]
  rw [← hexception]
  exact runs_next (run_overriding? hs hclass (by simp [overridable]))

theorem unseen_spokenText (hs : s.2.Fresh) (c : Class) (message : String) :
    ∃ desk, (spokenText (speaker library fuel base) c message).run s =
      .ok (some message, (s.1, desk)) ∧ s.2.Like desk := by
  obtain ⟨value, desk, hr, hlike, he⟩ := silent_makeException c [message] s
  refine ⟨desk, ?_, hlike⟩
  have ht := run_plainText library fuel base (s := (s.1, desk)) (hlike.fresh hs) he
  have hmade : (makeException c [.text message]).run.run s = .ok (.ok value, (s.1, desk)) := hr
  rw [spokenText, StateT.run_bind, runs_next hmade, ht]
  rfl

theorem unseen_failureOf (hs : s.2.Fresh) (problem : Problem) :
    ∃ desk, (failureOf (speaker library fuel base) problem).run s =
      .ok (problem.failure, (s.1, desk)) ∧ s.2.Like desk := by
  cases problem with
  | noObject => exact ⟨s.2, rfl, .refl _⟩
  | raised raised =>
      have hdesk : (Scripting.desk : Script Desk).run s = .ok (s.2, s) := rfl
      simp only [failureOf, Problem.failure]
      rw [run_next hdesk, hs.guise]
      simp only [Option.getD_none]
      cases raised.message with
      | none => exact ⟨s.2, by simp only [ite_self]; rfl, .refl _⟩
      | some message =>
          cases spoken.contains raised.ofClass.name with
          | false => exact ⟨s.2, rfl, .refl _⟩
          | true =>
              cases raised.ofClass.isOwn with
              | false => exact ⟨s.2, rfl, .refl _⟩
              | true =>
                  obtain ⟨desk, hr, hlike⟩ :=
                    unseen_spokenText library fuel base hs raised.ofClass message
                  exact ⟨desk, run_next hr, hlike⟩

end Words

end SyntaxHandles.Dynamic
