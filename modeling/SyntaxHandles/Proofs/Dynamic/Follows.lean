import SyntaxHandles.Proofs.Dynamic.Fresh
import SyntaxHandles.Proofs.Session.Scripts

-- Parts of steps that come to the same as courses of session operations: from a fresh desk both
-- stop for the same reason, or go on with the same thread, a fresh desk and what a program sees of
-- it.

namespace SyntaxHandles.Dynamic

open Scripting Telling
open SessionScript (Item)

-- What a program sees of a problem.
def Problem.failure : Problem → Failure
  | noObject => .noObject
  | raised problem =>
    let name := problem.ofClass.name
    .raised name (if spoken.contains name then problem.message else none)

theorem failure_refused (fault : Fault) : (refused fault).failure = .ofFault fault := by
  cases fault <;> rfl

variable {α β γ δ : Type} {R : α → β → Prop} {S : γ → δ → Prop} {s : Thread × Desk}

-- How one run of a part and one of a course end.
inductive Agree (R : α → β → Prop) : Except Stop (Except Problem α × (Thread × Desk)) →
    Except Stop (Except Failure β × (Thread × Names)) → Prop
  | stop (stop : Stop) : Agree R (.error stop) (.error stop)
  | ok {a b} {t : Thread × Desk} (related : R a b) (fresh : t.2.Fresh) :
      Agree R (.ok (.ok a, t)) (.ok (.ok b, (t.1, t.2.names)))
  | failed (problem : Problem) {t : Thread × Desk} (fresh : t.2.Fresh) :
      Agree R (.ok (.error problem, t)) (.ok (.error problem.failure, (t.1, t.2.names)))

def Follows (R : α → β → Prop) (part : Part α) (course : Course β) : Prop :=
  ∀ s : Thread × Desk, s.2.Fresh → Agree R (part.run.run s) (course.run.run (s.1, s.2.names))

-- A value that a program sees as this.
structure Shows (value : Value) (sight : Sight) : Prop where
  seen : value.sight = sight
  known : sight ≠ Sight.other

theorem Value.Plain.shows {value : Value} (hv : value.Plain) : Shows value value.sight :=
  ⟨rfl, hv.sight_ne⟩

theorem Shows.plain {value : Value} {sight : Sight} (h : Shows value sight) : value.Plain :=
  Value.plain_of_sight (h.seen ▸ h.known)

def Always (_ : α) (_ : β) : Prop := True

theorem Follows.pure {a : α} {b : β} (h : R a b) : Follows R (pure a) (pure b) :=
  fun _ hs => .ok h hs

theorem Follows.throw (problem : Problem) {failure : Failure} (h : problem.failure = failure) :
    Follows R (throw problem) (throw failure) :=
  fun _ hs => h ▸ .failed problem hs

theorem Agree.bind {part : Part α} {f : α → Part γ} {course : Course β} {g : β → Course δ}
    {s : Thread × Desk} {t : Thread × Names} (h : Agree R (part.run.run s) (course.run.run t))
    (hf : ∀ a b, R a b → Follows S (f a) (g b)) :
    Agree S ((part >>= f).run.run s) ((course >>= g).run.run t) := by
  rw [runs_bind, runs_bind]
  generalize part.run.run s = x at h ⊢
  generalize course.run.run t = y at h ⊢
  cases h with
  | stop stop => exact .stop stop
  | ok related fresh => exact hf _ _ related _ fresh
  | failed problem fresh => exact .failed problem fresh

theorem Agree.fresh {x : Except Stop (Except Problem α × (Thread × Desk))}
    {y : Except Stop (Except Failure β × (Thread × Names))} (h : Agree R x y)
    {ended : Except Problem α} {t : Thread × Desk} (hx : x = .ok (ended, t)) : t.2.Fresh := by
  cases h with
  | stop stop => exact nomatch hx
  | ok related fresh =>
      cases hx
      exact fresh
  | failed problem fresh =>
      cases hx
      exact fresh

theorem Follows.bind {part : Part α} {f : α → Part γ} {course : Course β} {g : β → Course δ}
    (h : Follows R part course) (hf : ∀ a b, R a b → Follows S (f a) (g b)) :
    Follows S (part >>= f) (course >>= g) :=
  fun s hs => (h s hs).bind hf

-- What ends a part early can be gone on from.
theorem Follows.caught {part : Part α} {course : Course β} {f : Except Problem α → Part γ}
    {g : Except Failure β → Course δ} (h : Follows R part course)
    (hok : ∀ a b, R a b → Follows S (f (.ok a)) (g (.ok b)))
    (hfailed : ∀ problem : Problem, Follows S (f (.error problem)) (g (.error problem.failure))) :
    Follows S ((liftM part.run : Part (Except Problem α)) >>= f)
      ((liftM course.run : Course (Except Failure β)) >>= g) := by
  intro s hs
  have ha := h s hs
  rw [runs_bind, runs_bind, runs_lift, runs_lift]
  generalize part.run.run s = x at ha ⊢
  generalize course.run.run (s.1, s.2.names) = y at ha ⊢
  cases ha with
  | stop stop => exact .stop stop
  | ok related fresh => exact hok _ _ related _ fresh
  | failed problem fresh => exact hfailed problem _ fresh

-- A part that does on fresh desks what another one does.
theorem Follows.congr {part part' : Part α} {course : Course β} (h : Follows R part' course)
    (he : ∀ s : Thread × Desk, s.2.Fresh → part.run.run s = part'.run.run s) :
    Follows R part course :=
  fun s hs => he s hs ▸ h s hs

-- A part that programs see nothing of.
def Silent (P : α → Desk → Prop) (part : Part α) : Prop :=
  ∀ s : Thread × Desk, ∃ a desk, part.run.run s = .ok (.ok a, (s.1, desk)) ∧
    s.2.Like desk ∧ P a desk

theorem Silent.next {P : α → Desk → Prop} {part : Part α} {f : α → Part γ} {course : Course δ}
    (h : Silent P part) (hs : s.2.Fresh)
    (hf : ∀ a desk, desk.Fresh → desk.names = s.2.names → P a desk →
      Agree S ((f a).run.run (s.1, desk)) (course.run.run (s.1, s.2.names))) :
    Agree S ((part >>= f).run.run s) (course.run.run (s.1, s.2.names)) := by
  obtain ⟨a, desk, hr, hlike, ha⟩ := h s
  rw [runs_next hr]
  exact hf a desk (hlike.fresh hs) hlike.names ha

theorem Silent.follows {P : α → Desk → Prop} {part : Part α} {f : α → Part γ} {course : Course δ}
    (h : Silent P part) (hf : ∀ a desk, P a desk → Follows S (f a) course) :
    Follows S (part >>= f) course := by
  intro s hs
  refine h.next hs fun a desk hd hn ha => ?_
  rw [← hn]
  exact hf a desk ha (s.1, desk) hd

theorem lookup_names (labels : List (String × Value)) (name : String) :
    (labels.map fun (name, value) => (name, value.sight)).lookup name =
      (labels.lookup name).map Value.sight := by
  induction labels with
  | nil => rfl
  | cons entry labels ih =>
      obtain ⟨other, value⟩ := entry
      simp only [List.map_cons, List.lookup_cons, ih]
      split <;> rfl

theorem shows_of_lookup {desk : Desk} (hd : desk.Fresh) {name : String} {value : Value}
    (h : desk.labels.lookup name = some value) : Shows value value.sight := by
  obtain ⟨before, after, hl, -⟩ := List.lookup_eq_some_iff.mp h
  exact ⟨rfl, hd.known (name, value) (by simp [hl])⟩

theorem follows_find (name : String) : Follows Shows (find name) (Course.known name) := by
  intro s hs
  have hl : (Course.known? name).run.run (s.1, s.2.names) =
      .ok (.ok ((s.2.labels.lookup name).map Value.sight), (s.1, s.2.names)) := by
    rw [← lookup_names]
    rfl
  rw [find, runs_next (a := s.2.labels.lookup name) (t := s) rfl, Course.known, runs_next hl]
  cases hv : s.2.labels.lookup name with
  | some value => exact .ok (shows_of_lookup hs hv) hs
  | none => exact .failed .noObject hs

-- What a value is to those who want something of a session.
def Value.want {α : Type} (want : Item → Option α) : Value → Option (Nat × α)
  | held _ session item => (want item).map (session, ·)
  | _ => none

theorem readHeld_eq (want : Item → Option α) (value : Value) :
    Kind.readHeld want value = match value.want want with
      | some wanted => .ok ⟨wanted.1, wanted.2⟩
      | none => .error (.type none) := by
  cases value
  case held identity session item =>
    simp only [Kind.readHeld, Value.want]
    cases want item <;> rfl
  all_goals rfl

theorem exists_held {want : Item → Option α} {value : Value} {wanted : Nat × α}
    (h : value.want want = some wanted) :
    ∃ identity item, value = .held identity wanted.1 item ∧ want item = some wanted.2 := by
  cases value
  case held identity session item =>
    simp only [Value.want, Option.map_eq_some_iff] at h
    obtain ⟨a, ha, rfl⟩ := h
    exact ⟨identity, item, rfl, ha⟩
  all_goals exact nomatch h

theorem follows_held {want : Item → Option α} {failure : Failure} {name : String}
    {part : Value → Part γ} {course : Nat × α → Course δ}
    (hsome : ∀ value wanted, value.Plain → value.want want = some wanted →
      Follows S (part value) (course wanted))
    (hnone : ∀ value, value.Plain → value.want want = none →
      Follows S (part value) (Course.fail failure)) :
    Follows S (find name >>= part) (Course.held want failure name >>= course) := by
  rw [Course.held, bind_assoc]
  refine (follows_find name).bind fun value sight hv => ?_
  have hplain := hv.plain
  obtain ⟨rfl, -⟩ := hv
  have hn := hnone value hplain
  cases hplain with
  | held identity session item =>
      simp only [Value.sight]
      cases hw : want item with
      | none => exact hn (by simp only [Value.want, hw, Option.map_none])
      | some wanted => exact hsome _ _ (.held ..) (by simp only [Value.want, hw, Option.map_some])
  | nothing => exact hn rfl
  | flag b => exact hn rfl
  | int n identity => exact hn rfl
  | text string identity => exact hn rfl
  | location identity place => exact hn rfl

theorem follows_attempt (operation : Operation α) :
    Follows Eq (attempt operation) (Course.operate operation) := by
  rintro ⟨thread, desk⟩ hs
  rw [attempt, Course.operate, runs_bind, runs_bind, runs_lift, runs_lift, run_perform, run_perform]
  rcases operation.run thread with ⟨(fault | conflict) | a, after⟩
  · have hfailed : Agree (Eq (α := α)) (.ok (.error (refused fault), (after, desk)))
        (.ok (.error (.ofFault fault), (after, desk.names))) :=
      failure_refused fault ▸ .failed (refused fault) hs
    exact hfailed
  · exact .stop (.conflict conflict)
  · exact .ok rfl hs

end SyntaxHandles.Dynamic
