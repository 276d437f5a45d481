import SyntaxHandles.Proofs.Dynamic.Objects

-- What the objects of a session do when they are told, and blocks that work with them. A block
-- disposes of what it works with, however its body ends.

namespace SyntaxHandles.Dynamic

open Scripting Telling
open SessionScript (Item)

variable {s : Thread × Desk} {value : Value} {giver : Class}

section Telling

variable (library : Native.Library) (fuel : Nat) (inner : Host)

-- The names under which objects of a session can be told something.
def tellable : List String :=
  ["cursor", "dispose", "__enter__", "__exit__"]

theorem tellBy_held {name : String} (hn : name ∈ tellable) (hg : giver ≠ .anything)
    (identity session : Nat) (item : Item) (values : List Value) :
    tellBy library inner giver name (.held identity session item) values =
      tellHeld library name (.held identity session item) values := by
  simp only [tellable, List.mem_cons, List.not_mem_nil, or_false] at hn
  rcases hn with rfl | rfl | rfl | rfl
  · simp only [tellBy, show Comparison.ofText? "cursor" = none from rfl, hg, if_false]
    rfl
  · simp only [tellBy, show Comparison.ofText? "dispose" = none from rfl, hg, if_false]
    rfl
  · simp only [tellBy, show Comparison.ofText? "__enter__" = none from rfl, hg, if_false]
    rfl
  · simp only [tellBy, show Comparison.ofText? "__exit__" = none from rfl, hg, if_false]
    rfl

theorem run_call_feature {name : String} (hn : name ∈ tellable) (identity session : Nat)
    (item : Item) (values : List Value) (s : Thread × Desk) :
    ((inner.deeper library fuel).call (.feature (Value.ofItem item) .method name)
        (.held identity session item :: values)).run.run s =
      (tellHeld library name (.held identity session item) values).run.run s := by
  have hv := Value.Plain.held identity session item
  have hg : Value.ofItem item ≠ .anything := by cases item <;> exact nofun
  rw [← tellBy_held library inner hn hg]
  exact runs_next (run_checkFits hv (contains_ofClass hv))

theorem follows_fulfil_dispose (session : Nat) (id : ResourceId) :
    Follows Shows (fulfil library (.dispose session id))
      (Course.operate (Session.dispose session id) >>= fun b => pure (.flag b)) := by
  have h := follows_fulfil library (.dispose session id)
  simp only [Request.perform, operate_map, bind_assoc, pure_bind] at h
  exact h

theorem follows_fulfil_root (unit : Held UnitHandle) :
    Follows Shows (fulfil library (.root unit))
      (Course.operate (Session.root unit.session unit.item) >>= fun token =>
        pure (.held unit.session (.cursor token))) := by
  have h := follows_fulfil library (.root unit)
  simp only [Request.perform, operate_map, bind_assoc, pure_bind] at h
  exact h

theorem follows_tellDispose (object : String) :
    Follows Shows ((Act.tellDispose object).byHost library fuel (inner.deeper library fuel))
      ((Act.tellDispose object).bySession library) := by
  refine follows_told _ offered_dispose (fun identity session item id hi => ?_) object
  refine (follows_fulfil_dispose library session id).congr fun s _ => ?_
  rw [run_call_feature library fuel inner (by simp [tellable])]
  cases item <;> cases hi <;> rfl

theorem follows_tellRoot (object : String) :
    Follows Shows ((Act.tellRoot object).byHost library fuel (inner.deeper library fuel))
      ((Act.tellRoot object).bySession library) := by
  refine follows_told _ offered_cursor (fun identity session item unit hi => ?_) object
  refine (follows_fulfil_root library ⟨session, unit⟩).congr fun s _ => ?_
  rw [run_call_feature library fuel inner (by simp [tellable])]
  cases item <;> cases hi
  rfl

end Telling

theorem run_special? (hs : s.2.Fresh) (hv : value.Plain) (name : String) :
    (special? value name).run.run s = .ok (.ok (value.ofClass.found? s.2.interface name), s) :=
  (runs_next (run_classOf hv s)).trans (run_lookUp? hs name _)

-- What all objects have from which something can be wanted is found, and nothing for others.
theorem run_special?_offered {α : Type} {want : Item → Option α} {name : String} (hs : s.2.Fresh)
    (hv : value.Plain) (offered : Offered want .method name) :
    (special? value name).run.run s =
      .ok (.ok ((value.want want).map fun _ => .feature value.ofClass .method name), s) := by
  rw [run_special? hs hv, offered _ _ hv]

section Blocks

variable (library : Native.Library) (fuel : Nat) (inner : Host)

-- What a block works with, and what it does in the end.
def Enters (entered : Entered) (handle : Nat × ResourceId) : Prop :=
  ∃ identity item, entered.value = .held identity handle.1 item ∧ handle? item = some handle.2 ∧
    entered.leave = .feature (Value.ofItem item) .method "__exit__"

theorem follows_enter (object : String) :
    Follows Enters (enter (inner.deeper library fuel) object)
      (Course.held handle? .misfit object) := by
  rw [← bind_pure (Course.held handle? .misfit object)]
  refine follows_held (fun value handle hv hw => ?_) fun value hv hw => ?_ <;> intro s hs
  · have henter := run_special?_offered hs hv offered_enter
    have hexit := run_special?_offered hs hv offered_exit
    rw [hw] at henter hexit
    simp only [Option.map_some] at henter hexit
    obtain ⟨identity, item, rfl, hi⟩ := exists_held hw
    have hself : ((inner.deeper library fuel).tellOverriding (.held identity handle.1 item)
        (.feature (Value.ofItem item) .method "__enter__") []).run.run s =
          .ok (.ok (.held identity handle.1 item), s) :=
      run_call_feature library fuel inner (by simp [tellable]) identity handle.1 item [] s
    simp only [Value.ofClass] at henter hexit
    rw [runs_next henter]
    simp only [orRefuse, pure_bind]
    rw [runs_next hexit]
    simp only [pure_bind]
    rw [runs_next hself]
    exact .ok ⟨identity, item, rfl, hi, rfl⟩ hs
  · have henter := run_special?_offered hs hv offered_enter
    rw [hw] at henter
    rw [runs_next henter]
    exact .failed (.raised (.type none)) hs

-- The answer that leaves everything to the host.
def Denies (answer : Value) (_ : Unit) : Prop :=
  answer = .flag false

-- What an object answers when it is left.
theorem follows_exit {entered : Entered} {session : Nat} {id : ResourceId}
    (he : Enters entered (session, id)) (a b c : Value) :
    Follows Denies
      ((inner.deeper library fuel).tellOverriding entered.value entered.leave [a, b, c])
      (Course.operate (Session.dispose session id) >>= fun _ => pure ()) := by
  obtain ⟨identity, item, hvalue, hi, hleave⟩ := he
  have hfulfil : Follows Denies
      (fulfil library (.dispose session id) >>= fun _ => pure (.flag false))
      (Course.operate (Session.dispose session id) >>= fun _ => pure ()) := by
    have h := (follows_fulfil_dispose library session id).bind fun _ _ _ =>
      Follows.pure (R := Denies) (a := .flag false) (b := ()) rfl
    simpa only [bind_assoc, pure_bind] using h
  rw [hvalue, hleave]
  refine hfulfil.congr fun s _ => ?_
  refine (run_call_feature library fuel inner (by simp [tellable]) identity session item
    [a, b, c] s).trans ?_
  cases item <;> cases hi <;> rfl

theorem run_truth_flag (hs : s.2.Fresh) (host : Host) (b : Bool) :
    (host.truth (.flag b)).run.run s = .ok (.ok b, s) := by
  have hc := run_classOf (.flag b) s
  rw [Host.truth, runs_next (run_overriding? hs hc (by simp [overridable]))]
  exact runs_next (run_overriding? hs hc (by simp [overridable]))

-- Leaving disposes of what was entered.
theorem follows_leave {entered : Entered} {session : Nat} {id : ResourceId}
    (he : Enters entered (session, id)) :
    Follows Always (leave (inner.deeper library fuel) entered none)
      (Course.operate (Session.dispose session id) >>= fun _ => pure ()) := by
  have h := (follows_exit library fuel inner he .nothing .nothing .nothing).bind fun _ _ _ =>
    Follows.pure (a := ()) (b := ()) (R := Always) trivial
  simp only [bind_assoc, pure_bind] at h
  exact h

-- And so does being left by force, which settles nothing.
theorem follows_unwind {entered : Entered} {session : Nat} {id : ResourceId}
    (he : Enters entered (session, id)) (c : Class) (texts : List String) (problem : Problem) :
    Follows Always
      (unwind (inner.deeper library fuel) entered c (texts.map fun string => .text string) problem)
      (do
        let _ ← Course.operate (Session.dispose session id)
        Course.fail problem.failure : Course Unit) := by
  refine (silent_makeException c texts).follows fun exception desk _ => ?_
  have h := (follows_exit library fuel inner he (.class c) exception .nothing).bind
    (S := Always) (f := fun answer => do
      if !(← (inner.deeper library fuel).truth answer) then throw problem)
    (g := fun _ => (Course.fail problem.failure : Course Unit)) fun answer _ ha s hs => by
      rw [show answer = .flag false from ha]
      rw [runs_next (run_truth_flag hs _ false)]
      exact .failed problem hs
  simpa only [bind_assoc, pure_bind] using h

theorem exists_arguments (problem : Problem) :
    ∃ texts : List String, problem.arguments = texts.map fun string => .text string := by
  cases problem with
  | noObject => exact ⟨[], rfl⟩
  | raised raised =>
      refine ⟨raised.message.toList, ?_⟩
      cases h : raised.message <;> simp [Problem.arguments, h]

theorem follows_within (object : String) {body : Part Unit} {course : Course Unit}
    (hb : Follows Always body course) :
    Follows Always (within (inner.deeper library fuel) object body)
      (Course.within object course) := by
  refine (follows_enter library fuel inner object).bind fun entered ⟨session, id⟩ he => ?_
  refine hb.caught (fun _ _ _ => follows_leave library fuel inner he) fun problem => ?_
  obtain ⟨texts, ht⟩ := exists_arguments problem
  simp only [ht]
  exact follows_unwind library fuel inner he problem.ofClass texts problem

end Blocks

-- A failure is handled by what the program sees of it.
theorem follows_handling (library : Native.Library) (fuel : Nat) (base : Host) {body : Part Unit}
    {course : Course Unit} (catches : Failure → Bool) {handle : Failure → Part Unit}
    {handle' : Failure → Course Unit} (hb : Follows Always body course)
    (hh : ∀ failure, Follows Always (handle failure) (handle' failure)) :
    Follows Always (handling (speaker library fuel base) body catches handle)
      (Course.handling course catches handle') := by
  refine hb.caught (fun _ _ _ => .pure trivial) fun problem s hs => ?_
  obtain ⟨desk, hr, hlike⟩ := unseen_failureOf library fuel base hs problem
  have hrest : Follows Always
      (if catches problem.failure then handle problem.failure else throw problem)
      (if catches problem.failure then handle' problem.failure
        else Course.fail problem.failure) := by
    split
    · exact hh problem.failure
    · exact .throw problem rfl
  have ha := hrest (s.1, desk) (hlike.fresh hs)
  rw [hlike.names] at ha
  rw [runs_bind, runs_lift, hr]
  exact ha

end SyntaxHandles.Dynamic
