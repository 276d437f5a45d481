import SyntaxHandles.Proofs.Session.Changes
import Mathlib.Algebra.Order.Group.Multiset

-- Questions about tokens. What a question is answered, and what is asked of the library for it, is
-- settled by the registry of the session alone, and a question leaves all but the log as it is.

namespace SyntaxHandles.Session

open Effect Thread

-- A question about a token of either kind.
inductive Question
  | cursor (query : CursorQuery) (token : CursorToken)
  | type (query : TypeQuery) (token : TypeToken)

namespace Question

def owner : Question → ResourceId
  | cursor _ token => token.owner
  | type _ token => token.owner

-- What the library says of a value may depend on the unit that the value is taken from.
def ask (libraries : Option Nat → Native.Library) (key : Nat) (question : Question) :
    Operation Answer := do
  let unit ← unitNumber key question.owner
  match question with
  | cursor query token => askCursor (libraries unit) key query token
  | type query token => askType (libraries unit) key query token

end Question

-- What is asked of the library for a question: some calls, newest first, and then a string if the
-- answer is read from one.
structure Consultation where
  calls : List Native.Call := []
  text : Bool := false

namespace Consultation

variable (first second : Consultation) (state : Native.State)

-- The calls that read a string, newest first.
def reading (string : Nat) : List Native.Call :=
  if first.text then [.disposeString string, .readString string, .makeString string] else []

def strings : Nat :=
  if first.text then 1 else 0

def after : Native.State :=
  { state with
    log := first.reading state.strings ++ first.calls ++ state.log
    strings := state.strings + first.strings }

-- Which string is read for which of two questions depends on their order, but no more than that.
theorem log_after_after : ((second.after (first.after state)).log).Perm
    ((first.after (second.after state)).log) := by
  simp only [← Multiset.coe_eq_coe, after, reading, strings, ← Multiset.coe_add]
  cases first.text <;> cases second.text <;>
    simp only [Bool.false_eq_true, if_true, if_false, Nat.add_zero, Multiset.coe_nil, zero_add]
  all_goals ac_rfl

theorem after_after : first.after (second.after state) =
    { second.after (first.after state) with log := (first.after (second.after state)).log } := by
  simp only [after, Nat.add_right_comm]

end Consultation

section Answers

variable {key : Nat} {s : Thread}

-- How a question ends that is settled by its session: with an answer, after the library was asked.
def Settles (operation : Nat → Operation Answer) (owner : ResourceId) (unit : Option Nat)
    (answer : Answer) (consultation : Consultation) : Prop :=
  ∀ key s, (s.sessions key).checkOwner owner = .ok (.ok ()) →
    ((s.sessions key).find? owner.serial).bind (·.resource.unitNumber?) = unit →
      (operation key).run s = (.ok answer, s.withNative (consultation.after s.native))

theorem unwrap_of_checkOwner {ν : Type} {registry : Registry Resource} (token : Token ν)
    (hc : registry.checkOwner token.owner = .ok (.ok ())) :
    token.unwrap registry = .ok (.ok token.raw) := by
  simp only [Token.unwrap, hc, bind, Except.bind, pure, Except.pure, Except.map]

theorem run_unwrap_of_checkOwner {ν : Type} {key : Nat} {s : Thread} {token : Token ν}
    (hc : (s.sessions key).checkOwner token.owner = .ok (.ok ())) :
    (unwrap key token).run s = (.ok token.raw, s) := by
  rw [run_unwrap, unwrap_of_checkOwner token hc]

theorem exists_settles_askCursor (library : Native.Library) (query : CursorQuery)
    (token : CursorToken) (unit : Option Nat) : ∃ answer consultation,
      Settles (askCursor library · query token) token.owner unit answer consultation := by
  cases query with
  | location =>
      rcases hf : (library.place token.raw).file with _ | name
      · exact ⟨_, { calls := [.askCursor .location token.raw unit] }, fun key s hc hu => by
          simp only [askCursor, run_bind, run_unwrap_of_checkOwner hc, run_unitNumber, hu, run_call,
            hf]
          rfl⟩
      · exact ⟨_, { calls := [.fileName token.raw unit, .askCursor .location token.raw unit],
                    text := true }, fun key s hc hu => by
          simp only [askCursor, run_bind, run_unwrap_of_checkOwner hc, run_unitNumber, hu, run_call,
            hf, run_readOption]
          rfl⟩
  | spelling | displayName | rawComment =>
      exact ⟨_, { calls := [.askCursor _ token.raw unit], text := true }, fun key s hc hu => by
        simp only [askCursor, run_bind, run_unwrap_of_checkOwner hc, run_unitNumber, hu, run_call,
          run_readText, run_readOption]
        rfl⟩
  | _ =>
      exact ⟨_, { calls := [.askCursor _ token.raw unit] }, fun key s hc hu => by
        simp only [askCursor, run_bind, run_unwrap_of_checkOwner hc, run_unitNumber, hu, run_call]
        rfl⟩

theorem exists_settles_askType (library : Native.Library) (query : TypeQuery)
    (token : TypeToken) (unit : Option Nat) : ∃ answer consultation,
      Settles (askType library · query token) token.owner unit answer consultation := by
  cases query with
  | kind =>
      exact ⟨_, {}, fun key s hc hu => by
        simp only [askType, run_bind, run_unwrap_of_checkOwner hc]
        rfl⟩
  | spelling =>
      exact ⟨_, { calls := [.askType .spelling token.raw unit], text := true },
        fun key s hc hu => by
          simp only [askType, run_bind, run_unwrap_of_checkOwner hc, ne_eq, reduceCtorEq,
            not_false_eq_true, if_true, run_unitNumber, hu, run_call, run_readText]
          rfl⟩
  | _ =>
      exact ⟨_, { calls := [.askType _ token.raw unit] }, fun key s hc hu => by
        simp only [askType, run_bind, run_unwrap_of_checkOwner hc, ne_eq, reduceCtorEq,
          not_false_eq_true, if_true, run_unitNumber, hu, run_call]
        rfl⟩

namespace Question

variable (libraries : Option Nat → Native.Library) (question : Question)

theorem exists_settles (unit : Option Nat) : ∃ answer consultation,
    Settles (question.ask libraries) question.owner unit answer consultation := by
  cases question with
  | cursor query token =>
      obtain ⟨answer, consultation, h⟩ :=
        exists_settles_askCursor (libraries unit) query token unit
      refine ⟨answer, consultation, fun key s hc hu => ?_⟩
      have hunit : (unitNumber key token.owner).run s = (.ok unit, s) := hu ▸ run_unitNumber ..
      simp only [ask, owner, run_bind, hunit]
      exact h key s hc hu
  | type query token =>
      obtain ⟨answer, consultation, h⟩ := exists_settles_askType (libraries unit) query token unit
      refine ⟨answer, consultation, fun key s hc hu => ?_⟩
      have hunit : (unitNumber key token.owner).run s = (.ok unit, s) := hu ▸ run_unitNumber ..
      simp only [ask, owner, run_bind, hunit]
      exact h key s hc hu

-- The library is not asked about a token that is refused.
theorem run_ask_refused {fault : Fault}
    (hc : (s.sessions key).checkOwner question.owner = .ok (.error fault)) :
    (question.ask libraries key).run s = (.error (.fault fault), s) := by
  cases question with
  | cursor query token | type query token =>
      have hu : token.unwrap (s.sessions key) = .ok (.error fault) := by
        simp only [owner] at hc
        simp only [Token.unwrap, hc, bind, Except.bind, pure, Except.pure, Except.map]
      simp only [ask, run_bind, run_unitNumber, askCursor, askType, run_unwrap, hu]

theorem run_ask_conflict {conflict : Conflict}
    (hc : (s.sessions key).checkOwner question.owner = .error conflict) :
    (question.ask libraries key).run s = (.error (.conflict conflict), s) := by
  cases question with
  | cursor query token | type query token =>
      have hu : token.unwrap (s.sessions key) = .error conflict := by
        simp only [owner] at hc
        simp only [Token.unwrap, hc, bind, Except.bind]
      simp only [ask, run_bind, run_unitNumber, askCursor, askType, run_unwrap, hu]

-- The answer to a question, and what is asked of the library for it, depend on nothing but the
-- session that it is put to.
theorem exists_consultation (key : Nat) (registry : Registry Resource) :
    ∃ answered consultation, ∀ s : Thread, s.sessions key = registry →
      (question.ask libraries key).run s =
        (answered, s.withNative (Consultation.after consultation s.native)) := by
  rcases hc : registry.checkOwner question.owner with conflict | fault | _
  · refine ⟨.error (.conflict conflict), {}, fun s hs => ?_⟩
    exact run_ask_conflict libraries question (hs ▸ hc)
  · refine ⟨.error (.fault fault), {}, fun s hs => ?_⟩
    exact run_ask_refused libraries question (hs ▸ hc)
  · obtain ⟨answer, consultation, h⟩ := question.exists_settles libraries
      ((registry.find? question.owner.serial).bind (·.resource.unitNumber?))
    exact ⟨.ok answer, consultation, fun s hs => h key s (hs ▸ hc) (hs ▸ rfl)⟩

-- Questions leave everything but the log and the count of strings.
theorem exists_calls (key : Nat) (s : Thread) : ∃ calls strings,
    ((question.ask libraries key).run s).2 =
      s.withNative { s.native with log := calls ++ s.native.log, strings } := by
  obtain ⟨answered, consultation, h⟩ :=
    question.exists_consultation libraries key (s.sessions key)
  rw [h s rfl]
  exact ⟨consultation.reading s.native.strings ++ consultation.calls, _, rfl⟩

end Question

-- Two questions can be put in either order. The answers are the same, and so is everything after
-- them but the order of the calls.
theorem ask_comm (libraries : Option Nat → Native.Library) (first second : Question)
    (key other : Nat) (s : Thread) :
    let once := (first.ask libraries key).run s
    let twice := (second.ask libraries other).run once.2
    let once' := (second.ask libraries other).run s
    let twice' := (first.ask libraries key).run once'.2
    once.1 = twice'.1 ∧ twice.1 = once'.1 ∧ twice'.2.native.log.Perm twice.2.native.log ∧
      twice'.2 = twice.2.withNative { twice.2.native with log := twice'.2.native.log } := by
  obtain ⟨answered, consultation, h⟩ :=
    first.exists_consultation libraries key (s.sessions key)
  obtain ⟨answered', consultation', h'⟩ :=
    second.exists_consultation libraries other (s.sessions other)
  have hfirst := h s rfl
  have hsecond := h' s rfl
  have hafter := h (s.withNative (consultation'.after s.native)) rfl
  have hafter' := h' (s.withNative (consultation.after s.native)) rfl
  simp only [hfirst, hsecond, hafter, hafter', withNative_native, withNative_withNative,
    true_and]
  refine ⟨consultation'.log_after_after consultation s.native, ?_⟩
  exact congrArg s.withNative (consultation.after_after consultation' s.native)

end Answers

end SyntaxHandles.Session
