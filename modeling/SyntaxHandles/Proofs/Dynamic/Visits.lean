import SyntaxHandles.Proofs.Dynamic.Unseen
import SyntaxHandles.Proofs.Traversal.Matching

-- Traversals whose visitors are functions of the host.

namespace SyntaxHandles

namespace Scripting

variable {σ τ κ ε δ α β : Type}

def Halt.map (f : ε → δ) : Halt ε → Halt δ
  | problem p => .problem (f p)
  | stop s => .stop s

-- How two runs of scripts end that keep related desks, and put what goes wrong in other words.
inductive Alike (D : σ → τ → Prop) (f : ε → δ) :
    Except Stop (Except ε α × (Thread × σ)) → Except Stop (Except δ α × (Thread × τ)) → Prop
  | stop (stop : Stop) : Alike D f (.error stop) (.error stop)
  | ended (ended : Except ε α) (thread : Thread) {desk : σ} {other : τ} (related : D desk other) :
      Alike D f (.ok (ended, (thread, desk))) (.ok (ended.mapError f, (thread, other)))

section Alike

variable {D : σ → τ → Prop} {f : ε → δ} {refuse : Fault → ε} {refuse' : Fault → δ}
  {visit : (child parent : CursorToken) → Script σ (Except ε ChildVisit)}
  {visit' : (child parent : CursorToken) → Script τ (Except δ ChildVisit)}

theorem host_matches (library : Native.Library) (key : Nat)
    (hr : ∀ fault, refuse' fault = f (refuse fault))
    (hv : ∀ child parent thread v w, D v w →
      Alike D f ((visit child parent).run (thread, v)) ((visit' child parent).run (thread, w))) :
    Traversal.Host.Matches (fun s t => s.1 = t.1 ∧ D s.2 t.2) id
      ((host library key refuse visit).mapError (Halt.map f)) (host library key refuse' visit') where
  children node := by
    rintro ⟨thread, v⟩ ⟨_, w⟩ ⟨rfl, hd⟩
    rcases hc : (Session.children library key node).run thread with ⟨listed, after⟩
    refine ⟨listed, (after, v), (after, w), ⟨rfl, hd⟩, ?_, ?_⟩
    · simp only [host, Session.host, Traversal.Host.mapError, hc]
    · simp only [host, Session.host, id, hc]
      cases listed <;> simp [Except.map]
  visit child parent := by
    rintro ⟨thread, v⟩ ⟨_, w⟩ ⟨rfl, hd⟩
    have ha := hv child parent thread v w hd
    simp only [host, Session.host, Traversal.Host.mapError, answered, id]
    generalize (visit child parent).run (thread, v) = x at ha ⊢
    generalize (visit' child parent).run (thread, w) = y at ha ⊢
    cases ha with
    | stop stop => exact ⟨_, (thread, v), (thread, w), ⟨rfl, hd⟩, rfl, rfl⟩
    | @ended ended after v' w' related =>
        refine ⟨_, (after, v'), (after, w'), ⟨rfl, related⟩, rfl, ?_⟩
        cases ended <;> rfl
  convert := by
    funext interrupt
    cases interrupt with
    | fault fault => exact congrArg Halt.problem (hr fault)
    | conflict conflict => rfl

theorem walk_alike (library : Native.Library) (fuel key : Nat) (root : CursorToken)
    (hr : ∀ fault, refuse' fault = f (refuse fault))
    (hv : ∀ child parent thread v w, D v w →
      Alike D f ((visit child parent).run (thread, v)) ((visit' child parent).run (thread, w)))
    (thread : Thread) {desk : σ} {other : τ} (hd : D desk other) :
    Alike D f ((walk library fuel key refuse visit root).run (thread, desk))
      ((walk library fuel key refuse' visit' root).run (thread, other)) := by
  have hm := Traversal.run_matches (host_matches library key hr hv) fuel root {}
    (s := (thread, desk)) (t := (thread, other)) ⟨rfl, hd⟩
  rw [Traversal.run_mapError, id_eq] at hm
  rw [run_walk, run_walk]
  generalize Traversal.run (host library key refuse visit) fuel root {} _ = coarse at hm ⊢
  generalize Traversal.run (host library key refuse' visit') fuel root {} _ = fine at hm ⊢
  cases coarse with
  | none =>
      cases hm
      exact .stop .outOfFuel
  | some coarse =>
      obtain ⟨result, walker, after, v⟩ := coarse
      cases hm with
      | @some _ fine hm =>
          obtain ⟨result', walker', after', w⟩ := fine
          obtain ⟨rfl, -, rfl, hdesk⟩ := hm
          rcases result with (problem | stop) | outcome
          · exact .ended (.error problem) _ hdesk
          · exact .stop stop
          · exact .ended (.ok outcome) _ hdesk

end Alike

-- What comes of a traversal without the notes of its visits, which change nothing.

def unnoted (told : (Except ε α × List κ) × (Thread × σ)) : Except ε α × (Thread × σ) :=
  (told.1.1, told.2)

theorem Alike.map_eq {g : τ → σ} {x : Except Stop (Except ε α × (Thread × τ))}
    {y : Except Stop (Except ε α × (Thread × σ))} (h : Alike (fun v desk => g v = desk) id x y) :
    x.map (fun (result, thread, v) => (result, (thread, g v))) = y := by
  cases h with
  | stop stop => rfl
  | ended ended thread related =>
      cases related
      cases ended <;> rfl

theorem aside_pure (a : α) : (aside (pure a) : Script (Visits σ κ) α) = pure a := rfl

theorem aside_bind (x : Script σ α) (f : α → Script σ β) :
    (aside (x >>= f) : Script (Visits σ κ) β) = aside x >>= fun a => aside (f a) := by
  refine StateT.ext fun ⟨thread, v⟩ => ?_
  rw [StateT.run_bind, run_aside, run_aside, StateT.run_bind]
  cases x.run (thread, v.desk) with
  | error stop => rfl
  | ok ended => exact (run_aside (f ended.1) ended.2.1 { v with desk := ended.2.2 }).symm

theorem alike_aside (script : Script σ (Except ε α)) (thread : Thread) (v : Visits σ κ) :
    Alike (fun (v : Visits σ κ) desk => v.desk = desk) id ((aside script).run (thread, v))
      (script.run (thread, v.desk)) := by
  rw [run_aside]
  rcases script.run (thread, v.desk) with stop | ⟨problem | a, after, desk⟩
  · exact .stop stop
  · exact .ended (.error problem) after rfl
  · exact .ended (.ok a) after rfl

theorem traverse_unnoted (library : Native.Library) (fuel key : Nat) (refuse : Fault → ε)
    (root : CursorToken)
    {visit : (child parent : CursorToken) → Script (Visits σ κ) (Except ε ChildVisit)}
    {plain : (child parent : CursorToken) → Script σ (Except ε ChildVisit)}
    (hv : ∀ child parent thread v, Alike (fun (v : Visits σ κ) desk => v.desk = desk) id
      ((visit child parent).run (thread, v)) ((plain child parent).run (thread, v.desk)))
    (s : Thread × σ) :
    ((traverse library fuel key refuse visit root).run s).map unnoted =
      (walk library fuel key refuse plain root).run s := by
  have ha : Alike (fun (v : Visits σ κ) desk => v.desk = desk) id
      ((walk library fuel key refuse visit root).run (s.1, { desk := s.2 }))
      ((walk library fuel key refuse plain root).run s) := by
    have hsame (fault : Fault) : refuse fault = id (refuse fault) := rfl
    refine walk_alike (D := fun (v : Visits σ κ) desk => v.desk = desk) library fuel key root hsame
      (fun child parent thread v desk hd => ?_) s.1 rfl
    obtain rfl : v.desk = desk := hd
    exact hv child parent thread v
  rw [← ha.map_eq, run_traverse_walk]
  cases (walk library fuel key refuse visit root).run _ <;> rfl

end Scripting

namespace Dynamic

open Scripting Telling
open SessionScript (Item)

variable {α β : Type} {s : Thread × Desk}

namespace Value

-- The number that a value is, or stands for. Flags are no numbers here.
def integer? : Value → Option Int
  | int n _ | index n _ => some n
  | _ => none

def FitsInt64 (n : Int) : Prop :=
  Int64.minValue.toInt ≤ n ∧ n ≤ Int64.maxValue.toInt

instance : DecidablePred FitsInt64 :=
  fun _ => inferInstanceAs (Decidable (_ ∧ _))

theorem visit_of_word? {value : Value} (hn : value.isNothing = false)
    (hf : value.isFlag = false) : value.visit = .ofAnswer value.word? := by
  simp only [visit, hn, hf, Bool.false_eq_true, if_false, ChildVisit.ofAnswer]
  cases (value.word?.bind Constant.ofRaw? : Option ChildVisit) <;> rfl

-- What the interface takes an answer for, step by step, is what the core takes its number for.
theorem visit_eq_ofAnswer_filter (value : Value) :
    value.visit = .ofAnswer (value.integer?.filter (FitsInt64 ·)) := by
  cases value with
  | int n identity | index n identity => exact visit_of_word? rfl rfl
  | _ => rfl

theorem raw_of_ofRaw? {n : Int} {decision : ChildVisit}
    (h : Constant.ofRaw? n = some decision) : Constant.raw decision = n := by
  have hfound := List.find?_some h
  exact beq_iff_eq.mp hfound

-- All codes fit, so a number that does not fit is none of them.
theorem visit_eq_ofAnswer (value : Value) : value.visit = .ofAnswer value.integer? := by
  rw [visit_eq_ofAnswer_filter]
  cases value.integer? with
  | none => rfl
  | some n =>
      by_cases hn : FitsInt64 n
      · simp [Option.filter, hn]
      · cases hk : (Constant.ofRaw? n : Option ChildVisit) with
        | none => simp [Option.filter, hn, ChildVisit.ofAnswer, hk]
        | some decision =>
            have hraw := raw_of_ofRaw? hk
            subst hraw
            exact absurd (by cases decision <;> decide) hn

end Value

-- What is kept under a name, if anything is.
def Kept (value : Option Value) (sight : Option Sight) : Prop :=
  value.map Value.sight = sight ∧ ∀ v ∈ value, v.Plain

theorem follows_known? (name : String) :
    Follows Kept (ask (·.labels.lookup name)) (Course.known? name) := by
  intro s hs
  have hcourse : (Course.known? name).run.run (s.1, s.2.names) =
      .ok (.ok ((s.2.labels.lookup name).map Value.sight), (s.1, s.2.names)) := by
    rw [← lookup_names]
    rfl
  rw [hcourse]
  exact .ok ⟨rfl, fun v hv => (shows_of_lookup hs hv).plain⟩ hs

theorem follows_give (name : String) {value : Value} (hv : value.Plain) :
    Follows Always (liftM (giveLabel (some name) value) : Part Unit)
      (Course.keep name value.sight) :=
  fun _ hs => .ok trivial (hs.keep name hv.sight_ne)

theorem visit_int (n : Int) (identity : Nat) :
    (Value.int n identity).visit = Sight.decision (some (.int n)) := by
  rw [Value.visit_eq_ofAnswer, Value.integer?]
  by_cases hhalt : n = 0
  · subst hhalt
    rfl
  · by_cases hrecurse : n = 2
    · subst hrecurse
      rfl
    · have hdecision : Sight.decision (some (.int n)) = .next := by
        unfold Sight.decision
        split
        · next he =>
          cases he
          exact absurd rfl hhalt
        · next he =>
          cases he
          exact absurd rfl hrecurse
        · rfl
      rw [hdecision]
      simp only [ChildVisit.ofAnswer, Option.bind_some, Constant.ofRaw?, Constant.all, Constant.raw,
        List.find?_cons, List.find?_nil]
      rw [beq_eq_false_iff_ne.mpr (Ne.symm hhalt), beq_eq_false_iff_ne.mpr (Ne.symm hrecurse)]
      cases (1 : Int) == n <;> rfl

theorem visit_eq_decision {value : Option Value} {sight : Option Sight} (h : Kept value sight) :
    (value.getD .nothing).visit = Sight.decision sight := by
  obtain ⟨rfl, hplain⟩ := h
  cases value with
  | none => rfl
  | some value =>
      have hv := hplain value rfl
      cases hv with
      | int n identity => exact visit_int n identity
      | _ => rfl

def Decides (value : Value) (decision : ChildVisit) : Prop :=
  value.visit = decision

theorem follows_calledBack (child parent answer : String) {callback : Part Unit}
    {course : Course Unit} (h : Follows Always callback course) (session i j : Nat)
    (node above : CursorToken) :
    Follows Decides (calledBack child parent callback answer (.held i session (.cursor node))
        (.held j session (.cursor above)))
      (Course.calledBack session child parent course answer node above) := by
  refine (follows_give child (.held i session (.cursor node))).bind fun _ _ _ => ?_
  refine (follows_give parent (.held j session (.cursor above))).bind fun _ _ _ => ?_
  refine h.bind fun _ _ _ => (follows_known? answer).bind fun value sight hk => ?_
  exact .pure (visit_eq_decision hk)

-- A fresh desk, and what a program sees of it.
def Desk.Reveals (desk : Desk) (names : Names) : Prop :=
  desk.Fresh ∧ names = desk.names

theorem run_wrap (session : Nat) (item : Item) (s : Thread × Desk) :
    (wrap session item).run s = .ok (.held s.2.made session item, (s.1, s.2.grown)) := rfl

-- One visit by a function of the host decides as its course does.
theorem alike_visitOnce {callback : Value → Value → Part Value} {session : Nat}
    {course : CursorToken → CursorToken → Course ChildVisit}
    (h : ∀ i j node above, Follows Decides
      (callback (.held i session (.cursor node)) (.held j session (.cursor above)))
      (course node above)) (child parent : CursorToken) (thread : Thread) {desk : Desk}
    {names : Names} (hs : desk.Reveals names) :
    Alike Desk.Reveals Problem.failure
      ((visitOnce session callback child parent).run (thread, desk))
      ((course child parent).run.run (thread, names)) := by
  obtain ⟨hfresh, rfl⟩ := hs
  have hlike := desk.like_grown.trans desk.grown.like_grown
  have ha := h desk.made desk.grown.made child parent (thread, desk.grown.grown)
    (hlike.fresh hfresh)
  rw [hlike.names] at ha
  rw [visitOnce, run_next (run_wrap session (.cursor child) (thread, desk)),
    run_next (run_wrap session (.cursor parent) (thread, desk.grown)), StateT.run_bind]
  generalize (callback _ _).run.run _ = x at ha ⊢
  generalize (course child parent).run.run _ = y at ha ⊢
  cases ha with
  | stop stop => exact .stop stop
  | @ok value decision t related fresh =>
      obtain rfl : value.visit = decision := related
      exact .ended (.ok value.visit) t.1 ⟨fresh, rfl⟩
  | @failed problem t fresh => exact .ended (.error problem) t.1 ⟨fresh, rfl⟩

section Visiting

variable (library : Native.Library) (fuel : Nat)

-- What a host gets from a traversal.
def got (ended : Except Problem VisitOutcome × (Thread × Desk)) :
    Except Problem Value × (Thread × Desk) :=
  (ended.1.map fun outcome => .int (Constant.raw outcome), ended.2)

theorem run_gets (session : Nat) (root : CursorToken)
    (visit : (child parent : CursorToken) → Script (Except Problem ChildVisit))
    (s : Thread × Desk) :
    (do
      let (result, _) ← (traverse library fuel session refused
        (fun child parent => (aside (visit child parent) :
          Scripting.Script (Visits Desk Unit) (Except Problem ChildVisit))) root : Script _)
      return .int (Constant.raw (← result)) : Part Value).run.run s =
        ((walk library fuel session refused visit root).run s).map got := by
  rw [runs_bind, runs_lift, ← traverse_unnoted library fuel session refused root (κ := Unit)
    fun child parent thread v => alike_aside (visit child parent) thread v]
  cases (traverse library fuel session refused _ root).run s with
  | error stop => rfl
  | ok ended =>
      obtain ⟨⟨result, seen⟩, t⟩ := ended
      cases result <;> rfl

theorem follows_visiting (root child parent answer : String) {callback : Part Unit}
    {course : Course Unit} (h : Follows Always callback course) :
    Follows Shows (visiting library fuel root (calledBack child parent callback answer))
      (Course.visiting library fuel root child parent course answer) := by
  have hroot (s : Thread × Desk) :
      (visiting library fuel root (calledBack child parent callback answer)).run.run s =
        (find root >>= fun value => do
          let root ← orRaise (Kind.readHeld Item.asCursor? value)
          let visit (node above : CursorToken) :
              Scripting.Script (Visits Desk Unit) (Except Problem ChildVisit) :=
            aside (visitOnce root.session (calledBack child parent callback answer) node above)
          let told ← (traverse library fuel root.session refused visit root.item : Script _)
          return .int (Constant.raw (← told.1))).run.run s := by
    rw [visiting, rootOf, bind_assoc, runs_next (a := s.2.listAt) (t := s) rfl]
    simp only [evaluate, bind_assoc]
    rfl
  refine Follows.congr ?_ fun s _ => hroot s
  refine follows_held (fun value held _ hw => ?_) fun value _ hw => ?_
  · obtain ⟨session, token⟩ := held
    rw [readHeld_eq, hw]
    simp only [orRaise, pure_bind]
    rintro ⟨thread, desk⟩ hs
    have hvisit := alike_visitOnce (follows_calledBack child parent answer h session)
    have ha := walk_alike library fuel session token (fun fault => (failure_refused fault).symm)
      (fun node above thread _ _ hr => hvisit node above thread hr) thread
      (show desk.Reveals desk.names from ⟨hs, rfl⟩)
    rw [run_gets, runs_bind]
    change Agree Shows _ ((walk library fuel session Failure.ofFault (fun node above =>
      (Course.calledBack session child parent course answer node above).run) token).run
        (thread, desk.names) >>= _)
    generalize (walk library fuel session refused _ token).run _ = x at ha ⊢
    generalize (walk library fuel session Failure.ofFault _ token).run _ = y at ha ⊢
    cases ha with
    | stop stop => exact .stop stop
    | @ended result after desk' names related =>
        obtain ⟨hfresh, rfl⟩ := related
        cases result with
        | ok outcome => exact .ok (t := (after, desk')) (Value.Plain.int _ 0).shows hfresh
        | error problem => exact .failed (t := (after, desk')) problem hfresh
  · rw [readHeld_eq, hw]
    exact .throw (.raised (.type none)) rfl

end Visiting

end Dynamic

end SyntaxHandles
