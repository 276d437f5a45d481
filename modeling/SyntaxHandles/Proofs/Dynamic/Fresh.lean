import SyntaxHandles.Proofs.Dynamic.Course

-- Desks on which the interface is as it was made: nothing that it has was changed. What is found on
-- them in the interface, in its classes and in the values that programs get, and what is put on
-- them without a change of that.

namespace SyntaxHandles

namespace Scripting

variable {ε σ α β : Type}

theorem run_next {x : Script σ α} {f : α → Script σ β} {a : α} {s t : Thread × σ}
    (h : x.run s = .ok (a, t)) : (x >>= f).run s = (f a).run t := by
  rw [StateT.run_bind, h]
  rfl

-- Scripts that may end early, told by what one run of them does.
theorem runs_bind (x : ExceptT ε (Script σ) α) (f : α → ExceptT ε (Script σ) β)
    (s : Thread × σ) :
    (x >>= f).run.run s = x.run.run s >>= fun (ended, t) => match ended with
      | .ok a => (f a).run.run t
      | .error error => .ok (.error error, t) := by
  simp only [ExceptT.run_bind, StateT.run_bind]
  congr 1
  funext ⟨ended, t⟩
  cases ended <;> rfl

theorem runs_lift (script : Script σ α) (s : Thread × σ) :
    (liftM script : ExceptT ε (Script σ) α).run.run s =
      script.run s >>= fun (a, t) => .ok (.ok a, t) := rfl

theorem runs_next {x : ExceptT ε (Script σ) α} {f : α → ExceptT ε (Script σ) β} {a : α}
    {s t : Thread × σ} (h : x.run.run s = .ok (.ok a, t)) :
    (x >>= f).run.run s = (f a).run.run t := by
  rw [runs_bind, h]
  rfl

theorem runs_ended {x : ExceptT ε (Script σ) α} {f : α → ExceptT ε (Script σ) β} {error : ε}
    {s t : Thread × σ} (h : x.run.run s = .ok (.error error, t)) :
    (x >>= f).run.run s = .ok (.error error, t) := by
  rw [runs_bind, h]
  rfl

end Scripting

namespace Dynamic

open Scripting
open SessionScript (Item)

-- What a class has under a name to begin with.
def Class.own? (interface : String) (c : Class) (name : String) : Option Value :=
  if c.isOwn then (c.entries interface).lookup name else (c.member? name).map c.entry

-- What a class or one of its ancestors has.
def Class.found? (interface : String) (c : Class) (name : String) : Option Value :=
  c.ancestors.findSome? (·.own? interface name)

namespace Desk

-- Nothing was changed of the classes or of the functions of the interface, and nothing is kept
-- that a program cannot see.
structure Fresh (desk : Desk) : Prop where
  guise : ∀ c, desk.guise c = { entries := c.entries desk.interface }
  functions : ∀ f : Function, named? f.name (desk.tableAt Interface.table) = some (.function f)
  known : ∀ entry ∈ desk.labels, entry.2.sight ≠ .other

-- What a program sees of all that it kept.
def names (desk : Desk) : Names :=
  desk.labels.map fun (name, value) => (name, value.sight)

-- A desk that nothing was changed on but what programs do not see.
structure Like (desk other : Desk) : Prop where
  interface : other.interface = desk.interface
  guises : other.guises = desk.guises
  tables : other.tables = desk.tables
  labels : other.labels = desk.labels

theorem Like.refl (desk : Desk) : Like desk desk :=
  ⟨rfl, rfl, rfl, rfl⟩

theorem Like.trans {a b c : Desk} (hab : Like a b) (hbc : Like b c) : Like a c :=
  ⟨hbc.interface.trans hab.interface, hbc.guises.trans hab.guises, hbc.tables.trans hab.tables,
    hbc.labels.trans hab.labels⟩

-- A desk that knows one more identity.
def grown (desk : Desk) : Desk :=
  { desk with made := desk.made + 1 }

theorem like_grown (desk : Desk) : Like desk desk.grown :=
  ⟨rfl, rfl, rfl, rfl⟩

theorem Like.names {desk other : Desk} (h : Like desk other) : other.names = desk.names := by
  simp only [Desk.names, h.labels]

theorem Like.fresh {desk other : Desk} (h : Like desk other) (hd : desk.Fresh) : other.Fresh where
  guise c := by
    have hguise : other.guise c = desk.guise c := by
      simp only [Desk.guise, h.guises, h.interface]
    rw [hguise, hd.guise, h.interface]
  functions f := by
    have htable : other.tableAt = desk.tableAt := by
      funext identity
      simp only [Desk.tableAt, h.tables]
    rw [htable]
    exact hd.functions f
  known := h.labels ▸ hd.known

theorem Fresh.keep {desk : Desk} (hd : desk.Fresh) (name : String) {value : Value}
    (hv : value.sight ≠ .other) : { desk with labels := (name, value) :: desk.labels }.Fresh where
  guise := hd.guise
  functions := hd.functions
  known := List.forall_mem_cons.mpr ⟨hv, hd.known⟩

end Desk

variable {s : Thread × Desk} {name : String}

section Classes

variable (hs : s.2.Fresh)
include hs

theorem run_ownOf? (c : Class) (name : String) :
    (ownOf? c name).run.run s = .ok (.ok (c.own? s.2.interface name), s) := by
  simp only [ownOf?, Class.own?]
  split
  · rw [runs_next (a := s.2.guise c) (t := s) rfl, hs.guise]
    rfl
  · rfl

theorem run_lookUp? (name : String) (classes : List Class) :
    (lookUp? name classes).run.run s =
      .ok (.ok (classes.findSome? (·.own? s.2.interface name)), s) := by
  induction classes with
  | nil => rfl
  | cons c classes ih =>
      rw [lookUp?, runs_next (run_ownOf? hs c name), List.findSome?_cons]
      cases c.own? s.2.interface name with
      | some value => rfl
      | none => exact ih

end Classes

-- The values that programs see.
inductive Value.Plain : Value → Prop
  | nothing : Plain .nothing
  | flag (b : Bool) : Plain (.flag b)
  | int (n : Int) (identity : Nat) : Plain (.int n identity)
  | text (s : String) (identity : Nat) : Plain (.text s identity)
  | location (identity : Nat) (place : SourceLocation) : Plain (.location identity place)
  | held (identity session : Nat) (item : Item) : Plain (.held identity session item)

theorem Value.plain_of_sight {value : Value} (h : value.sight ≠ .other) : value.Plain := by
  cases value
  case nothing => exact .nothing
  case flag b => exact .flag b
  case int n identity => exact .int n identity
  case text s identity => exact .text s identity
  case location identity place => exact .location identity place
  case held identity session item => exact .held identity session item
  all_goals exact absurd rfl h

theorem Value.Plain.sight_ne {value : Value} (h : value.Plain) : value.sight ≠ .other := by
  cases h <;> exact nofun

-- Ways of its own that a class can be given, and that no class of the interface has to begin with.
def overridable : List String :=
  ["__getattribute__", "__getattr__", "__bool__", "__len__", "__str__"]

theorem lookup_overridable (hn : name ∈ overridable) (interface : String) {c : Class}
    (hc : c.isOwn = true) : (c.entries interface).lookup name = none := by
  simp only [overridable, List.mem_cons, List.not_mem_nil, or_false] at hn
  rcases hn with rfl | rfl | rfl | rfl | rfl <;> cases c <;> first | rfl | exact nomatch hc

section Values

variable {value : Value}

theorem run_classOf (hv : value.Plain) (s : Thread × Desk) :
    (classOf value).run.run s = .ok (.ok value.ofClass, s) := by
  cases hv <;> rfl

theorem run_overriding? (hs : s.2.Fresh) {c : Class}
    (hc : (classOf value).run.run s = .ok (.ok c, s)) (hn : name ∈ overridable) :
    (overriding? value name).run.run s = .ok (.ok none, s) := by
  rw [overriding?, runs_next hc]
  cases ho : c.isOwn with
  | false => rfl
  | true =>
      have hguise : (guiseOf c).run.run s = .ok (.ok (s.2.guise c), s) := rfl
      simp only [Bool.not_true, Bool.false_eq_true, if_false]
      rw [runs_next hguise, hs.guise, lookup_overridable hn s.2.interface ho]
      rfl

theorem run_checkFits (hv : value.Plain) {giver : Class}
    (hg : value.ofClass.ancestors.contains giver = true) :
    (checkFits giver value).run.run s = .ok (.ok (), s) := by
  rw [checkFits, runs_next (run_classOf hv s)]
  simp only [hg, Bool.not_true, Bool.false_eq_true, if_false]
  rfl

theorem run_attachedIn? (hv : value.Plain) (name : String) (s : Thread × Desk) :
    (attachedIn? value name).run.run s = .ok (.ok none, s) := by
  cases hv <;> rfl

end Values

end Dynamic

end SyntaxHandles
