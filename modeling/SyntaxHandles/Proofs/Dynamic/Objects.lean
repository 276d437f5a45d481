import SyntaxHandles.Proofs.Dynamic.Unseen

-- What objects have for a program and what they do when they are told, on a fresh desk.

namespace SyntaxHandles.Dynamic

open Scripting Telling
open SessionScript (Item)

variable {s : Thread × Desk} {value : Value} {name own : String} {giver : Class}

theorem lookFor_eq_lookIn (hv : value.Plain) (name : String) :
    lookFor value name = lookIn value (attachedIn? value name) name := by
  cases hv <;> rfl

section Finding

variable (hs : s.2.Fresh) (hv : value.Plain)
include hs hv

theorem run_lookFor_missing (hf : value.ofClass.found? s.2.interface name = none) :
    (lookFor value name).run.run s = .ok (.error (.raised .noAttribute), s) := by
  rw [lookFor_eq_lookIn hv, lookIn, runs_next (run_classOf hv s), runs_next (run_lookUp? hs ..)]
  rw [show value.ofClass.ancestors.findSome? _ = none from hf]
  exact runs_next (run_attachedIn? hv name s)

theorem run_lookFor_computed
    (hf : value.ofClass.found? s.2.interface name = some (.feature giver .computed own))
    (hg : value.ofClass.ancestors.contains giver = true) :
    (lookFor value name).run.run s =
      (computed value own >>= fun found => pure (.plain found)).run.run s := by
  rw [lookFor_eq_lookIn hv, lookIn, runs_next (run_classOf hv s), runs_next (run_lookUp? hs ..)]
  rw [show value.ofClass.ancestors.findSome? _ = some _ from hf]
  simp only [FeatureKind.isData, if_true]
  exact runs_next (run_checkFits hv hg)

theorem run_lookFor_method
    (hf : value.ofClass.found? s.2.interface name = some (.feature giver .method own))
    (hg : value.ofClass.ancestors.contains giver = true) :
    (lookFor value name).run.run s = .ok (.ok (.method value giver .method own), s) := by
  rw [lookFor_eq_lookIn hv, lookIn, runs_next (run_classOf hv s), runs_next (run_lookUp? hs ..)]
  rw [show value.ofClass.ancestors.findSome? _ = some _ from hf]
  exact (runs_next (run_attachedIn? hv name s)).trans (runs_next (run_checkFits hv hg))

-- A host looks in no other way.
theorem run_hostLookFor (host : Host)
    (hk : ∀ t, (lookFor value name).run.run s = .ok (.error (.raised .noAttribute), t) →
      t.2.Fresh) :
    (host.lookFor value name).run.run s = (lookFor value name).run.run s := by
  rw [Host.lookFor, runs_bind, runs_lift,
    runs_next (run_overriding? hs (run_classOf hv s) (by simp [overridable]))]
  rcases hr : (lookFor value name).run.run s with stop | ⟨problem | found, t⟩
  · rfl
  · rcases problem with raised | _
    · cases raised
      case noAttribute =>
        exact runs_next (run_overriding? (hk t hr) (run_classOf hv t) (by simp [overridable]))
      all_goals rfl
    · rfl
  · rfl

end Finding

section Telling

variable (hs : s.2.Fresh) (hv : value.Plain) (host : Host)
include hs hv

theorem run_getAttribute_missing (hf : value.ofClass.found? s.2.interface name = none) :
    (host.getAttribute value name).run.run s = .ok (.error (.raised .noAttribute), s) := by
  have hr := run_lookFor_missing hs hv hf
  refine runs_ended ((run_hostLookFor hs hv host fun t he => ?_).trans hr)
  cases hr.symm.trans he
  exact hs

theorem run_tell_missing (hf : value.ofClass.found? s.2.interface name = none)
    (values : Part (List Value)) :
    (host.tell value name values).run.run s = .ok (.error (.raised .noAttribute), s) := by
  have hr := run_lookFor_missing hs hv hf
  refine runs_ended ((run_hostLookFor hs hv host fun t he => ?_).trans hr)
  cases hr.symm.trans he
  exact hs

theorem run_getAttribute_computed
    (hf : value.ofClass.found? s.2.interface name = some (.feature giver .computed own))
    (hg : value.ofClass.ancestors.contains giver = true)
    (hk : ∀ problem t, (computed value own).run.run s = .ok (.error problem, t) → t.2.Fresh) :
    (host.getAttribute value name).run.run s = (computed value own).run.run s := by
  have hr := run_lookFor_computed hs hv hf hg
  rw [Host.getAttribute, runs_bind, run_hostLookFor hs hv host, hr, runs_bind]
  · rcases (computed value own).run.run s with stop | ⟨problem | found, t⟩ <;> rfl
  · intro t he
    rw [hr] at he
    rcases hc : (computed value own).run.run s with stop | ⟨problem | found, u⟩
    · rw [runs_bind, hc] at he
      exact nomatch he
    · rw [runs_ended hc] at he
      cases he
      exact hk _ _ hc
    · rw [runs_next hc] at he
      exact nomatch he

theorem run_tell_method
    (hf : value.ofClass.found? s.2.interface name = some (.feature giver .method own))
    (hg : value.ofClass.ancestors.contains giver = true) :
    (host.tell value name (return [])).run.run s =
      (host.call (.feature giver .method own) [value]).run.run s := by
  have hr := run_lookFor_method hs hv hf hg
  refine runs_next ((run_hostLookFor hs hv host fun t he => ?_).trans hr)
  exact nomatch hr.symm.trans he

end Telling

theorem contains_ofClass (hv : value.Plain) :
    value.ofClass.ancestors.contains value.ofClass = true := by
  cases hv
  case held identity session item => cases item <;> rfl
  all_goals rfl

-- What a class has for all of its objects from which something can be wanted, and for no others.
def Offered {α : Type} (want : Item → Option α) (kind : FeatureKind) (name : String) : Prop :=
  ∀ interface (value : Value), value.Plain → value.ofClass.found? interface name =
    (value.want want).map fun _ => .feature value.ofClass kind name

-- The classes of what a program sees and does not hold of a session.
def bare : List Class :=
  [.ofNothing, .host "bool", .host "int", .host "str", .location]

theorem Offered.of_items {α : Type} {want : Item → Option α} {kind : FeatureKind} {name : String}
    (items : ∀ interface item, (Value.ofItem item).found? interface name =
      (want item).map fun _ => .feature (Value.ofItem item) kind name)
    (others : ∀ interface, (bare.all fun c => (c.found? interface name).isNone) = true) :
    Offered want kind name := by
  intro interface value hv
  have hbare (c : Class) (hc : c ∈ bare) : c.found? interface name = none :=
    Option.isNone_iff_eq_none.mp (List.all_eq_true.mp (others interface) c hc)
  cases hv with
  | held identity session item =>
      rw [Value.want, Option.map_map]
      exact items interface item
  | nothing => exact hbare _ (by simp [bare, Value.ofClass])
  | flag b => exact hbare _ (by simp [bare, Value.ofClass])
  | int n identity => exact hbare _ (by simp [bare, Value.ofClass])
  | text s identity => exact hbare _ (by simp [bare, Value.ofClass])
  | location identity place => exact hbare _ (by simp [bare, Value.ofClass])

theorem offered_isAlive : Offered handle? .computed "is_alive" :=
  .of_items (fun _ item => by cases item <;> rfl) fun _ => rfl

theorem offered_filename : Offered Item.asUnit? .computed "filename" :=
  .of_items (fun _ item => by cases item <;> rfl) fun _ => rfl

theorem offered_isValid : Offered validity? .computed "is_valid" :=
  .of_items (fun _ item => by cases item <;> rfl) fun _ => rfl

theorem offered_rawKind : Offered rawKind? .computed "raw_kind" :=
  .of_items (fun _ item => by cases item <;> rfl) fun _ => rfl

theorem offered_dispose : Offered handle? .method "dispose" :=
  .of_items (fun _ item => by cases item <;> rfl) fun _ => rfl

theorem offered_cursor : Offered Item.asUnit? .method "cursor" :=
  .of_items (fun _ item => by cases item <;> rfl) fun _ => rfl

theorem offered_enter : Offered handle? .method "__enter__" :=
  .of_items (fun _ item => by cases item <;> rfl) fun _ => rfl

theorem offered_exit : Offered handle? .method "__exit__" :=
  .of_items (fun _ item => by cases item <;> rfl) fun _ => rfl

section Attributes

variable {α : Type} {want : Item → Option α}

-- What an object computes for a program.
theorem follows_attribute (host : Host) {name : String} (offered : Offered want .computed name)
    {course : Nat × α → Course Sight}
    (hc : ∀ identity session item wanted, want item = some wanted →
      Follows Shows (computed (.held identity session item) name) (course (session, wanted)))
    (object : String) :
    Follows Shows (do host.getAttribute (← find object) name)
      (Course.held want .missing object >>= course) := by
  refine follows_held (fun value wanted hv hw => ?_) fun value hv hw => ?_
  · obtain ⟨identity, item, rfl, hi⟩ := exists_held hw
    have hfollows := hc identity wanted.1 item wanted.2 hi
    refine hfollows.congr fun s hs => ?_
    refine run_getAttribute_computed hs hv host ((offered _ _ hv).trans ?_) (contains_ofClass hv)
      fun problem t he => (hfollows s hs).fresh he
    rw [hw]
    rfl
  · intro s hs
    rw [run_getAttribute_missing hs hv host ((offered _ _ hv).trans (by rw [hw]; rfl))]
    exact .failed (.raised .noAttribute) hs

-- What an object does for a program when it is told.
theorem follows_told (host : Host) {name : String} (offered : Offered want .method name)
    {course : Nat × α → Course Sight}
    (hc : ∀ identity session item wanted, want item = some wanted →
      Follows Shows
        (host.call (.feature (Value.ofItem item) .method name) [.held identity session item])
        (course (session, wanted)))
    (object : String) :
    Follows Shows (do host.tell (← find object) name (return []))
      (Course.held want .missing object >>= course) := by
  refine follows_held (fun value wanted hv hw => ?_) fun value hv hw => ?_
  · obtain ⟨identity, item, rfl, hi⟩ := exists_held hw
    refine (hc identity wanted.1 item wanted.2 hi).congr fun s hs => ?_
    refine run_tell_method hs hv host ((offered _ _ hv).trans ?_) (contains_ofClass hv)
    rw [hw]
    rfl
  · intro s hs
    rw [run_tell_missing hs hv host ((offered _ _ hv).trans (by rw [hw]; rfl))]
    exact .failed (.raised .noAttribute) hs

end Attributes

theorem follows_flag (operation : Operation Bool) :
    Follows Shows (attempt operation >>= fun b => pure (.flag b))
      (Course.operate operation >>= fun b => pure (.flag b)) :=
  (follows_attempt operation).bind fun b _ hb => hb ▸ .pure (Value.Plain.flag b).shows

section Acts

variable (library : Native.Library) (fuel : Nat) (host : Host)

theorem follows_isAlive (object : String) :
    Follows Shows ((Act.isAlive object).byHost library fuel host)
      ((Act.isAlive object).bySession library) := by
  refine follows_attribute host offered_isAlive (fun identity session item id hi => ?_) object
  cases item <;> cases hi
  · exact follows_flag _
  · exact follows_flag _

theorem follows_filename (object : String) :
    Follows Shows ((Act.filename object).byHost library fuel host)
      ((Act.filename object).bySession library) := by
  refine follows_attribute host offered_filename (fun identity session item unit hi => ?_) object
  cases item <;> cases hi
  exact (follows_attempt _).bind fun s _ hs => hs ▸ .pure (Value.Plain.text s 0).shows

theorem follows_isValid (object : String) :
    Follows Shows ((Act.isValid object).byHost library fuel host)
      ((Act.isValid object).bySession library) := by
  refine follows_attribute host offered_isValid (fun identity session item unit hi => ?_) object
  cases item <;> cases hi
  · exact follows_flag _
  · exact follows_flag _

theorem follows_rawKind (object : String) :
    Follows Shows ((Act.rawKind object).byHost library fuel host)
      ((Act.rawKind object).bySession library) := by
  refine follows_attribute host offered_rawKind (fun identity session item unit hi => ?_) object
  cases item <;> cases hi
  · exact .pure (Value.Plain.int _ 0).shows
  · exact .pure (Value.Plain.int _ 0).shows

end Acts

end SyntaxHandles.Dynamic
