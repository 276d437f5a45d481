import SyntaxHandles.Proofs.Registry.Answers
import SyntaxHandles.Proofs.Registry.Isolation

-- Disposing of any identities, one after the other, where no release runs anything. Dead identities
-- and those of other registries change nothing, so it does not matter in which order the others
-- come, nor how often.

namespace SyntaxHandles

namespace Registry

variable {ρ : Type} {registry : Registry ρ} {id : ResourceId} {ids : List ResourceId}

-- The entry that an identity stands for.
def entryOf? (registry : Registry ρ) (id : ResourceId) : Option (Entry ρ) :=
  registry.live.find? (registry.identity · = id)

def without (registry : Registry ρ) (ids : List ResourceId) : Registry ρ :=
  { registry with live := registry.live.filter (registry.identity · ∉ ids) }

theorem without_nil (registry : Registry ρ) : registry.without [] = registry := by
  simp [without]

theorem without_without (registry : Registry ρ) (ids more : List ResourceId) :
    (registry.without ids).without more = registry.without (ids ++ more) := by
  have hlive : (registry.live.filter (registry.identity · ∉ ids)).filter
      (registry.identity · ∉ more) = registry.live.filter (registry.identity · ∉ ids ++ more) := by
    rw [List.filter_filter]
    refine List.filter_congr fun entry _ => ?_
    simp [List.mem_append, Bool.and_comm]
  exact congrArg (fun live => { registry with live }) hlive

theorem without_congr {more : List ResourceId} (h : ∀ id, id ∈ ids ↔ id ∈ more) :
    registry.without ids = registry.without more := by
  simp only [without, h]

theorem dead_without : (registry.without ids).Dead id ↔ id ∈ ids ∨ registry.Dead id := by
  constructor
  · intro hd
    by_cases hm : id ∈ ids
    · exact .inl hm
    · refine .inr fun entry he hi => hd entry (List.mem_filter.mpr ⟨he, ?_⟩) hi
      exact decide_eq_true (hi ▸ hm)
  · rintro (hm | hd) entry he hi
    · exact of_decide_eq_true (List.mem_filter.mp he).2 (hi.symm ▸ hm)
    · exact hd entry (List.mem_filter.mp he).1 hi

theorem Descending.live_without (h : Descending registry.live) (ids : List ResourceId) :
    Descending (registry.without ids).live :=
  h.sublist List.filter_sublist

theorem entryOf?_eq_none_iff : registry.entryOf? id = none ↔ registry.Dead id := by
  simp only [entryOf?, Dead, List.find?_eq_none, decide_eq_true_eq, ne_eq]

theorem Descending.entryOf?_eq_some_iff (h : Descending registry.live) {entry : Entry ρ} :
    registry.entryOf? id = some entry ↔ entry ∈ registry.live ∧ registry.identity entry = id := by
  constructor
  · intro he
    exact ⟨List.mem_of_find?_eq_some he, by simpa using List.find?_some he⟩
  · rintro ⟨hm, rfl⟩
    rcases he : registry.entryOf? (registry.identity entry) with _ | other
    · exact absurd rfl (entryOf?_eq_none_iff.mp he entry hm)
    · have hi : registry.identity other = registry.identity entry := by
        simpa using List.find?_some he
      rw [h.eq_of_serial (List.mem_of_find?_eq_some he) hm (congrArg ResourceId.serial hi)]

theorem Descending.take_eq (h : Descending registry.live) (hb : registry.borrow = .free)
    (id : ResourceId) : registry.take id =
      .ok ((registry.entryOf? id).map (·.resource), registry.without [id]) := by
  rcases registry.dead_or id with hd | ⟨entry, hm, rfl⟩
  · have hsame : registry.live.filter (registry.identity · ∉ [id]) = registry.live :=
      List.filter_eq_self.mpr fun entry hm => by simpa using hd entry hm
    rw [take_of_dead (by simp [hb]) hd, entryOf?_eq_none_iff.mpr hd, without, hsame]
    rfl
  · have hsame : registry.live.filter (·.serial ≠ entry.serial) =
        registry.live.filter (registry.identity · ∉ [registry.identity entry]) := by
      refine List.filter_congr fun other ho => ?_
      refine decide_eq_decide.mpr (not_congr ?_)
      rw [List.mem_singleton]
      refine ⟨fun hs => ?_, congrArg ResourceId.serial⟩
      rw [h.eq_of_serial ho hm hs]
    rw [take_of_find? hb (h.find?_eq_some_iff.mpr ⟨hm, rfl⟩), hsame,
      h.entryOf?_eq_some_iff.mpr ⟨hm, rfl⟩]
    rfl

-- What is disposed of first, and what is disposed of later.
theorem Descending.perm_filter_cons (h : Descending registry.live) (id : ResourceId)
    (ids : List ResourceId) : (registry.live.filter (registry.identity · ∈ id :: ids)).Perm
      ((registry.entryOf? id).toList ++
        (registry.without [id]).live.filter (registry.identity · ∈ ids)) := by
  have hnodup := h.nodup
  have hrest := (hnodup.filter (registry.identity · ∉ [id])).filter (registry.identity · ∈ ids)
  refine (List.perm_ext_iff_of_nodup (hnodup.filter _) ?_).mpr fun entry => ?_
  · refine List.nodup_append.mpr ⟨?_, hrest, fun entry he other ho heq => ?_⟩
    · cases registry.entryOf? id <;> simp
    · obtain ⟨-, hi⟩ := h.entryOf?_eq_some_iff.mp (Option.mem_toList.mp he)
      subst heq
      have hne := (List.mem_filter.mp (List.mem_filter.mp ho).1).2
      simp [hi] at hne
  · rw [List.mem_append, Option.mem_toList, h.entryOf?_eq_some_iff]
    simp only [without, List.mem_filter, List.mem_cons, decide_eq_true_eq]
    by_cases hi : registry.identity entry = id <;> simp [hi]

end Registry

namespace RegistryScript

open Effect

-- Nothing runs when it is released.
def Resource.Quiet (resource : Resource) : Prop :=
  ∀ steps, resource.contents = .probe steps → steps = []

-- A registry that nothing else works on, and that has a label. Its resources are quiet.
structure Calm (label : String) (key : Nat) (store : Store) : Prop where
  labelled : store.labels.lookup label = some key
  held : store.holders key ≠ 0
  free : (store.registries key).borrow = .free
  descending : Registry.Descending (store.registries key).live
  quiet : ∀ entry ∈ (store.registries key).live, entry.resource.Quiet

def releasedIn (history : List Event) : List Nat :=
  history.filterMap fun
    | .released n => some n
    | _ => none

-- The store in which an identity was disposed of.
def Store.disposing (key : Nat) (store : Store) (id : ResourceId) : Store :=
  let number? := ((store.registries key).entryOf? id).map (·.resource.number)
  { store.withRegistry key ((store.registries key).without [id]) with
    history := number?.toList.map .released ++ .disposed key id number? ::
      (number?.toList.map (.taken key) ++ store.history) }

section Step

variable {store : Store} {label name : String} {key fuel : Nat} {id : ResourceId}
  {names : List String} {ids : List ResourceId}

theorem run_release_of_quiet {resource : Resource} (hq : resource.Quiet) (fuel key : Nat)
    (store : Store) : ∃ released, (release (fuel + 1) key resource).run store =
      (.ok released, store.noted (.released resource.number)) := by
  obtain ⟨number, label, contents⟩ := resource
  cases contents with
  | text => exact ⟨_, rfl⟩
  | probe steps =>
      obtain rfl := hq steps rfl
      exact ⟨_, rfl⟩

-- What is held besides is not let go of.
theorem run_within {part : Nat → Run Report} {outcome : Outcome} {inner : List Report}
    {released : List Release} {after : Store} (hl : store.labels.lookup label = some key)
    (hh : after.holders key ≠ 0)
    (hp : (part key).run (store.holding key) =
      (.ok (.mk outcome inner released), after.holding key)) (fuel : Nat) :
    (within label (letGo (fuel + 1)) part).run store =
      (.ok (.mk outcome inner released), after) := by
  have hlast : ¬(after.holding key).holders key ≤ 1 := by
    simp only [Store.holding, if_true]
    omega
  have hback : (after.holding key).unholding key = after := by
    have hsame : ((after.holding key).unholding key).holders = after.holders := by
      funext k
      by_cases hk : k = key <;> simp [Store.holding, Store.unholding, hk]
    exact congrArg (fun holders => { after with holders }) hsame
  have hhold : (hold key).run store = (.ok (), store.holding key) := rfl
  rw [within, run_bind, run_keyOf?, hl]
  simp only [run_bind, hhold, hp, letGo, run_unhold, hlast, decide_false, Bool.false_eq_true,
    if_false, hback, run_pure, List.append_nil]

theorem Calm.run_work (h : Calm label key store) (hn : store.names.lookup name = some id)
    (fuel : Nat) : ∃ released, (Work.run (fuel + 1) key (.dispose name)).run store =
      (.ok (.mk (.flag ((store.registries key).entryOf? id).isSome) [] released),
        store.disposing key id) := by
  have ht := h.descending.take_eq h.free id
  rw [Work.run, run_withName hn, run_bind]
  rcases he : (store.registries key).entryOf? id with _ | entry
  · rw [he, Option.map_none] at ht
    rw [run_takeOut_none (·.take id) ht]
    refine ⟨[], ?_⟩
    simp only [Store.disposing, he]
    rfl
  · obtain ⟨hm, -⟩ := h.descending.entryOf?_eq_some_iff.mp he
    rw [he, Option.map_some] at ht
    rw [run_takeOut_some (·.take id) ht]
    simp only [run_bind, run_note]
    obtain ⟨released, hr⟩ := run_release_of_quiet (h.quiet entry hm) fuel key
      (((store.withRegistry key ((store.registries key).without [id])).noted
        (.taken key entry.resource.number)).noted (.disposed key id (some entry.resource.number)))
    refine ⟨released, ?_⟩
    simp only [Option.map_some, hr, run_pure, Store.disposing, he]
    rfl

theorem Calm.holding (h : Calm label key store) : Calm label key (store.holding key) where
  labelled := h.labelled
  held := by simp [Store.holding]
  free := h.free
  descending := h.descending
  quiet := h.quiet

theorem Calm.disposing (h : Calm label key store) (id : ResourceId) :
    Calm label key (store.disposing key id) := by
  have hr : (store.disposing key id).registries key = (store.registries key).without [id] :=
    if_pos rfl
  refine ⟨h.labelled, h.held, ?_, ?_, ?_⟩ <;> rw [hr]
  · exact h.free
  · exact h.descending.live_without [id]
  · exact fun entry hm => h.quiet entry (List.mem_filter.mp hm).1

theorem Calm.run_dispose (h : Calm label key store) (hn : store.names.lookup name = some id)
    (fuel : Nat) : ∃ released, (runStep (fuel + 2) (.dispose label name)).run store =
      (.ok (.mk (.flag ((store.registries key).entryOf? id).isSome) [] released),
        store.disposing key id) := by
  obtain ⟨released, hw⟩ := h.holding.run_work hn fuel
  refine ⟨released, ?_⟩
  rw [runStep_of_work? rfl]
  exact run_within h.labelled (h.disposing id).held hw fuel

end Step

section Steps

variable {store after : Store} {label : String} {key fuel : Nat} {ids : List ResourceId}
  {names : List String} {reports : List Report}

-- What disposing of some identities, one after the other, has come to.
structure Disposed (key : Nat) (store : Store) (ids : List ResourceId) (reports : List Report)
    (after : Store) : Prop where
  length : reports.length = ids.length
  -- The first one to dispose of a live identity releases the resource.
  answers : ∀ before id later, ids = before ++ id :: later → ∃ report released,
    reports[before.length]? = some report ∧ report.outcome = .flag released ∧
      (released = true ↔ id ∉ before ∧ ¬(store.registries key).Dead id)
  registry : after.registries key = (store.registries key).without ids
  others : ∀ other, other ≠ key → after.registries other = store.registries other
  released : (releasedIn after.history).Perm
    (((store.registries key).live.filter
      ((store.registries key).identity · ∈ ids)).map (·.resource.number) ++
        releasedIn store.history)

theorem releasedIn_disposing (key : Nat) (store : Store) (id : ResourceId) :
    releasedIn (store.disposing key id).history =
      (((store.registries key).entryOf? id).map (·.resource.number)).toList ++
        releasedIn store.history := by
  simp only [Store.disposing]
  cases (store.registries key).entryOf? id <;> rfl

theorem Disposed.nil : Disposed key store [] [] store where
  length := rfl
  answers before id later h := absurd h.symm (List.append_ne_nil_of_right_ne_nil _ nofun)
  registry := (Registry.without_nil _).symm
  others _ _ := rfl
  released := by
    rw [List.filter_eq_nil_iff.mpr fun _ _ => by simp]
    exact .refl _

theorem Disposed.cons (h : Registry.Descending (store.registries key).live) {id : ResourceId}
    (hd : Disposed key (store.disposing key id) ids reports after) (released : List Release) :
    Disposed key store (id :: ids)
      (.mk (.flag ((store.registries key).entryOf? id).isSome) [] released :: reports) after := by
  have hr : (store.disposing key id).registries key = (store.registries key).without [id] :=
    if_pos rfl
  refine ⟨congrArg (· + 1) hd.length, ?_, ?_, fun other ho => ?_, ?_⟩
  · intro before other later heq
    cases before with
    | nil =>
        obtain ⟨rfl, rfl⟩ := List.cons.inj heq
        refine ⟨_, _, rfl, rfl, ?_⟩
        rw [← Registry.entryOf?_eq_none_iff, Option.isSome_iff_ne_none]
        exact (and_iff_right List.not_mem_nil).symm
    | cons first before =>
        obtain ⟨rfl, rfl⟩ := List.cons.inj heq
        obtain ⟨report, released, hi, ho, hiff⟩ := hd.answers before other later rfl
        refine ⟨report, released, hi, ho, hiff.trans ?_⟩
        rw [hr, Registry.dead_without, List.mem_singleton, not_or, List.mem_cons, not_or,
          ← and_assoc, and_comm (a := _ ∉ before)]
  · rw [hd.registry, hr, Registry.without_without]
    rfl
  · rw [hd.others other ho]
    exact if_neg ho
  · have hfirst := (h.perm_filter_cons id ids).map (·.resource.number)
    refine hd.released.trans (.trans ?_ (hfirst.symm.append_right _))
    rw [releasedIn_disposing, hr, List.map_append, List.append_assoc, Option.toList_map]
    exact List.perm_append_comm_assoc ..

theorem Calm.run_disposals (h : Calm label key store)
    (named : List.Forall₂ (fun name id => store.names.lookup name = some id) names ids)
    (enough : names.length + 2 ≤ fuel) :
    ∃ reports after, (runSteps fuel (names.map (.dispose label))).run store = (.ok reports, after) ∧
      Disposed key store ids reports after := by
  induction fuel generalizing store names ids with
  | zero => exact absurd enough (Nat.not_succ_le_zero _)
  | succ fuel ih =>
      cases named with
      | nil => exact ⟨[], store, rfl, .nil⟩
      | @cons name id names ids hname hnames =>
          obtain ⟨fuel, rfl⟩ : ∃ n, fuel = n + 2 := ⟨fuel - 2, by simp at enough; omega⟩
          obtain ⟨released, hstep⟩ := h.run_dispose hname fuel
          obtain ⟨reports, after, hrun, hd⟩ := ih (h.disposing id) hnames
            (by simp at enough; omega)
          refine ⟨_, after, ?_, hd.cons h.descending released⟩
          rw [List.map_cons, runSteps, run_bind, hstep]
          simp only [run_bind, hrun, run_pure]

end Steps

-- What was live and is disposed of is gone, and nothing else has changed: neither the next serial,
-- nor an entry that is left, nor any other registry. Whoever disposes of the same identities in
-- another order, or of some of them more often, leaves the same registries, and has released the
-- same.
theorem disposals_in_any_order {store : Store} {label : String} {key fuel : Nat}
    (calm : Calm label key store) {names : List String} {ids : List ResourceId}
    (named : List.Forall₂ (fun name id => store.names.lookup name = some id) names ids)
    (enough : names.length + 2 ≤ fuel) :
    ∃ reports after, (runSteps fuel (names.map (.dispose label))).run store = (.ok reports, after) ∧
      Disposed key store ids reports after ∧
      ∀ names' ids' fuel',
        List.Forall₂ (fun name id => store.names.lookup name = some id) names' ids' →
        (∀ id, id ∈ ids' ↔ id ∈ ids) → names'.length + 2 ≤ fuel' → ∃ reports' after',
          (runSteps fuel' (names'.map (.dispose label))).run store = (.ok reports', after') ∧
          Disposed key store ids' reports' after' ∧ after'.registries = after.registries ∧
          (releasedIn after'.history).Perm (releasedIn after.history) := by
  obtain ⟨reports, after, hrun, hd⟩ := calm.run_disposals named enough
  refine ⟨reports, after, hrun, hd, fun names' ids' fuel' named' same enough' => ?_⟩
  obtain ⟨reports', after', hrun', hd'⟩ := calm.run_disposals named' enough'
  refine ⟨reports', after', hrun', hd', funext fun other => ?_, ?_⟩
  · by_cases ho : other = key
    · rw [ho, hd'.registry, hd.registry, Registry.without_congr same]
    · rw [hd'.others other ho, hd.others other ho]
  · have hsame := hd'.released
    simp only [same] at hsame
    exact hsame.trans hd.released.symm

-- Three resources, and names of two of them, of one of another registry, and of none.
def shelf : Store where
  registries key := if key = 1 then
    { id := 1
      nextSerial := 4
      live := [⟨3, .translationUnit, 2, "unit", .probe []⟩, ⟨2, .index, 1, "text", .text⟩,
        ⟨1, .index, 0, "probe", .probe []⟩] } else { id := UInt32.ofNat key }
  holders key := if key = 1 then 1 else 0
  labels := [("shelf", 1)]
  names := [("probe", ⟨1, 1, .index⟩), ("text", ⟨1, 2, .index⟩),
    ("foreign", ⟨2, 3, .translationUnit⟩), ("unknown", ⟨1, 3, .index⟩)]

theorem calm_shelf : Calm "shelf" 1 shelf where
  labelled := rfl
  held := nofun
  free := rfl
  descending := by decide
  quiet := by
    refine List.forall_mem_cons.mpr ⟨?_, List.forall_mem_cons.mpr ⟨?_,
      List.forall_mem_singleton.mpr ?_⟩⟩
    · exact fun _ h => (Contents.probe.inj h).symm
    · exact fun _ h => nomatch h
    · exact fun _ h => (Contents.probe.inj h).symm

-- In two orders, and once with a repetition.
theorem disposals_in_any_order_of_shelf : Calm "shelf" 1 shelf ∧
    ∃ reports after reports' after',
      (runSteps 6 (["text", "foreign", "probe", "text"].map (.dispose "shelf"))).run shelf =
        (.ok reports, after) ∧
      (runSteps 5 (["probe", "text", "foreign"].map (.dispose "shelf"))).run shelf =
        (.ok reports', after') ∧
      (after.registries 1).live.map (·.serial) = [3] ∧
      after'.registries = after.registries ∧
      (releasedIn after'.history).Perm (releasedIn after.history) := by
  have named : List.Forall₂ (fun name id => shelf.names.lookup name = some id)
      ["text", "foreign", "probe", "text"]
      [⟨1, 2, .index⟩, ⟨2, 3, .translationUnit⟩, ⟨1, 1, .index⟩, ⟨1, 2, .index⟩] :=
    .cons rfl (.cons rfl (.cons rfl (.cons rfl .nil)))
  have named' : List.Forall₂ (fun name id => shelf.names.lookup name = some id)
      ["probe", "text", "foreign"]
      [⟨1, 1, .index⟩, ⟨1, 2, .index⟩, ⟨2, 3, .translationUnit⟩] :=
    .cons rfl (.cons rfl (.cons rfl .nil))
  have same (id : ResourceId) :
      id ∈ ([⟨1, 1, .index⟩, ⟨1, 2, .index⟩, ⟨2, 3, .translationUnit⟩] : List ResourceId) ↔
        id ∈ ([⟨1, 2, .index⟩, ⟨2, 3, .translationUnit⟩, ⟨1, 1, .index⟩, ⟨1, 2, .index⟩] :
          List ResourceId) := by
    constructor <;> intro hm <;> simp only [List.mem_cons, List.not_mem_nil, or_false] at hm
    · rcases hm with rfl | rfl | rfl <;> decide
    · rcases hm with rfl | rfl | rfl | rfl <;> decide
  obtain ⟨reports, after, hrun, hd, hsame⟩ :=
    disposals_in_any_order calm_shelf named (Nat.le_refl 6)
  obtain ⟨reports', after', hrun', -, hregistries, hreleased⟩ :=
    hsame _ _ 5 named' same (Nat.le_refl 5)
  refine ⟨calm_shelf, reports, after, reports', after', hrun, hrun', ?_, hregistries, hreleased⟩
  rw [hd.registry]
  rfl

end RegistryScript

end SyntaxHandles
