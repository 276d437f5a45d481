import SyntaxHandles.Proofs.Registry.Disposal
import SyntaxHandles.Proofs.Registry.Lookless

-- What a registry does when it disposes of everything. It goes on until nothing is left, and what
-- is released in between may make more, dispose of some, or dispose of everything as well; each
-- time it is the newest entry that is taken out next.

namespace SyntaxHandles.RegistryScript

open Effect Relation

-- An entry that is taken out in its turn, and what its release comes to.
structure Round where
  before : Store
  entry : Entry Resource
  released : List Release
  after : Store

-- One turn after the other, until nothing is left.
inductive Rounds (key : Nat) : Store → List Round → Store → Prop
  | done {store} (empty : (store.registries key).live = []) : Rounds key store [] store
  | round {store entry older fuel released later rounds after}
      (live : (store.registries key).live = entry :: older)
      (ran : (release fuel key entry.resource).run
        ((store.withRegistry key { store.registries key with live := older }).noted
          (.taken key entry.resource.number)) = (.ok released, later))
      (rest : Rounds key later rounds after) :
      Rounds key store (⟨store, entry, released, later⟩ :: rounds) after

-- Nothing in the registry is newer than the entry, and what has ever been newer is released.
structure Round.Newest (key : Nat) (round : Round) : Prop where
  live : round.entry ∈ (round.before.registries key).live
  newest : ∀ other ∈ (round.before.registries key).live,
    other = round.entry ∨ other.serial < round.entry.serial
  newer : ∀ n id, .registered key n id ∈ round.before.history →
    round.entry.serial < id.serial → .released n ∈ round.before.history
  unreleased : .released round.entry.resource.number ∉ round.before.history
  releases : .released round.entry.resource.number ::
    .taken key round.entry.resource.number :: round.before.history <:+ round.after.history

section Turn

variable {context : Context} {budget fuel key : Nat} {store later : Store} {entry : Entry Resource}
  {older : List (Entry Resource)} {released : List Release}

-- Everything that was built and is not released has its entry, so what is newer than all entries is
-- released.
theorem Kept.released_of_newer (h : Kept context none budget store)
    (hl : (store.registries key).live = entry :: older) {n : Nat} {id : ResourceId}
    (hr : .registered key n id ∈ store.history) (hlt : entry.serial < id.serial) :
    .released n ∈ store.history := by
  have hlawful := h.recorded.lawful
  rcases h.recorded.settled n (hlawful.built_of_registered hr) with hr | ⟨k, i, ha⟩ | hway
  · exact hr
  · obtain ⟨rfl, rfl⟩ := hlawful.registered_unique ha.1 hr
    obtain ⟨other, ho, -, rfl⟩ := (h.recorded.stored k n i).mp ha
    have hle : other.serial ≤ entry.serial := by
      rw [hl] at ho
      rcases List.mem_cons.mp ho with rfl | ho
      · exact UInt32.le_refl _
      · have hd := (h.recorded.issued k).descending
        rw [hl] at hd
        exact UInt32.le_of_lt ((List.pairwise_cons.mp hd).1 other ho)
    exact absurd hlt (UInt32.not_lt.mpr hle)
  · exact nomatch hway

theorem newest_of_kept (h : Kept context none budget store)
    (hl : (store.registries key).live = entry :: older)
    (hr : (release fuel key entry.resource).run
      ((store.withRegistry key { store.registries key with live := older }).noted
        (.taken key entry.resource.number)) = (.ok released, later)) :
    Round.Newest key ⟨store, entry, released, later⟩ where
  live := hl ▸ .head _
  newest other ho := by
    have hd := (h.recorded.issued key).descending
    rw [hl] at hd ho
    exact (List.mem_cons.mp ho).imp_right ((List.pairwise_cons.mp hd).1 other)
  newer _ _ := h.released_of_newer hl
  unreleased := by
    have hm : entry ∈ (store.registries key).live := hl ▸ .head _
    exact h.recorded.lawful.not_released_of_alive (h.recorded.alive_of_mem hm)
  releases := release_tells key entry.resource released later hr

theorem Rounds.live_eq_nil {rounds : List Round} (h : Rounds key store rounds later) :
    (later.registries key).live = [] := by
  induction h with
  | done empty => exact empty
  | round _ _ _ ih => exact ih

-- Where no release runs anything, the entries are released as they stand.
theorem Rounds.of_quiet {rounds : List Round} (h : Rounds key store rounds later)
    (hq : ∀ entry ∈ (store.registries key).live, entry.resource.Quiet) :
    rounds.map (·.entry) = (store.registries key).live ∧
      releasedIn later.history =
        ((store.registries key).live.map (·.resource.number)).reverse ++
          releasedIn store.history := by
  induction h with
  | done empty => simp [empty]
  | @round store entry older fuel released later rounds after live ran rest ih =>
      rw [live] at hq ⊢
      obtain ⟨hentry, holder⟩ := List.forall_mem_cons.mp hq
      cases fuel with
      | zero => exact nomatch ran
      | succ fuel =>
          obtain ⟨other, hrun⟩ := run_release_of_quiet hentry fuel key
            ((store.withRegistry key { store.registries key with live := older }).noted
              (.taken key entry.resource.number))
          cases ran.symm.trans hrun
          rw [Store.noted_registries, Store.noted_registries, Store.withRegistry_same] at ih
          obtain ⟨hentries, hreleased⟩ := ih holder
          refine ⟨by rw [List.map_cons, hentries], ?_⟩
          rw [hreleased, List.map_cons, List.reverse_cons, List.append_assoc]
          rfl

end Turn

section Course

variable {first : String} {steps : List Step} {key fuel : Nat} {looks : Nat → Nat} {store : Store}

-- A part of a run that looks into nothing comes to its end.
theorem Within.exists_ok {α : Type} {part : Part} {x : Run α} {Q : α → Store → Prop}
    (h : Within first steps ⟨fuel, looks, part, store⟩)
    (blind : (⟨fuel, looks, part, store⟩ : Call).Blind)
    (hx : runPart fuel part = Functor.discard x) (few : Few (run first steps).2.history)
    (hq : Holds x store Q) : ∃ a after, x.run store = (.ok a, after) ∧ Q a after := by
  have hs := Within.suffix h
  rw [Call.ending, hx, run_discard] at hs
  rcases hq.ends_or_breach (few.of_suffix hs) with hok | ⟨stop, after, hr, access, others, -, rfl⟩
  · exact hok
  · have hfails : (⟨fuel, looks, part, store⟩ : Call).Fails ⟨access, .shared others⟩ :=
      (Call.fails_iff hx).mpr (congrArg Prod.fst hr)
    obtain ⟨inner, hi, hc⟩ := hfails.exists_conflicts
    have hinner := blind_of_within hi blind
    have hready := Within.ready_of_looks (h.trans hi) few hinner.looks
    exact absurd hc (hready.not_conflicts (not_breaks_of_looks hinner.looks) _)

-- One round for each entry that is taken out, by induction on the fuel. What is left of it after a
-- release is enough for all that is there by then.
theorem Within.exists_rounds (h : Within first steps ⟨fuel, looks, .drain key, store⟩)
    (blind : (⟨fuel, looks, .drain key, store⟩ : Call).Blind)
    (few : Few (run first steps).2.history) :
    ∃ rounds after, (drain fuel key).run store = (.ok (rounds.flatMap (·.released)), after) ∧
      Rounds key store rounds after ∧ (∀ round ∈ rounds, round.Newest key) ∧
      (after.registries key).borrow = .free := by
  induction fuel generalizing store with
  | zero =>
      obtain ⟨context, budget, -, -, hfuel, -⟩ := Within.ready_of_looks h few blind.looks
      exact absurd hfuel (Nat.not_succ_le_zero _)
  | succ fuel ih =>
      obtain ⟨context, budget, rfl, hk, hfuel, hlooks⟩ := Within.ready_of_looks h few blind.looks
      have hfuel : budget + 1 ≤ fuel + 1 := hfuel
      have hb := hk.borrow_eq_free key hlooks
      rcases hl : (store.registries key).live with _ | ⟨entry, older⟩
      · have ht := run_takeOut_none (·.takeNewest) (Registry.takeNewest_nil hb hl)
        rw [withRegistry_self] at ht
        refine ⟨[], store, ?_, .done hl, nofun, hb⟩
        rw [drain, run_bind, ht]
        rfl
      · have hn := Registry.takeNewest_cons hb hl
        have ht := run_takeOut_some (·.takeNewest) hn
        have hnewest : Calls ⟨fuel + 1, context.looks, .drain key, store⟩ _ := .newest ht
        obtain ⟨hcost, hloose, hlost⟩ := hk.lose (Registry.loses_of_takeNewest hn)
        obtain ⟨released, later, hr, -⟩ := Within.exists_ok (h.tail hnewest)
          (hnewest.blind blind) rfl few ((keeping fuel).release key hlost hloose (by omega))
        have holder : Calls ⟨fuel + 1, context.looks, .drain key, store⟩ _ := .older ht hr
        obtain ⟨rounds, after, hdrain, hrounds, hall, hfree⟩ :=
          ih (h.tail holder) (holder.blind blind)
        refine ⟨⟨store, entry, released, later⟩ :: rounds, after, ?_, .round hl hr hrounds,
          List.forall_mem_cons.mpr ⟨newest_of_kept hk hl hr, hall⟩, hfree⟩
        rw [drain, run_bind, ht]
        simp only [run_bind, hr, hdrain, run_pure, List.flatMap_cons]

-- What has no entries has nothing more to release.
theorem run_drain_of_nil (hb : (store.registries key).borrow = .free)
    (hl : (store.registries key).live = []) (fuel : Nat) :
    (drain (fuel + 1) key).run store = (.ok [], store) := by
  have ht := run_takeOut_none (·.takeNewest) (Registry.takeNewest_nil hb hl)
  rw [withRegistry_self] at ht
  rw [drain, run_bind, ht]
  rfl

theorem run_letGo_of_nil (hb : (store.registries key).borrow = .free)
    (hl : (store.registries key).live = []) (fuel : Nat) :
    (letGo (fuel + 2) key).run store = (.ok [], store.unholding key) := by
  have hb : ((store.unholding key).registries key).borrow = .free := hb
  rw [letGo, run_bind, run_unhold]
  by_cases hn : store.holders key ≤ 1
  · simp only [hn, decide_true, if_true]
    exact run_drain_of_nil hb hl fuel
  · simp only [hn, decide_false]
    rfl

end Course

-- In any state that a script gets to, whatever the releases do short of looking at resources: a
-- registry that disposes of everything comes to its end, and is empty then. It takes out the newest
-- entry each time, and by then everything newer is released, so what a release made and left behind
-- comes before all that is older and still there. If the releases run nothing, the entries go in
-- descending order. To dispose of everything once more, or to let go of the registry, releases
-- nothing.
theorem drain_releases_newest_first {first : String} {steps : List Step} {key fuel : Nat}
    {looks : Nat → Nat} {store : Store}
    (within : Within first steps ⟨fuel, looks, .drain key, store⟩)
    (few : Few (run first steps).2.history) (unlooked : ∀ k, looks k = 0)
    (sightless : store.Sightless) :
    ∃ rounds after, (drain fuel key).run store = (.ok (rounds.flatMap (·.released)), after) ∧
      Rounds key store rounds after ∧ (∀ round ∈ rounds, round.Newest key) ∧
      (after.registries key).live = [] ∧
      ((∀ entry ∈ (store.registries key).live, entry.resource.Quiet) →
        rounds.map (·.entry) = (store.registries key).live ∧
        Registry.Descending (store.registries key).live ∧
        releasedIn after.history = ((store.registries key).live.map (·.resource.number)).reverse ++
          releasedIn store.history) ∧
      ∀ more, (drain (more + 1) key).run after = (.ok [], after) ∧
        (letGo (more + 2) key).run after = (.ok [], after.unholding key) := by
  obtain ⟨context, budget, -, kept, -⟩ := within.ready_of_looks few unlooked
  obtain ⟨rounds, after, hdrain, hrounds, hall, hfree⟩ :=
    within.exists_rounds ⟨unlooked, rfl, sightless⟩ few
  have hempty := hrounds.live_eq_nil
  refine ⟨rounds, after, hdrain, hrounds, hall, hempty, fun hq => ?_, fun more =>
    ⟨run_drain_of_nil hfree hempty more, run_letGo_of_nil hfree hempty more⟩⟩
  obtain ⟨hentries, hreleased⟩ := hrounds.of_quiet hq
  exact ⟨hentries, (kept.recorded.issued key).descending, hreleased⟩

-- The constructor makes the older one of two. The release of the other makes two more; that of the
-- last of them disposes of the one before it, and makes one whose release disposes of everything.
def restless : Step :=
  .acquireProbe "r" "new" .index [.acquireText "r" "old" .index] none
    [.acquireText "r" "text" .index,
      .acquireProbe "r" "late" .index [] none
        [.dispose "r" "text", .acquireProbe "r" "last" .index [] none [.disposeAll "r"]]]

def restlessFuel : Nat := 8 * weights [restless, .disposeAll "r"] + 61

theorem drain_releases_newest_first_of_restless : ∃ (store : Store) (rounds : List Round)
    (after : Store),
    Within "r" [restless, .disposeAll "r"] ⟨restlessFuel, fun _ => 0, .drain 1, store⟩ ∧
      store.Sightless ∧ (store.registries 1).live.map (·.resource.number) = [1, 0] ∧
      (drain restlessFuel 1).run store = (.ok (rounds.flatMap (·.released)), after) ∧
      (∀ round ∈ rounds, round.Newest 1) ∧ (after.registries 1).live = [] ∧
      releasedIn after.history = [0, 4, 2, 3, 1] := by
  have hall : (match (runStep (restlessFuel + 2) restless).run
      ((({} : Store).unbound "r").making "r") with
    | (.ok _, after) => decide (after.labels.lookup "r" = some 1 ∧
        (after.registries 1).live.map (·.resource.number) = [1, 0] ∧
        releasedIn ((drain restlessFuel 1).run (after.holding 1)).2.history = [0, 4, 2, 3, 1])
    | (.error _, _) => false) = true := by decide +kernel
  rcases hr : (runStep (restlessFuel + 2) restless).run
    ((({} : Store).unbound "r").making "r") with ⟨_ | report, store⟩ <;> rw [hr] at hall
  · exact nomatch hall
  obtain ⟨found, hlive, hreleased⟩ := of_decide_eq_true hall
  have hlength : (run "r" [restless, .disposeAll "r"]).2.history.length < UInt32.size := by
    decide +kernel
  have few : Few (run "r" [restless, .disposeAll "r"]).2.history := fun key =>
    Nat.lt_of_le_of_lt List.countP_le_length hlength
  have started : Within "r" [restless, .disposeAll "r"]
      ⟨restlessFuel + 3, fun _ => 0, .steps [restless, .disposeAll "r"], _⟩ := .single .start
  have within := (((started.tail (.rest hr)).tail .first).tail (.work rfl found)).tail .all
  have sightless := (blind_of_within within (blind_whole "r" rfl)).store
  obtain ⟨rounds, after, hdrain, -, hall, hempty, -⟩ :=
    drain_releases_newest_first within few (fun _ => rfl) sightless
  refine ⟨_, rounds, after, within, sightless, hlive, hdrain, hall, hempty, ?_⟩
  rw [← hreleased, hdrain]

end SyntaxHandles.RegistryScript
