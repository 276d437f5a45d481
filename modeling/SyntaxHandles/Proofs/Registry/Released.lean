import SyntaxHandles.Proofs.Registry.Answers

-- Whole runs. Whatever runs inside whatever else, everything that is built is released exactly
-- once.

namespace SyntaxHandles.RegistryScript

open Effect

theorem recorded_empty : Recorded none {} where
  lawful := trivial
  issued _ := .fresh _
  serials _ _ _ hr := nomatch hr
  stored _ _ _ := iff_of_false (fun ha => nomatch ha.1) fun ⟨_, hm, _⟩ => nomatch hm
  built n := iff_of_false (fun hb => nomatch hb) (Nat.not_lt_zero n)
  settled _ hb := nomatch hb

theorem held_empty : Held Context.none {} where
  borrow _ := rfl
  holders _ := rfl
  ended _ _ := .inr rfl
  unmade _ _ := ⟨rfl, rfl⟩
  labels := .nil

theorem kept_empty : Kept Context.none none 0 {} :=
  ⟨recorded_empty, held_empty, Nat.le_refl 0⟩

theorem holds_dropAll {fuel budget : Nat} {context : Context} {store : Store}
    (labels : List String) (h : Kept context none budget store) (hf : budget + 2 ≤ fuel) :
    Holds (dropAll fuel labels) store fun _ after => Kept context none budget after := by
  induction labels generalizing store with
  | nil => exact .pure h
  | cons label labels ih =>
      refine .next (run_keyOf? label store) ?_
      cases hl : store.labels.lookup label with
      | none => exact ih h
      | some key =>
          refine .next (run_unbindLabel label store) ?_
          refine .bind (((keeping fuel).letGo key (h.unbind hl) hf).mono fun _ after ha => ?_)
            fun _ => (grows_dropAll fuel labels).bind fun _ => .pure _
          exact .map (ih ha)

-- The fuel of a script is enough for it.
theorem holds_script (first : String) (steps : List Step) :
    Holds (script (8 * weights steps + 64) first steps) {} fun _ after =>
      Kept Context.none none (weights steps) after := by
  have hfirst : Kept Context.none none 0 ((({} : Store).unbound first).making first) :=
    kept_empty.making List.not_mem_nil
  refine .next (run_create first {}) ?_
  refine .bind (((keeping _).runSteps steps hfirst (by omega)).mono fun reports after ha => ?_)
    fun _ => Grows.get.bind fun _ => (grows_dropAll _ _).bind fun _ => .pure _
  refine .next (run_get after) (.map ((holds_dropAll _ ha (by omega)).mono fun _ _ hd => ?_))
  exact hd.mono (by omega)

-- What a store tells about everything that was built and about every identity, when nothing is
-- under way any more.
structure Accounted (store : Store) : Prop where
  lawful : Lawful store.history
  once : store.labels = [] → ∀ n, .built n ∈ store.history →
    store.history.count (.released n) = 1
  -- What is not released has its entry, in a registry that is still there.
  kept : ∀ n, .built n ∈ store.history → .released n ∉ store.history →
    ∃ label key id, (label, key) ∈ store.labels ∧ Alive store.history key n id
  -- At the release of a resource its entry is gone and its identity is dead.
  dead : ∀ later earlier key n id, store.history = later ++ .released n :: earlier →
    .registered key n id ∈ store.history → .taken key n ∈ earlier ∧
      (∀ alive, .asked key id alive ∈ later → alive = false) ∧
      ∀ taken?, .disposed key id taken? ∈ later → taken? = none
  alive : ∀ key id, (store.registries key).isAlive id = .ok true ↔
    ∃ n, Alive store.history key n id

section Accounts

variable {budget : Nat} {store : Store}

-- When nothing is under way, only labels hold registries, and only what is held has entries.
theorem Kept.exists_label (h : Kept Context.none none budget store) {key n : Nat} {id : ResourceId}
    (ha : Alive store.history key n id) : ∃ label, (label, key) ∈ store.labels := by
  obtain ⟨entry, hm, -, -⟩ := (h.recorded.stored key n id).mp ha
  have hheld : store.holders key ≠ 0 := by
    intro hz
    rcases h.held.ended key hz with hend | hnone
    · exact hend
    · rw [hnone] at hm
      exact nomatch hm
  rw [h.held.holders key] at hheld
  obtain ⟨⟨label, k⟩, hl, hk⟩ := List.countP_pos_iff.mp (Nat.pos_of_ne_zero hheld)
  obtain rfl : k = key := by simpa using hk
  exact ⟨label, hl⟩

theorem Kept.kept (h : Kept Context.none none budget store) {n : Nat}
    (hb : .built n ∈ store.history) (hn : .released n ∉ store.history) :
    ∃ label key id, (label, key) ∈ store.labels ∧ Alive store.history key n id := by
  rcases h.recorded.settled n hb with hr | ⟨key, id, ha⟩ | hway
  · exact absurd hr hn
  · obtain ⟨label, hl⟩ := h.exists_label ha
    exact ⟨label, key, id, hl, ha⟩
  · exact nomatch hway

theorem Kept.count_released (h : Kept Context.none none budget store) (hl : store.labels = [])
    {n : Nat} (hb : .built n ∈ store.history) : store.history.count (.released n) = 1 := by
  have hle := h.recorded.lawful.count_released_le n
  by_cases hr : .released n ∈ store.history
  · have hpos := List.count_pos_iff.mpr hr
    omega
  · obtain ⟨label, key, id, hm, -⟩ := h.kept hb hr
    rw [hl] at hm
    exact nomatch hm

theorem Kept.accounted (h : Kept Context.none none budget store) : Accounted store where
  lawful := h.recorded.lawful
  once hl _ hb := h.count_released hl hb
  kept _ hb hn := h.kept hb hn
  dead later earlier key n id hh hr := by
    have hlawful := h.recorded.lawful
    rw [hh] at hlawful hr
    exact hlawful.dead_of_released hr
  alive key id := h.recorded.isAlive_iff (h.not_exclusive key) id

end Accounts

-- A run comes to its end and accounts for everything, if no body of a look changes the entries that
-- it looks at and no registry runs out of identities. Its steps, wherever they run, forget nothing
-- that has happened and answer what has.
theorem run_accounts (first : String) (steps : List Step)
    (hb : ∀ stop, (run first steps).1 = .error stop → ¬stop.Breach)
    (hf : Few (run first steps).2.history) :
    (∃ answers, (run first steps).1 = .ok answers) ∧ Accounted (run first steps).2 ∧
      ∀ fuel (step : Step) before report after,
        (runStep fuel step).run before = (.ok report, after) →
          before.history <:+ after.history ∧ step.Tells before report.outcome after.history := by
  rcases (holds_script first steps).ends_or_breach hf with ⟨answers, after, hr, hk⟩ |
    ⟨stop, after, hr, hstop⟩
  · have hrun : run first steps = (.ok answers, after) := hr
    rw [hrun]
    refine ⟨⟨answers, rfl⟩, hk.accounted, fun fuel step before report last ht => ⟨?_, ?_⟩⟩
    · exact Ends.of_grows ((growing fuel).runStep step) report last ht
    · exact runStep_tells fuel step before report last ht
  · have hrun : run first steps = (.error stop, after) := hr
    exact absurd hstop (hb stop (by rw [hrun]))

-- The release of the first resource asks for it and disposes of it once more. It happens while the
-- second one is made, which is never registered.
def sampleSteps : List Step :=
  [.acquireProbe "r" "a" .index [] none [.isAlive "r" "a", .dispose "r" "a"],
    .acquireProbe "r" "b" .index [.dispose "r" "a"] (some .index) [.disposeAll "r"],
    .acquireText "r" "c" .index]

theorem run_accounts_of_sample :
    (run "r" sampleSteps).2.labels = [] ∧
      (∀ n, .built n ∈ (run "r" sampleSteps).2.history →
        (run "r" sampleSteps).2.history.count (.released n) = 1) ∧
      (run "r" sampleSteps).2.history.filter (fun event => event matches .asked .. | .disposed ..) =
        [.disposed 1 ⟨1, 1, .index⟩ none, .asked 1 ⟨1, 1, .index⟩ false,
          .disposed 1 ⟨1, 1, .index⟩ (some 0)] := by
  have hok : (run "r" sampleSteps).1.isOk = true := by decide +kernel
  have hlabels : (run "r" sampleSteps).2.labels = [] := by decide +kernel
  have hlength : (run "r" sampleSteps).2.history.length < UInt32.size := by decide +kernel
  have hb (stop : Stop) (he : (run "r" sampleSteps).1 = .error stop) : ¬stop.Breach := by
    rw [he] at hok
    exact nomatch hok
  have hf : Few (run "r" sampleSteps).2.history := fun key =>
    Nat.lt_of_le_of_lt List.countP_le_length hlength
  exact ⟨hlabels, (run_accounts "r" sampleSteps hb hf).2.1.once hlabels, by decide +kernel⟩

end SyntaxHandles.RegistryScript
