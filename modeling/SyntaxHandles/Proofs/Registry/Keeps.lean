import SyntaxHandles.Proofs.Registry.Holds

-- What every part of a run keeps, steps at releases and in constructors included. All that runs
-- inside a part finds everything as it has to be, and leaves it so.

namespace SyntaxHandles.RegistryScript

open Effect

section Parts

variable {context : Context} {budget : Nat} {store : Store} {key : Nat}

theorem Kept.free_or_shared {onWay : Option Nat} (h : Kept context onWay budget store)
    (key : Nat) : (store.registries key).borrow = .free ∨
      ∃ others, (store.registries key).borrow = .shared others := by
  rw [h.held.borrow key]
  cases context.looks key with
  | zero => exact .inl rfl
  | succ others => exact .inr ⟨others, rfl⟩

theorem Kept.not_exclusive {onWay : Option Nat} (h : Kept context onWay budget store)
    (key : Nat) : (store.registries key).borrow ≠ .exclusive := by
  rw [h.held.borrow key]
  exact Borrow.ofLooks_ne_exclusive _

theorem Kept.enter {onWay : Option Nat} (h : Kept context onWay budget store) (key : Nat) :
    Kept context onWay budget
      (store.noted (.entered key (store.registries key).borrow)) :=
  h.note_mute trivial trivial

theorem run_enter (key : Nat) (store : Store) : (enter key).run store =
    (.ok (), store.noted (.entered key (store.registries key).borrow)) := rfl

theorem run_create (label : String) (store : Store) :
    (create label).run store = (.ok (), (store.unbound label).making label) := rfl

theorem run_unbindLabel (label : String) (store : Store) :
    (unbindLabel label).run store = (.ok (), store.unbound label) := rfl

theorem run_build (label : String) (contents : Contents) (store : Store) :
    (build label contents).run store = (.ok ⟨store.built, label, contents⟩,
      ({ store with built := store.built + 1 } : Store).noted (.built store.built)) := rfl

section TakeOut

variable {after : Registry Resource}
  (operation : Registry Resource → Except Conflict (Option Resource × Registry Resource))

theorem run_takeOut_none (ho : operation (store.registries key) = .ok (none, after)) :
    (takeOut key operation).run store = (.ok none, store.withRegistry key after) := by
  rw [takeOut, run_bind, run_act_ok operation ho]
  rfl

theorem run_takeOut_some {resource : Resource}
    (ho : operation (store.registries key) = .ok (some resource, after)) :
    (takeOut key operation).run store = (.ok (some resource),
      (store.withRegistry key after).noted (.taken key resource.number)) := by
  rw [takeOut, run_bind, run_act_ok operation ho]
  rfl

theorem run_takeOut_error {conflict : Conflict}
    (ho : operation (store.registries key) = .error conflict) :
    (takeOut key operation).run store = (.error (.conflict conflict), store) := by
  rw [takeOut, run_bind, run_act_error operation ho]

end TakeOut

end Parts

-- What the parts of a run keep with this fuel. What is released later may take up the budget.
structure Keeping (fuel : Nat) : Prop where
  runSteps : ∀ {context budget store} steps, Kept context none budget store →
    budget + weights steps ≤ fuel → Holds (runSteps fuel steps) store fun _ after =>
      Kept context none (budget + weights steps - 1) after
  release : ∀ {context budget store} key {resource : Resource},
    Kept context (some resource.number) budget store → Loose store.history resource.number →
    budget + resource.cost ≤ fuel → Holds (release fuel key resource) store fun _ after =>
      Kept context none (budget + resource.cost - 1) after
  drain : ∀ {context budget store} key, Kept context none budget store → budget + 1 ≤ fuel →
    Holds (drain fuel key) store fun _ after =>
      Kept context none budget after ∧ (after.registries key).live = []
  letGo : ∀ {context budget store} key, Kept (context.entering key) none budget store →
    budget + 2 ≤ fuel → Holds (letGo fuel key) store fun _ after => Kept context none budget after
  runStep : ∀ {context budget store} step, Kept context none budget store →
    budget + step.weight ≤ fuel → Holds (runStep fuel step) store fun _ after =>
      Kept context none (budget + step.weight) after

namespace Keeping

variable {fuel budget : Nat} {context : Context} {store : Store}

theorem runSteps_succ (h : Keeping fuel) (steps : List Step) (hk : Kept context none budget store)
    (hf : budget + weights steps ≤ fuel + 1) :
    Holds (RegistryScript.runSteps (fuel + 1) steps) store fun _ after =>
      Kept context none (budget + weights steps - 1) after := by
  cases steps with
  | nil => exact .pure hk
  | cons step steps =>
      rw [weights] at hf ⊢
      refine .bind ((h.runStep step hk (by omega)).mono fun _ after ha => ?_) fun _ =>
        ((growing fuel).runSteps steps).bind fun _ => .pure _
      exact .map ((h.runSteps steps ha (by omega)).mono fun _ _ hl => hl.mono (by omega))

theorem release_succ (h : Keeping fuel) (key : Nat) {resource : Resource}
    (hk : Kept context (some resource.number) budget store)
    (hl : Loose store.history resource.number) (hf : budget + resource.cost ≤ fuel + 1) :
    Holds (RegistryScript.release (fuel + 1) key resource) store fun _ after =>
      Kept context none (budget + resource.cost - 1) after := by
  have hr := hk.release hl
  have hpos := resource.cost_pos
  refine .next (run_note _ store) ?_
  split
  · exact .pure (hr.mono (by omega))
  · exact .pure (hr.mono (by omega))
  · next steps _ hc =>
    rw [Resource.cost, hc] at hf ⊢
    refine .next (run_enter key _) ?_
    exact .map ((h.runSteps steps (hr.enter key) (by simp only at hf; omega)).mono
      fun _ _ ha => ha.mono (by simp only; omega))

theorem drain_succ (h : Keeping fuel) (key : Nat) (hk : Kept context none budget store)
    (hf : budget + 1 ≤ fuel + 1) :
    Holds (RegistryScript.drain (fuel + 1) key) store fun _ after =>
      Kept context none budget after ∧ (after.registries key).live = [] := by
  rcases hk.free_or_shared key with hb | ⟨others, hb⟩
  · rcases hl : (store.registries key).live with _ | ⟨entry, older⟩
    · have ho := Registry.takeNewest_nil hb hl
      refine .next (run_takeOut_none (·.takeNewest) ho) ?_
      rw [withRegistry_self]
      exact .pure ⟨hk, hl⟩
    · have ho := Registry.takeNewest_cons hb hl
      obtain ⟨hcost, hloose, hlost⟩ := hk.lose (Registry.loses_of_takeNewest ho)
      have hpos := entry.resource.cost_pos
      refine .next (run_takeOut_some (·.takeNewest) ho) ?_
      -- its cost pays for its release, and for one more round on whatever that leaves
      refine .bind ((h.release key hlost hloose (by omega)).mono fun _ after ha => ?_) fun _ =>
        ((growing fuel).drain key).bind fun _ => .pure _
      exact .map ((h.drain key ha (by omega)).mono fun _ _ hd => ⟨hd.1.mono (by omega), hd.2⟩)
  · have hne : (store.registries key).borrow ≠ .free := by simp [hb]
    have ho := Registry.takeNewest_of_borrowed hne
    rw [hb] at ho
    exact .breach (run_takeOut_error (·.takeNewest) ho) ⟨.drain, others, nofun, rfl⟩

theorem letGo_succ (h : Keeping fuel) (key : Nat)
    (hk : Kept (context.entering key) none budget store) (hf : budget + 2 ≤ fuel + 1) :
    Holds (RegistryScript.letGo (fuel + 1) key) store fun _ after =>
      Kept context none budget after := by
  have hr : (unhold key).run store =
    (.ok (decide (store.holders key ≤ 1)), store.unholding key) := rfl
  refine .next hr ?_
  by_cases hn : store.holders key ≤ 1
  · simp only [hn, decide_true, if_true]
    exact (h.drain key hk.unhold_last (by omega)).mono fun _ _ hd => hd.1.finish hd.2
  · simp only [hn, decide_false, Bool.false_eq_true, if_false]
    exact .pure (hk.unhold hn)

-- Tracking what was built for a registry that is held. As identities never run out, the resource
-- displaces no other.
theorem track_succ (fuel : Nat) {key : Nat} (name : String) (kind : ResourceKind)
    {resource : Resource} (hk : Kept (context.entering key) (some resource.number) budget store)
    (hl : Loose store.history resource.number)
    (hnew : ∀ k i, .registered k resource.number i ∉ store.history) :
    Holds (track (fuel + 1) key name kind resource) store fun _ after =>
      Kept (context.entering key) none (budget + resource.cost) after := by
  rcases hk.free_or_shared key with hb | ⟨others, hb⟩
  · obtain ⟨id, displaced, after, ho⟩ := Registry.exists_register hb kind resource
    refine .next (run_register_ok ho) ?_
    refine .next_few (run_note _ _) ((growing fuel).displacing key name id displaced) fun hfew => ?_
    -- what is registered by now counts, so a serial was left and nothing had it
    have hc := hfew key
    rw [Store.noted_history, registrations_registered, if_pos rfl] at hc
    rw [(hk.recorded.issued key).register_eq hc hb kind resource] at ho
    simp only [Except.ok.injEq, Prod.mk.injEq] at ho
    obtain ⟨rfl, rfl, rfl⟩ := ho
    have hr := hk.register kind hk.held.holders_ne_zero hl hnew rfl hc
    refine .next (run_pure [] _) (.next (run_modify _ _) (.pure ?_))
    exact hr.name _
  · have hne : (store.registries key).borrow ≠ .free := by simp [hb]
    have ho := Registry.register_of_borrowed hne kind resource
    rw [hb] at ho
    exact .breach (run_register_error ho) ⟨.register, others, nofun, rfl⟩

-- What was just built may be tracked, or released.
theorem built (hk : Kept context none budget store) :
    Kept context (some store.built) budget
        (({ store with built := store.built + 1 } : Store).noted (.built store.built)) ∧
      Loose (.built store.built :: store.history) store.built ∧
      ∀ k i, .registered k store.built i ∉ Event.built store.built :: store.history := by
  have hnot := hk.recorded.not_built
  refine ⟨hk.build, hk.recorded.lawful.loose_of_built hnot, fun k i hr => ?_⟩
  have hr : .registered k store.built i ∈ store.history := by simpa using hr
  exact hnot (hk.recorded.lawful.built_of_registered hr)

theorem disposing (h : Keeping fuel) {key : Nat} (id : ResourceId)
    (hk : Kept context none budget store) (hf : budget ≤ fuel) :
    Holds (do
      let resource? ← takeOut key (·.take id)
      note (.disposed key id (resource?.map (·.number)))
      match resource? with
      | none => return report (.flag false)
      | some resource => return .mk (.flag true) [] (← RegistryScript.release fuel key resource))
      store fun _ after => Kept context none budget after := by
  have hissued := hk.recorded.issued key
  -- a dead identity is refused even in a look; a live one cannot be taken there
  rcases Registry.dead_or (store.registries key) id with hdead | ⟨entry, hm, rfl⟩
  · have ho := Registry.take_of_dead (hk.not_exclusive key) hdead
    refine .next (run_takeOut_none (·.take id) ho) ?_
    rw [withRegistry_self]
    refine .next (run_note _ _) (.pure ?_)
    exact hk.note_mute trivial (hk.recorded.dead_iff.mp hdead)
  · rcases hk.free_or_shared key with hb | ⟨others, hb⟩
    · have ho := hissued.take_of_mem hb hm
      obtain ⟨hcost, hloose, hlost⟩ := hk.lose (hissued.loses_of_take hb ho)
      have hpos := entry.resource.cost_pos
      have hmute : (Event.disposed key ((store.registries key).identity entry)
        (some entry.resource.number)).Mute := trivial
      have hnoted := hlost.note_mute hmute ⟨store.history, rfl, hk.recorded.alive_of_mem hm⟩
      refine .next (run_takeOut_some (·.take _) ho) (.next (run_note _ _) ?_)
      exact .map ((h.release key hnoted (hmute.loose_iff.mpr hloose) (by omega)).mono
        fun _ _ ha => ha.mono (by omega))
    · have ho := hissued.take_of_borrowed hb hm
      exact .breach (run_takeOut_error (·.take _) ho) ⟨.take, others, nofun, rfl⟩

theorem create (h : Keeping fuel) (label : String) (hk : Kept context none budget store)
    (hf : budget + 2 ≤ fuel) :
    Holds (RegistryScript.runStep (fuel + 1) (.create label)) store fun _ after =>
      Kept context none budget after := by
  refine .next (run_keyOf? label store) (.next (run_create label store) ?_)
  cases hl : store.labels.lookup label with
  | none =>
      have hnot := lookup_eq_none hl
      rw [Store.unbound, filter_of_not_mem hnot]
      exact .pure (hk.making hnot)
  | some key =>
      have hm := (hk.unbind hl).making (not_mem_filter store.labels label)
      exact .map (h.letGo key hm hf)

theorem drop (h : Keeping fuel) (label : String) (hk : Kept context none budget store)
    (hf : budget + 2 ≤ fuel) :
    Holds (RegistryScript.runStep (fuel + 1) (.drop label)) store fun _ after =>
      Kept context none budget after := by
  refine .next (run_keyOf? label store) ?_
  cases hl : store.labels.lookup label with
  | none => exact .pure hk
  | some key => exact .next (run_unbindLabel label store) (.map (h.letGo key (hk.unbind hl) hf))

section Work

variable {key : Nat}

-- The budget grows by what the release of the new resource may cost, and by what building it may
-- leave behind.
theorem acquireProbe (h : Keeping fuel) {name : String} {kind : ResourceKind}
    {building atRelease : List Step} {failure : Option ResourceKind}
    (hk : Kept (context.entering key) none budget store)
    (hf : budget + weights building + weights atRelease + 2 ≤ fuel) :
    Holds (Work.run fuel key (.acquireProbe name kind building failure atRelease)) store
      fun _ after =>
        Kept (context.entering key) none (budget + weights building + weights atRelease) after := by
  obtain ⟨fuel, rfl⟩ : ∃ less, fuel = less + 1 := ⟨fuel - 1, by omega⟩
  have hgrow := growing (fuel + 1)
  refine .next (run_enter key store) ?_
  refine .bind ((h.runSteps building (hk.enter key) (by omega)).mono fun inner after ha => ?_)
    fun inner => ?_
  · obtain ⟨hb, hl, hnew⟩ := built ha
    refine .next (run_build name (.probe atRelease) after) ?_
    have hpos := weights_pos building
    cases failure with
    | some failed =>
        refine .map ((h.release key hb hl ?_).mono fun _ _ hr => hr.mono ?_)
        all_goals
          simp only [Resource.cost]
          omega
    | none =>
        refine .bind ((track_succ fuel name kind hb hl hnew).mono fun report _ ht => ?_)
          fun report => ?_
        · obtain ⟨outcome, inner, released⟩ := report
          refine .pure (ht.mono ?_)
          simp only [Resource.cost]
          omega
        · obtain ⟨outcome, inner, released⟩ := report
          exact .pure _
  · refine (grows_build name _).bind fun resource => ?_
    cases failure with
    | none =>
        refine (hgrow.track key name kind resource).bind fun report => ?_
        obtain ⟨outcome, inner, released⟩ := report
        exact .pure _
    | some failed => exact (hgrow.release key resource).bind fun _ => .pure _

theorem acquireText {name : String} {kind : ResourceKind}
    (hk : Kept (context.entering key) none budget store) (hf : 1 ≤ fuel) :
    Holds (Work.run fuel key (.acquireText name kind)) store
      fun _ after => Kept (context.entering key) none (budget + 1) after := by
  obtain ⟨fuel, rfl⟩ : ∃ less, fuel = less + 1 := ⟨fuel - 1, by omega⟩
  obtain ⟨hb, hl, hnew⟩ := built hk
  exact .next (run_build name .text store) (track_succ fuel name kind hb hl hnew)

theorem isAlive (name : String) (hk : Kept context none budget store) :
    Holds (Work.run fuel key (.isAlive name)) store
      fun _ after => Kept context none budget after := by
  refine holds_withName hk fun id => ?_
  have hissued := hk.recorded.issued key
  have hb := hk.not_exclusive key
  rcases Registry.dead_or (store.registries key) id with hdead | ⟨entry, hm, rfl⟩
  · refine .next (run_ask_ok (·.isAlive id) (Registry.isAlive_of_dead hb hdead)) ?_
    refine .next (run_note _ _) (.pure (hk.note_mute trivial ?_))
    exact iff_of_false nofun fun ⟨n, hn⟩ => hk.recorded.dead_iff.mp hdead n hn
  · refine .next (run_ask_ok (·.isAlive _) (hissued.isAlive_of_mem hb hm)) ?_
    refine .next (run_note _ _) (.pure (hk.note_mute trivial ?_))
    exact iff_of_true rfl ⟨_, hk.recorded.alive_of_mem hm⟩

-- The body of a look finds one more look under way, and none of them may change the entries.
theorem look (h : Keeping fuel) (name : String) (asText : Bool) (body : List Step)
    (hk : Kept (context.entering key) none budget store) (hf : budget + weights body ≤ fuel) :
    Holds (Work.run fuel key (.look name asText body)) store
      fun _ after => Kept (context.entering key) none (budget + weights body) after := by
  refine holds_withName (hk.mono (by omega)) fun id => ?_
  obtain ⟨answer, ha⟩ : ∃ answer, (store.registries key).look id (Resource.isOfType asText) =
    .ok answer := Registry.exists_look (hk.not_exclusive key) id _
  refine .next (run_ask_ok (·.look id (Resource.isOfType asText)) ha) ?_
  cases answer with
  | error fault => exact .pure (hk.mono (by omega))
  | ok resource =>
      refine .next (run_change key (·.share) store) ?_
      refine .bind ((h.runSteps body hk.share (by omega)).mono fun inner after hb => ?_)
        fun _ => (grows_act _).bind fun _ => .pure _
      exact .next (run_change key (·.unshare) after) (.pure (hb.unshare.mono (by omega)))

theorem liveCount (hk : Kept context none budget store) :
    Holds (Work.run fuel key .liveCount) store fun _ after => Kept context none budget after := by
  have hr : (store.registries key).toRead = .ok () := if_neg (hk.not_exclusive key)
  exact .next (run_ask_ok (·.toRead) hr) (.next (run_get store) (.pure hk))

theorem work (h : Keeping fuel) (work : Work)
    (hk : Kept (context.entering key) none budget store) (hf : budget + work.weight + 3 ≤ fuel) :
    Holds (work.run fuel key) store fun _ after =>
      Kept (context.entering key) none (budget + work.weight) after := by
  cases work with
  | acquireProbe name kind building failure atRelease =>
      rw [Work.weight] at hf ⊢
      exact (h.acquireProbe hk (by omega)).mono fun _ _ ha => ha.mono (by omega)
  | acquireText name kind =>
      rw [Work.weight] at hf ⊢
      exact (acquireText hk (by omega)).mono fun _ _ ha => ha.mono (by omega)
  | dispose name => exact holds_withName hk fun id => h.disposing id hk (by omega)
  | isAlive name => exact isAlive name hk
  | look name asText body =>
      rw [Work.weight] at hf ⊢
      exact h.look name asText body hk (by omega)
  | liveCount => exact liveCount hk
  | disposeAll => exact .map ((h.drain key hk (by omega)).mono fun _ _ hd => hd.1)

end Work

theorem runStep_succ (h : Keeping fuel) (step : Step) (hk : Kept context none budget store)
    (hf : budget + step.weight ≤ fuel + 1) :
    Holds (RegistryScript.runStep (fuel + 1) step) store fun _ after =>
      Kept context none (budget + step.weight) after := by
  cases hw : step.work? with
  | some labelled =>
      obtain ⟨label, work⟩ := labelled
      rw [Step.weight_of_work? hw] at hf ⊢
      rw [runStep_of_work? hw]
      have hall : Holds (within label (RegistryScript.letGo fuel) fun key => work.run fuel key) store
          fun _ after => Kept context none (budget + work.weight) after :=
        holds_within hk (by omega) (growing fuel).letGo
          (fun key before hkey => h.work work hkey (by omega))
          fun key before hkey => h.letGo key hkey (by omega)
      exact hall.mono fun _ _ ha => ha.mono (by omega)
  | none =>
      cases step with
      | create label =>
          rw [Step.weight] at hf ⊢
          exact (h.create label hk (by omega)).mono fun _ _ ha => ha.mono (by omega)
      | drop label =>
          rw [Step.weight] at hf ⊢
          exact (h.drop label hk (by omega)).mono fun _ _ ha => ha.mono (by omega)
      | same name other =>
          have hmore : Kept context none (budget + Step.weight (.same name other)) store :=
            hk.mono (by omega)
          exact holds_withName hmore fun _ => holds_withName hmore fun _ => .pure hmore
      | _ => cases hw

end Keeping

theorem keeping (fuel : Nat) : Keeping fuel := by
  induction fuel with
  | zero =>
      refine ⟨fun steps _ hf => ?_, fun _ resource _ _ hf => ?_, fun _ _ hf => absurd hf (by omega),
        fun _ _ hf => absurd hf (by omega), fun step _ hf => ?_⟩
      · have hpos := weights_pos steps
        omega
      · have hpos := resource.cost_pos
        omega
      · have hpos := step.weight_pos
        omega
  | succ fuel ih =>
      exact ⟨ih.runSteps_succ, ih.release_succ, ih.drain_succ, ih.letGo_succ, ih.runStep_succ⟩

end SyntaxHandles.RegistryScript
