import SyntaxHandles.Proofs.Registry.Conflicts
import SyntaxHandles.Proofs.Registry.Released

-- Which registries are borrowed while other parts run. An operation that runs a constructor, or
-- lets go of a resource, holds no borrow then: only bodies of looks run while a registry is
-- borrowed.

namespace SyntaxHandles.RegistryScript

open Effect Relation

-- What no body of a look may do to the registry that it looks into.
def Work.Changes (store : Store) (key : Nat) : Work → Prop
  | .acquireProbe _ _ _ failure _ => failure = none
  | .acquireText .. => True
  | .dispose name => ∃ id n, store.names.lookup name = some id ∧ Alive store.history key n id
  | .disposeAll => True
  | .isAlive _ | .look .. | .liveCount => False

def Call.Breaks (call : Call) : Prop :=
  ∃ key work, call.part = .work key work ∧ call.looks key ≠ 0 ∧ work.Changes call.store key

-- What a part finds where it starts.
def Fits (context : Context) (budget fuel : Nat) (store : Store) : Part → Prop
  | .script _ steps => context = .none ∧ store = {} ∧ weights steps + 1 ≤ fuel
  | .steps steps => Kept context none budget store ∧ budget + weights steps ≤ fuel
  | .step step => Kept context none budget store ∧ budget + step.weight ≤ fuel
  | .work key work =>
    Kept (context.entering key) none budget store ∧ budget + work.weight + 3 ≤ fuel
  | .track key _ _ resource =>
    Kept (context.entering key) (some resource.number) budget store ∧
      Loose store.history resource.number ∧
      (∀ k i, .registered k resource.number i ∉ store.history) ∧ context.looks key = 0
  | .release _ resource =>
    Kept context (some resource.number) budget store ∧ Loose store.history resource.number ∧
      budget + resource.cost ≤ fuel
  | .drain key => Kept context none budget store ∧ budget + 1 ≤ fuel ∧ context.looks key = 0
  | .letGo key => Kept (context.entering key) none budget store ∧ budget + 2 ≤ fuel
  | .dropAll _ => Kept context none budget store ∧ budget + 2 ≤ fuel

def Call.Ready (call : Call) : Prop :=
  ∃ context budget, context.looks = call.looks ∧
    Fits context budget call.fuel call.store call.part

section Ready

variable {context : Context} {budget : Nat} {store : Store} {key : Nat} {p q call : Call}

theorem Kept.borrow_eq_free {onWay : Option Nat} (h : Kept context onWay budget store)
    (key : Nat) (hl : context.looks key = 0) : (store.registries key).borrow = .free := by
  rw [h.held.borrow key, hl]
  rfl

-- The last one to hold a registry does not look into it.
theorem Held.looks_eq_zero (h : Held (context.entering key) store) (hn : store.holders key ≤ 1) :
    context.looks key = 0 := by
  have hh := h.holders key
  have hl := context.looking key
  simp only [Context.entering, if_true] at hh
  omega

theorem Holds.of_ok {α : Type} {x : Run α} {after : Store} {a : α} {Q : α → Store → Prop}
    (h : Holds x store Q) (hr : x.run store = (.ok a, after)) (hf : Few after.history) :
    Q a after := by
  rw [Holds, hr] at h
  exact h hf

theorem takeOut_eq_some {operation :
    Registry Resource → Except Conflict (Option Resource × Registry Resource)}
    {resource : Resource} {after : Store}
    (ht : (takeOut key operation).run store = (.ok (some resource), after)) :
    ∃ registry, operation (store.registries key) = .ok (some resource, registry) ∧
      after = (store.withRegistry key registry).noted (.taken key resource.number) := by
  rcases ho : operation (store.registries key) with conflict | ⟨taken?, registry⟩
  · rw [run_takeOut_error operation ho] at ht
    exact nomatch ht
  · cases taken? with
    | none =>
        rw [run_takeOut_none operation ho] at ht
        exact nomatch ht
    | some other =>
        rw [run_takeOut_some operation ho] at ht
        cases ht
        exact ⟨registry, rfl, rfl⟩

theorem Kept.lose_newest {resource : Resource} {after : Store}
    (h : Kept context none budget store)
    (ht : (takeOut key (·.takeNewest)).run store = (.ok (some resource), after)) :
    resource.cost ≤ budget ∧ Loose after.history resource.number ∧
      Kept context (some resource.number) (budget - resource.cost) after := by
  obtain ⟨registry, ho, rfl⟩ := takeOut_eq_some ht
  exact h.lose (Registry.loses_of_takeNewest ho)

theorem Fits.ready (context : Context) {fuel : Nat} {part : Part}
    (h : Fits context budget fuel store part) :
    (⟨fuel, context.looks, part, store⟩ : Call).Ready :=
  ⟨context, budget, rfl, h⟩

theorem ready_work {fuel : Nat} {work : Work}
    (hk : Kept (context.entering key) none budget store) (hfuel : budget + work.weight + 3 ≤ fuel)
    (hb : ¬(⟨fuel, context.looks, .work key work, store⟩ : Call).Breaks)
    (h : Calls ⟨fuel, context.looks, .work key work, store⟩ q) (hf : Few q.store.history) :
    q.Ready := by
  have hlooks (hc : work.Changes store key) : context.looks key = 0 := by
    by_contra hn
    exact hb ⟨key, work, rfl, hn, hc⟩
  cases h with
  | building =>
      rw [Work.weight] at hfuel
      exact Fits.ready (context.entering key) ⟨hk.enter key, by omega⟩
  | @failed _ _ _ name kind building failed atRelease _ inner after resource full ran built =>
      rw [Work.weight] at hfuel
      cases built
      have ha := ((keeping fuel).runSteps building (hk.enter key) (by omega)).of_ok ran
        (hf.of_suffix (List.suffix_cons _ _))
      obtain ⟨hbuilt, hl, -⟩ := Keeping.built ha
      refine Fits.ready (context.entering key) ⟨hbuilt, hl, ?_⟩
      have hpos := weights_pos building
      simp only [Resource.cost]
      omega
  | @probe _ _ _ name kind building atRelease _ inner after resource full ran built =>
      rw [Work.weight] at hfuel
      cases built
      have ha := ((keeping fuel).runSteps building (hk.enter key) (by omega)).of_ok ran
        (hf.of_suffix (List.suffix_cons _ _))
      obtain ⟨hbuilt, hl, hnew⟩ := Keeping.built ha
      exact Fits.ready context ⟨hbuilt, hl, hnew, hlooks rfl⟩
  | text built =>
      cases built
      obtain ⟨hbuilt, hl, hnew⟩ := Keeping.built hk
      exact Fits.ready context ⟨hbuilt, hl, hnew, hlooks trivial⟩
  | @disposed _ _ _ name id _ resource after named taken =>
      obtain ⟨registry, ho, rfl⟩ := takeOut_eq_some taken
      have hissued := hk.recorded.issued key
      rcases Registry.dead_or (store.registries key) id with hdead | ⟨entry, hm, rfl⟩
      · rw [Registry.take_of_dead (hk.not_exclusive key) hdead] at ho
        cases ho
      have ha := hk.recorded.alive_of_mem hm
      have hfree := hk.borrow_eq_free key (hlooks ⟨_, _, named, ha⟩)
      rw [hissued.take_of_mem hfree hm] at ho
      cases ho
      have htake := hissued.take_of_mem hfree hm
      obtain ⟨hcost, hloose, hlost⟩ := hk.lose (hissued.loses_of_take hfree htake)
      have hmute : (Event.disposed key ((store.registries key).identity entry)
        (some entry.resource.number)).Mute := trivial
      have hnoted := hlost.note_mute hmute ⟨store.history, rfl, ha⟩
      exact Fits.ready (context.entering key)
        ⟨hnoted, hmute.loose_iff.mpr hloose, by omega⟩
  | body named found =>
      rw [Work.weight] at hfuel
      exact Fits.ready (context.lookingInto key) ⟨hk.share, by omega⟩
  | all => exact Fits.ready (context.entering key) ⟨hk, by omega, hlooks trivial⟩

theorem ready_step {fuel : Nat} {step : Step} (hk : Kept context none budget store)
    (hfuel : budget + step.weight ≤ fuel) (h : Calls ⟨fuel, context.looks, .step step, store⟩ q)
    (hf : Few q.store.history) : q.Ready := by
  cases h with
  | work is found =>
      rw [Step.weight_of_work? is] at hfuel
      exact Fits.ready context ⟨hk.hold_of_lookup found, by omega⟩
  | @worked fuel _ _ label work key _ report after is found ran =>
      rw [Step.weight_of_work? is] at hfuel
      have ha := ((keeping fuel).work work (hk.hold_of_lookup found) (by omega)).of_ok ran hf
      exact Fits.ready context ⟨ha, by omega⟩
  | replaced found =>
      rw [Step.weight] at hfuel
      exact Fits.ready context ⟨(hk.unbind found).making (not_mem_filter store.labels _), by omega⟩
  | dropped found =>
      rw [Step.weight] at hfuel
      exact Fits.ready context ⟨hk.unbind found, by omega⟩

-- A round finds the budget less by what it takes out, which is given back with its release.
theorem ready_drain {fuel : Nat} (hk : Kept context none budget store) (hfuel : budget + 1 ≤ fuel)
    (hlooks : context.looks key = 0) (h : Calls ⟨fuel, context.looks, .drain key, store⟩ q)
    (hf : Few q.store.history) : q.Ready := by
  cases h with
  | newest taken =>
      obtain ⟨hcost, hloose, hlost⟩ := hk.lose_newest taken
      exact Fits.ready context ⟨hlost, hloose, by omega⟩
  | @older fuel _ _ _ resource after released later taken ran =>
      obtain ⟨hcost, hloose, hlost⟩ := hk.lose_newest taken
      have hpos := resource.cost_pos
      have ha := ((keeping fuel).release key hlost hloose (by omega)).of_ok ran hf
      exact Fits.ready context ⟨ha, by omega, hlooks⟩

theorem Calls.ready (h : Calls p q) (hp : p.Ready) (hb : ¬p.Breaks) (hf : Few q.store.history) :
    q.Ready := by
  obtain ⟨fuel, looks, part, store⟩ := p
  obtain ⟨context, budget, rfl, hfits⟩ := hp
  cases part with
  | work key work => exact ready_work hfits.1 hfits.2 hb h hf
  | script first steps =>
      obtain ⟨rfl, rfl, hfuel⟩ : context = .none ∧ store = {} ∧ weights steps + 1 ≤ fuel := hfits
      have hfirst : Kept Context.none none 0 ((({} : Store).unbound first).making first) :=
        kept_empty.making List.not_mem_nil
      cases h with
      | start => exact Fits.ready Context.none ⟨hfirst, by omega⟩
      | ended ran =>
          have ha := ((keeping fuel).runSteps steps hfirst (by omega)).of_ok ran hf
          have hpos := weights_pos steps
          exact Fits.ready Context.none ⟨ha, by omega⟩
  | steps list =>
      obtain ⟨hk, hfuel⟩ : Kept context none budget store ∧ budget + weights list ≤ fuel := hfits
      cases h with
      | first =>
          rw [weights] at hfuel
          exact Fits.ready context ⟨hk, by omega⟩
      | @rest fuel _ step steps _ report after ran =>
          rw [weights] at hfuel
          have ha := ((keeping fuel).runStep step hk (by omega)).of_ok ran hf
          exact Fits.ready context ⟨ha, by omega⟩
  | step step => exact ready_step hfits.1 hfits.2 h hf
  | track key name kind resource =>
      obtain ⟨hk, -, -, hlooks⟩ := hfits
      cases h with
      | @displaced _ _ _ _ _ _ _ id old registry after registered changed =>
          -- what is registered by now counts, so a serial was left and nothing had it
          cases changed
          have hs : .registered key resource.number id :: store.history <:+
            .taken key old.number :: .registered key resource.number id :: store.history :=
            List.suffix_cons _ _
          have hc := hf.of_suffix hs key
          rw [registrations_registered, if_pos rfl] at hc
          have hfree := hk.borrow_eq_free key hlooks
          rw [(hk.recorded.issued key).register_eq hc hfree kind resource] at registered
          cases registered
  | release key resource =>
      obtain ⟨hk, hl, hfuel⟩ : Kept context (some resource.number) budget store ∧
        Loose store.history resource.number ∧ budget + resource.cost ≤ fuel := hfits
      cases h with
      | handler is some =>
          rw [Resource.cost, is] at hfuel
          exact Fits.ready context ⟨(hk.release hl).enter key, by simp only at hfuel; omega⟩
  | drain key => exact ready_drain hfits.1 hfits.2.1 hfits.2.2 h hf
  | letGo key =>
      obtain ⟨hk, hfuel⟩ : Kept (context.entering key) none budget store ∧ budget + 2 ≤ fuel := hfits
      cases h with
      | last last =>
          have hlooks := hk.held.looks_eq_zero last
          exact Fits.ready (context.endingOf key) ⟨hk.unhold_last, by omega, hlooks⟩
  | dropAll labels =>
      obtain ⟨hk, hfuel⟩ : Kept context none budget store ∧ budget + 2 ≤ fuel := hfits
      cases h with
      | gone none => exact Fits.ready context ⟨hk, hfuel⟩
      | drop found => exact Fits.ready context ⟨hk.unbind found, hfuel⟩
      | @others fuel _ label labels key _ released after found ran =>
          have ha := ((keeping fuel).letGo key (hk.unbind found) hfuel).of_ok ran hf
          exact Fits.ready context ⟨ha, hfuel⟩

-- Every registry is borrowed by the bodies of looks into it that are under way, and by nothing else.
theorem Call.Ready.borrow_eq (h : call.Ready) (key : Nat) :
    (call.store.registries key).borrow = .ofLooks (call.looks key) := by
  obtain ⟨fuel, looks, part, store⟩ := call
  obtain ⟨context, budget, rfl, hfits⟩ := h
  cases part with
  | script first steps =>
      obtain ⟨rfl, rfl, -⟩ := hfits
      rfl
  | _ => exact hfits.1.held.borrow key

theorem Call.Ready.dead_iff (h : call.Ready) {key : Nat} {id : ResourceId} :
    (call.store.registries key).Dead id ↔ ∀ n, ¬Alive call.store.history key n id := by
  obtain ⟨fuel, looks, part, store⟩ := call
  obtain ⟨context, budget, rfl, hfits⟩ := h
  cases part with
  | script first steps =>
      obtain ⟨rfl, rfl, -⟩ := hfits
      exact recorded_empty.dead_iff
  | _ => exact hfits.1.recorded.dead_iff

theorem Call.Ready.not_exclusive (h : call.Ready) (key : Nat) :
    (call.store.registries key).borrow ≠ .exclusive := by
  rw [h.borrow_eq key]
  exact Borrow.ofLooks_ne_exclusive _

theorem Call.Ready.not_conflicts (h : call.Ready) (hb : ¬call.Breaks) (conflict : Conflict) :
    ¬call.Conflicts conflict := by
  intro hc
  cases hc with
  | @register _ _ key name kind resource store refused =>
      obtain ⟨context, budget, rfl, hk, -, -, hlooks⟩ := h
      have hfree := hk.borrow_eq_free key hlooks
      obtain ⟨id, displaced, after, ho⟩ := Registry.exists_register hfree kind resource
      rw [ho] at refused
      exact nomatch refused
  | @takeNewest _ _ key store refused =>
      obtain ⟨context, budget, rfl, hk, -, hlooks⟩ := h
      have hfree := hk.borrow_eq_free key hlooks
      obtain ⟨resource?, after, ho⟩ := Registry.exists_takeNewest hfree
      rw [ho] at refused
      exact nomatch refused
  | @take _ looks key name id store named refused =>
      obtain ⟨context, budget, rfl, hk, -⟩ := h
      rcases Registry.dead_or (store.registries key) id with hdead | ⟨entry, hm, rfl⟩
      · rw [Registry.take_of_dead (hk.not_exclusive key) hdead] at refused
        exact nomatch refused
      · have hlooks : context.looks key = 0 := by
          by_contra hn
          exact hb ⟨key, _, rfl, hn, _, _, named, hk.recorded.alive_of_mem hm⟩
        have hfree := hk.borrow_eq_free key hlooks
        rw [(hk.recorded.issued key).take_of_mem hfree hm] at refused
        exact nomatch refused
  | @isAlive _ _ key name id store named refused =>
      obtain ⟨alive, ha⟩ := Registry.exists_isAlive (h.not_exclusive key) id
      rw [ha] at refused
      exact nomatch refused
  | @look _ _ key name asText body id store named refused =>
      obtain ⟨answer, ha⟩ := Registry.exists_look (h.not_exclusive key) id
        (Resource.isOfType asText)
      rw [ha] at refused
      exact nomatch refused
  | @toRead _ _ key store refused =>
      have hr : (store.registries key).toRead = .ok () := if_neg (h.not_exclusive key)
      rw [hr] at refused
      exact nomatch refused

end Ready

section Whole

variable {first : String} {steps : List Step} {call : Call}

theorem ready_whole (first : String) (steps : List Step) : (whole first steps).Ready :=
  ⟨Context.none, 0, rfl, rfl, rfl, show weights steps + 1 ≤ 8 * weights steps + 64 by omega⟩

theorem Within.suffix (h : Within first steps call) :
    call.ending.2.history <:+ (run first steps).2.history := by
  induction h with
  | refl =>
      have he : (whole first steps).ending.2 = (run first steps).2 :=
        congrArg Prod.snd (run_discard _ _)
      rw [he]
  | tail _ last ih => exact last.suffix.trans ih

theorem Within.ready (h : Within first steps call) (few : Few (run first steps).2.history)
    (rule : ∀ call, Within first steps call → ¬call.Breaks) : call.Ready := by
  induction h with
  | refl => exact ready_whole first steps
  | @tail p q before last ih =>
      have hsuffix := q.grows.trans (Within.suffix (before.tail last))
      exact last.ready ih (rule p before) (few.of_suffix hsuffix)

-- What a part finds that starts while bodies of looks are under way, or inside an operation that
-- makes a resource or lets go of one. The registries can be read whatever looks into them, and what
-- is dead can be disposed of again.
structure Call.Clear (call : Call) : Prop where
  borrow : ∀ key, (call.store.registries key).borrow = .ofLooks (call.looks key)
  isAlive : ∀ key id, ∃ alive, (call.store.registries key).isAlive id = .ok alive
  look : ∀ key id (view : Resource → Option Resource),
    ∃ answer, (call.store.registries key).look id view = .ok answer
  toRead : ∀ key, (call.store.registries key).toRead = .ok ()
  dead : ∀ key id, (∀ n, ¬Alive call.store.history key n id) →
    (call.store.registries key).take id = .ok (none, call.store.registries key)

theorem Call.Ready.clear (h : call.Ready) : call.Clear where
  borrow := h.borrow_eq
  isAlive key := Registry.exists_isAlive (h.not_exclusive key)
  look key := Registry.exists_look (h.not_exclusive key)
  toRead key := if_neg (h.not_exclusive key)
  dead key _ hn := Registry.take_of_dead (h.not_exclusive key) (h.dead_iff.mpr hn)

-- A script that keeps to the rule comes to its end.
theorem exists_answers (few : Few (run first steps).2.history)
    (rule : ∀ call, Within first steps call → ¬call.Breaks) :
    ∃ answers, (run first steps).1 = .ok answers := by
  rcases (holds_script first steps).ends_or_breach few with ⟨answers, after, hr, -⟩ |
    ⟨stop, after, hr, access, others, -, rfl⟩
  · exact ⟨answers, congrArg Prod.fst hr⟩
  · have hfails : (whole first steps).Fails ⟨access, .shared others⟩ :=
      (Call.fails_iff rfl).mpr (congrArg Prod.fst hr)
    obtain ⟨inner, hi, hc⟩ := hfails.exists_conflicts
    exact absurd hc ((Within.ready hi few rule).not_conflicts (rule inner hi) _)

end Whole

end SyntaxHandles.RegistryScript
