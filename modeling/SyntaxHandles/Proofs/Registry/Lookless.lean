import SyntaxHandles.Proofs.Registry.Reentry
import SyntaxHandles.Proofs.Registry.Reuse

-- Resources that look at nothing when they are released. What is run on top of them can make more,
-- and dispose of anything; as long as it does not look at anything either, no registry is ever
-- looked into.

namespace SyntaxHandles.RegistryScript

open Effect Relation

mutual

-- No look stands in a step, nor in what it runs, nor in what the release of what it makes runs.
def Step.lookless : Step → Bool
  | .acquireProbe _ _ _ building _ atRelease => lookless building && lookless atRelease
  | .look .. => false
  | _ => true

def lookless : List Step → Bool
  | [] => true
  | step :: steps => step.lookless && lookless steps

end

def Work.lookless : Work → Bool
  | .acquireProbe _ _ building _ atRelease =>
    RegistryScript.lookless building && RegistryScript.lookless atRelease
  | .look .. => false
  | _ => true

def Resource.lookless (resource : Resource) : Bool :=
  match resource.contents with
  | .text => true
  | .probe steps => RegistryScript.lookless steps

def Part.lookless : Part → Bool
  | .script _ list | .steps list => RegistryScript.lookless list
  | .step one => one.lookless
  | .work _ task => task.lookless
  | .track _ _ _ resource | .release _ resource => resource.lookless
  | .drain _ | .letGo _ | .dropAll _ => true

theorem lookless_of_work? {step : Step} {label : String} {work : Work}
    (hw : step.work? = some (label, work)) (hl : step.lookless = true) : work.lookless = true := by
  cases step <;> cases hw <;> exact hl

def Sightless (registry : Registry Resource) : Prop :=
  ∀ entry ∈ registry.live, entry.resource.lookless = true

def Store.Sightless (store : Store) : Prop :=
  ∀ key, RegistryScript.Sightless (store.registries key)

-- What comes of a part of a run in a store where no release looks at anything is such a store again.
def Blind {α : Type} (x : Run α) (P : α → Prop := fun _ => True) : Prop :=
  ∀ store, store.Sightless →
    (x.run store).2.Sightless ∧ ∀ a, (x.run store).1 = .ok a → P a

section Parts

variable {α β : Type} {x : Run α} {f : α → Run β} {P : α → Prop} {Q : β → Prop} {a : α} {key : Nat}
  {store after : Store} {registry : Registry Resource}

theorem Store.Sightless.withRegistry (h : store.Sightless)
    (hr : RegistryScript.Sightless registry) : (store.withRegistry key registry).Sightless := by
  intro k
  by_cases hk : k = key
  · rw [hk, Store.withRegistry_same]
    exact hr
  · rw [Store.withRegistry_of_ne hk]
    exact h k

namespace Blind

theorem pure (ha : P a) : Blind (pure a) P := fun _ hs =>
  ⟨hs, fun _ h => Except.ok.inj h ▸ ha⟩

theorem throw (stop : Stop) : Blind (throw stop : Run α) P := fun _ hs => ⟨hs, nofun⟩

theorem get : Blind (get : Run Store) := fun _ hs => ⟨hs, fun _ _ => trivial⟩

theorem bind (hx : Blind x P) (hf : ∀ a, P a → Blind (f a) Q) : Blind (x >>= f) Q := by
  intro store hs
  obtain ⟨hafter, ha⟩ := hx store hs
  rw [run_bind]
  rcases hr : x.run store with ⟨stop | a, after⟩ <;> rw [hr] at hafter ha
  · exact ⟨hafter, nofun⟩
  · exact hf a (ha a rfl) after hafter

theorem last {g : α → β} (hx : Blind x P) : Blind (x >>= fun a => Pure.pure (g a)) :=
  hx.bind fun _ _ => .pure trivial

theorem modify {g : Store → Store} (hg : ∀ store, (g store).registries = store.registries) :
    Blind (modify g : Run Unit) := fun store hs =>
  ⟨fun key => by rw [run_modify, hg]; exact hs key, fun _ _ => trivial⟩

theorem of_run (h : Blind x P) (hr : x.run store = (.ok a, after)) (hs : store.Sightless) :
    after.Sightless ∧ P a := by
  have hx := h store hs
  rw [hr] at hx
  exact ⟨hx.1, hx.2 a rfl⟩

theorem act {operation : Registry Resource → Except Conflict (α × Registry Resource)}
    (ho : ∀ registry a after, RegistryScript.Sightless registry →
      operation registry = .ok (a, after) → RegistryScript.Sightless after ∧ P a) :
    Blind (act key operation) P := by
  intro store hs
  rcases hr : operation (store.registries key) with conflict | ⟨a, after⟩
  · rw [run_act_error operation hr]
    exact ⟨hs, nofun⟩
  · obtain ⟨hafter, ha⟩ := ho _ a after (hs key) hr
    rw [run_act_ok operation hr]
    exact ⟨hs.withRegistry hafter, fun _ h => Except.ok.inj h ▸ ha⟩

theorem ask (question : Registry Resource → Except Conflict α) :
    Blind (ask key question) := by
  refine .act fun registry a after hs ho => ⟨?_, trivial⟩
  cases hq : question registry <;> rw [hq] at ho
  · exact nomatch ho
  · cases ho
    exact hs

theorem setBorrow (key : Nat) (borrow : Borrow) :
    Blind (change key fun registry => { registry with borrow }) :=
  .act fun _ _ _ hs ho => by
    cases ho
    exact ⟨hs, trivial⟩

theorem note (event : Event) : Blind (note event) := .modify fun _ => rfl

theorem enter (key : Nat) : Blind (enter key) := Blind.get.bind fun _ _ => .note _

theorem build (label : String) (contents : Contents) (hl : ∀ number,
    Resource.lookless ⟨number, label, contents⟩ = true) :
    Blind (build label contents) (·.lookless = true) :=
  Blind.get.bind fun _ _ => Blind.bind (.modify fun _ => rfl) fun _ _ =>
    (Blind.note _).bind fun _ _ => .pure (hl _)

theorem bindName (name : String) (id : ResourceId) : Blind (bindName name id) :=
  .modify fun _ => rfl

theorem unbindLabel (label : String) : Blind (unbindLabel label) :=
  .modify fun _ => rfl

theorem unhold (key : Nat) : Blind (unhold key) := fun _ hs =>
  ⟨hs, fun _ _ => trivial⟩

theorem create (label : String) : Blind (create label) :=
  (unbindLabel label).bind fun _ _ => Blind.get.bind fun _ _ =>
    Blind.bind (.modify fun _ => rfl) fun _ _ => .modify fun _ => rfl

theorem keyOf? (label : String) : Blind (keyOf? label) := Blind.get.last

theorem takeOut
    {operation : Registry Resource → Except Conflict (Option Resource × Registry Resource)}
    (ho : ∀ registry resource? after, operation registry = .ok (resource?, after) →
      after.live.Sublist registry.live ∧
        ∀ resource, resource? = some resource → ∃ entry ∈ registry.live, entry.resource = resource) :
    Blind (takeOut key operation) fun resource? =>
      ∀ resource, resource? = some resource → resource.lookless = true := by
  refine Blind.bind (P := fun resource? => ∀ resource, resource? = some resource →
    resource.lookless = true) (.act fun registry resource? after hs hr => ?_) fun resource? hl => ?_
  · obtain ⟨hlive, htaken⟩ := ho registry resource? after hr
    refine ⟨fun entry hm => hs entry (hlive.subset hm), fun resource he => ?_⟩
    obtain ⟨entry, hm, rfl⟩ := htaken resource he
    exact hs entry hm
  · cases resource? with
    | none => exact .pure hl
    | some resource => exact (Blind.note _).bind fun _ _ => .pure hl

theorem within {label : String} {letGo : Nat → Run (List Release)} {part : Nat → Run Report}
    (hp : ∀ key, Blind (part key)) (hl : ∀ key, Blind (letGo key)) :
    Blind (within label letGo part) := by
  refine (keyOf? label).bind fun key? _ => ?_
  cases key? with
  | none => exact .pure trivial
  | some key =>
      exact Blind.bind (.modify fun _ => rfl) fun _ _ => (hp key).bind fun ⟨_, _, _⟩ _ =>
        (hl key).last

theorem withName {name : String} {part : ResourceId → Run Report}
    (hp : ∀ id, Blind (part id)) : Blind (withName name part) := by
  refine Blind.get.bind fun store _ => ?_
  cases store.names.lookup name with
  | none => exact .pure trivial
  | some id => exact hp id

theorem take (key : Nat) (id : ResourceId) : Blind (RegistryScript.takeOut key (·.take id))
    fun resource? => ∀ resource, resource? = some resource → resource.lookless = true :=
  .takeOut fun registry resource? after ho => by
    refine ⟨(Registry.take_sublist ho).2, ?_⟩
    rintro resource rfl
    obtain ⟨-, ⟨entry, hm, -, he⟩, -⟩ := Registry.dead_of_take ho
    exact ⟨entry, hm, he⟩

theorem takeNewest (key : Nat) : Blind (RegistryScript.takeOut key (·.takeNewest))
    fun resource? => ∀ resource, resource? = some resource → resource.lookless = true :=
  .takeOut fun registry resource? after ho => by
    refine ⟨(Registry.takeNewest_sublist ho).2, ?_⟩
    rintro resource rfl
    obtain ⟨entry, he, hperm⟩ := (Registry.loses_of_takeNewest ho).perm
    exact ⟨entry, hperm.mem_iff.mpr (.head _), he⟩

theorem register {kind : ResourceKind} {resource : Resource} (hl : resource.lookless = true) :
    Blind (RegistryScript.act key fun registry => do
      let (id, displaced, registry) ← registry.register kind resource
      return ((id, displaced), registry)) fun registered =>
        ∀ old, registered.2 = some old → old.lookless = true :=
  .act fun registry registered after hs ho => by
    rcases hr : registry.register kind resource with conflict | ⟨id, displaced, grown⟩ <;>
      rw [hr] at ho
    · exact nomatch ho
    · cases ho
      obtain ⟨hold, hnew⟩ := Registry.mem_of_register hr
      refine ⟨fun entry hm => ?_, fun old he => ?_⟩
      · rcases hnew entry hm with he | hm
        · exact he ▸ hl
        · exact hs entry hm
      · obtain ⟨entry, hm, rfl⟩ := hold old he
        exact hs entry hm

end Blind

end Parts

-- All that runs with the same fuel.
structure Blinding (fuel : Nat) : Prop where
  runSteps : ∀ {steps}, lookless steps = true → Blind (runSteps fuel steps)
  release : ∀ key {resource : Resource}, resource.lookless = true →
    Blind (release fuel key resource)
  drain : ∀ key, Blind (drain fuel key)
  letGo : ∀ key, Blind (letGo fuel key)
  track : ∀ key name kind {resource : Resource}, resource.lookless = true →
    Blind (track fuel key name kind resource)
  runStep : ∀ {step : Step}, step.lookless = true → Blind (runStep fuel step)

namespace Blinding

variable {fuel : Nat}

theorem runSteps_succ (h : Blinding fuel) {steps : List Step} (hl : lookless steps = true) :
    Blind (RegistryScript.runSteps (fuel + 1) steps) := by
  cases steps with
  | nil => exact .pure trivial
  | cons step steps =>
      obtain ⟨hstep, hsteps⟩ := (Bool.and_eq_true _ _).mp hl
      exact (h.runStep hstep).bind fun _ _ => (h.runSteps hsteps).last

theorem release_succ (h : Blinding fuel) (key : Nat) {resource : Resource}
    (hl : resource.lookless = true) :
    Blind (RegistryScript.release (fuel + 1) key resource) := by
  refine (Blind.note _).bind fun _ _ => ?_
  split
  · exact .pure trivial
  · exact .pure trivial
  · next steps _ hc =>
      rw [Resource.lookless, hc] at hl
      exact (Blind.enter key).bind fun _ _ => (h.runSteps hl).last

theorem drain_succ (h : Blinding fuel) (key : Nat) :
    Blind (RegistryScript.drain (fuel + 1) key) := by
  refine (Blind.takeNewest key).bind fun resource? hl => ?_
  cases resource? with
  | none => exact .pure trivial
  | some resource => exact (h.release key (hl _ rfl)).bind fun _ _ => (h.drain key).last

theorem letGo_succ (h : Blinding fuel) (key : Nat) :
    Blind (RegistryScript.letGo (fuel + 1) key) := by
  refine (Blind.unhold key).bind fun last _ => ?_
  cases last with
  | false => exact .pure trivial
  | true => exact h.drain key

theorem track_succ (h : Blinding fuel) (key : Nat) (name : String) (kind : ResourceKind)
    {resource : Resource} (hl : resource.lookless = true) :
    Blind (RegistryScript.track (fuel + 1) key name kind resource) := by
  refine (Blind.register hl).bind fun ⟨id, displaced⟩ hold => (Blind.note _).bind fun _ _ => ?_
  cases displaced with
  | none => exact Blind.bind (.pure trivial) fun _ (_ : True) => (Blind.bindName name id).last
  | some old =>
      exact (Blind.note _).bind fun _ _ => (Blind.setBorrow key .exclusive).bind fun _ _ =>
        (h.release key (hold old rfl)).bind fun _ _ =>
          (Blind.setBorrow key .free).bind fun _ _ =>
            Blind.bind (.pure trivial) fun _ (_ : True) => (Blind.bindName name id).last

theorem work (h : Blinding fuel) (key : Nat) {work : Work} (hl : work.lookless = true) :
    Blind (work.run fuel key) := by
  cases work with
  | acquireProbe name kind building failure atRelease =>
      obtain ⟨hbuilding, hrelease⟩ := (Bool.and_eq_true _ _).mp hl
      refine (Blind.enter key).bind fun _ _ => (h.runSteps hbuilding).bind fun _ _ =>
        (Blind.build name (.probe atRelease) fun _ => hrelease).bind fun resource hr => ?_
      cases failure with
      | none => exact (h.track key name kind hr).bind fun ⟨_, _, _⟩ _ => .pure trivial
      | some failed => exact (h.release key hr).last
  | acquireText name kind =>
      exact (Blind.build name .text fun _ => rfl).bind fun _ hr => h.track key name kind hr
  | dispose name =>
      refine .withName fun id => (Blind.take key id).bind fun resource? hr =>
        (Blind.note _).bind fun _ _ => ?_
      cases resource? with
      | none => exact .pure trivial
      | some resource => exact (h.release key (hr _ rfl)).last
  | isAlive name =>
      exact .withName fun id => (Blind.ask _).bind fun _ _ => (Blind.note _).last
  | look name asText body => exact nomatch hl
  | liveCount => exact (Blind.ask _).bind fun _ _ => Blind.get.last
  | disposeAll => exact (h.drain key).last

theorem runStep_succ (h : Blinding fuel) {step : Step} (hl : step.lookless = true) :
    Blind (RegistryScript.runStep (fuel + 1) step) := by
  cases hw : step.work? with
  | some labelled =>
      obtain ⟨label, work⟩ := labelled
      rw [runStep_of_work? hw]
      exact .within (fun key => h.work key (lookless_of_work? hw hl)) h.letGo
  | none =>
      cases step with
      | create label =>
          refine (Blind.keyOf? label).bind fun old _ => (Blind.create label).bind fun _ _ => ?_
          cases old with
          | none => exact .pure trivial
          | some key => exact (h.letGo key).last
      | drop label =>
          refine (Blind.keyOf? label).bind fun key? _ => ?_
          cases key? with
          | none => exact .pure trivial
          | some key =>
              exact (Blind.unbindLabel label).bind fun _ _ => (h.letGo key).last
      | same name other =>
          exact .withName fun _ => .withName fun _ => .pure trivial
      | _ => exact nomatch hw

end Blinding

theorem blinding (fuel : Nat) : Blinding fuel := by
  induction fuel with
  | zero =>
      refine ⟨fun {steps} _ => ?_, fun _ _ _ => .throw _, fun _ => .throw _, fun _ => .throw _,
        fun _ _ _ _ _ => .throw _, fun _ => .throw _⟩
      cases steps <;> exact .throw _
  | succ fuel ih =>
      exact ⟨ih.runSteps_succ, ih.release_succ, ih.drain_succ, ih.letGo_succ, ih.track_succ,
        ih.runStep_succ⟩

-- Nothing is looked into, and nothing that this runs or finds will look into anything.
structure Call.Blind (call : Call) : Prop where
  looks : ∀ key, call.looks key = 0
  part : call.part.lookless = true
  store : call.store.Sightless

section Calls

variable {first : String} {steps : List Step} {p q call : Call}

theorem Calls.blind (h : Calls p q) (hp : p.Blind) : q.Blind := by
  obtain ⟨hlooks, hpart, hs⟩ := hp
  cases h with
  | first => exact ⟨hlooks, ((Bool.and_eq_true _ _).mp hpart).1, hs⟩
  | rest ran =>
      obtain ⟨hstep, hsteps⟩ := (Bool.and_eq_true _ _).mp hpart
      exact ⟨hlooks, hsteps, (((blinding _).runStep hstep).of_run ran hs).1⟩
  | work is found => exact ⟨hlooks, lookless_of_work? is hpart, hs⟩
  | worked is found ran =>
      exact ⟨hlooks, rfl, (((blinding _).work _ (lookless_of_work? is hpart)).of_run ran hs).1⟩
  | replaced found => exact ⟨hlooks, rfl, hs⟩
  | dropped found => exact ⟨hlooks, rfl, hs⟩
  | building => exact ⟨hlooks, ((Bool.and_eq_true _ _).mp hpart).1, hs⟩
  | failed ran built =>
      obtain ⟨hbuilding, hrelease⟩ := (Bool.and_eq_true _ _).mp hpart
      have hafter := (((blinding _).runSteps hbuilding).of_run ran hs).1
      obtain ⟨hfull, hl⟩ := (Blind.build _ (.probe _) fun _ => hrelease).of_run built hafter
      exact ⟨hlooks, hl, hfull⟩
  | probe ran built =>
      obtain ⟨hbuilding, hrelease⟩ := (Bool.and_eq_true _ _).mp hpart
      have hafter := (((blinding _).runSteps hbuilding).of_run ran hs).1
      obtain ⟨hfull, hl⟩ := (Blind.build _ (.probe _) fun _ => hrelease).of_run built hafter
      exact ⟨hlooks, hl, hfull⟩
  | text built =>
      obtain ⟨hfull, hl⟩ := (Blind.build _ .text fun _ => rfl).of_run built hs
      exact ⟨hlooks, hl, hfull⟩
  | displaced registered changed =>
      obtain ⟨hgrown, hl⟩ := (Blind.register hpart).of_run (run_register_ok registered) hs
      exact ⟨hlooks, hl _ rfl, ((Blind.setBorrow _ _).of_run changed hgrown).1⟩
  | disposed named taken =>
      obtain ⟨hafter, hl⟩ := (Blind.take _ _).of_run taken hs
      exact ⟨hlooks, hl _ rfl, hafter⟩
  | body named found => exact nomatch hpart
  | all => exact ⟨hlooks, rfl, hs⟩
  | handler is some =>
      rw [Part.lookless, Resource.lookless, is] at hpart
      exact ⟨hlooks, hpart, hs⟩
  | newest taken =>
      obtain ⟨hafter, hl⟩ := (Blind.takeNewest _).of_run taken hs
      exact ⟨hlooks, hl _ rfl, hafter⟩
  | older taken ran =>
      obtain ⟨hafter, hl⟩ := (Blind.takeNewest _).of_run taken hs
      exact ⟨hlooks, rfl, (((blinding _).release _ (hl _ rfl)).of_run ran hafter).1⟩
  | last last => exact ⟨hlooks, rfl, hs⟩
  | start => exact ⟨hlooks, hpart, hs⟩
  | ended ran => exact ⟨hlooks, rfl, (((blinding _).runSteps hpart).of_run ran hs).1⟩
  | gone none => exact ⟨hlooks, rfl, hs⟩
  | drop found => exact ⟨hlooks, rfl, hs⟩
  | others found ran => exact ⟨hlooks, rfl, (((blinding _).letGo _).of_run ran hs).1⟩

theorem blind_of_within (hi : ReflTransGen Calls p q) (hp : p.Blind) : q.Blind := by
  induction hi with
  | refl => exact hp
  | tail _ last ih => exact last.blind ih

-- In a script that looks at nothing, nothing is ever looked into.
theorem blind_whole (first : String) (hl : lookless steps = true) : (whole first steps).Blind :=
  ⟨fun _ => rfl, hl, fun _ _ hm => nomatch hm⟩

theorem not_breaks_of_looks (hl : ∀ key, call.looks key = 0) : ¬call.Breaks :=
  fun ⟨key, _, _, hn, _⟩ => hn (hl key)

-- A look that is under way goes on while a part of its body runs.
theorem Calls.looks_le (h : Calls p q) (key : Nat) : p.looks key ≤ q.looks key := by
  cases h with
  | body => exact Nat.le_add_right _ _
  | _ => exact Nat.le_refl _

-- Where nothing is looked into, nothing was on the way there.
theorem Within.ready_of_looks (h : Within first steps call) (few : Few (run first steps).2.history)
    (hl : ∀ key, call.looks key = 0) : call.Ready := by
  induction h with
  | refl => exact ready_whole first steps
  | @tail p q before last ih =>
      have hp : ∀ key, p.looks key = 0 := fun key => by
        have hle := last.looks_le key
        rw [hl key] at hle
        exact Nat.le_zero.mp hle
      have hsuffix := q.grows.trans (Within.suffix (before.tail last))
      exact last.ready (ih hp) (not_breaks_of_looks hp) (few.of_suffix hsuffix)

end Calls

end SyntaxHandles.RegistryScript
