import SyntaxHandles.Proofs.Registry.Calls

-- The single moves that a run makes in its store. Every part of a run makes a number of them one
-- after the other, whether it comes to its end or is stopped, and with any serials left or none.

namespace SyntaxHandles

-- Another state of a registry in which nothing was registered since, though entries may be lost.
structure Registry.Lessens {ρ : Type} (registry after : Registry ρ) : Prop where
  id : after.id = registry.id
  next : after.nextSerial = registry.nextSerial
  live : after.live.Sublist registry.live

section Lessens

variable {ρ : Type} {registry after : Registry ρ} {resource? : Option ρ}

theorem Registry.Lessens.of_take {id : ResourceId}
    (ht : registry.take id = .ok (resource?, after)) : registry.Lessens after where
  id := (take_eq_ok ht).1
  next := (take_sublist ht).1
  live := (take_sublist ht).2

theorem Registry.Lessens.of_takeNewest (ht : registry.takeNewest = .ok (resource?, after)) :
    registry.Lessens after where
  id := (takeNewest_eq_ok ht).1
  next := (takeNewest_sublist ht).1
  live := (takeNewest_sublist ht).2

theorem Registry.lessens_borrow (registry : Registry ρ) (borrow : Borrow) :
    registry.Lessens { registry with borrow } :=
  ⟨rfl, rfl, .refl _⟩

theorem Registry.lessens_share (registry : Registry ρ) : registry.Lessens registry.share := by
  unfold share
  split <;> exact registry.lessens_borrow _

theorem Registry.lessens_unshare (registry : Registry ρ) : registry.Lessens registry.unshare := by
  unfold unshare
  split <;> exact registry.lessens_borrow _

end Lessens

namespace RegistryScript

open Effect Relation

-- The store when one more resource is built.
def Store.constructed (store : Store) : Store :=
  ({ store with built := store.built + 1 } : Store).noted (.built store.built)

-- Nothing has happened since the resource was built.
def Store.Latest (store : Store) (resource : Resource) : Prop :=
  ∃ earlier, store.history = .built resource.number :: earlier

-- An event that is noted for itself, after the change that it tells of or without any.
def Event.Plain : Event → Prop
  | built .. | registered .. => False
  | _ => True

inductive Move : Store → Store → Prop
  -- Labels, names and holders change.
  | arrange {store after} (history : after.history = store.history)
      (registries : after.registries = store.registries) (built : after.built = store.built) :
      Move store after
  | note {store} (event : Event) (plain : event.Plain) : Move store (store.noted event)
  | lessen {store key registry} (lessens : (store.registries key).Lessens registry) :
      Move store (store.withRegistry key registry)
  | build {store} : Move store store.constructed
  | register {store key kind resource id displaced registry} (latest : store.Latest resource)
      (registered : (store.registries key).register kind resource =
        .ok (id, displaced, registry)) :
      Move store ((store.withRegistry key registry).noted (.registered key resource.number id))

namespace Move

variable (store : Store) (key : Nat) (label : String)

theorem entered : Move store (store.entered key) := .note (.entered ..) trivial

theorem holding : Move store (store.holding key) := .arrange rfl rfl rfl

theorem unholding : Move store (store.unholding key) := .arrange rfl rfl rfl

theorem unbound : Move store (store.unbound label) := .arrange rfl rfl rfl

theorem making : Move store ((store.unbound label).making label) := .arrange rfl rfl rfl

end Move

abbrev Moves : Store → Store → Prop :=
  ReflTransGen Move

-- A part of a run makes moves only.
def Goes {α : Type} (x : Run α) (store : Store) : Prop :=
  Moves store (x.run store).2

section Parts

variable {α β : Type} {x : Run α} {f : α → Run β} {store after : Store} {a : α} {key : Nat}

namespace Goes

theorem pure (a : α) (store : Store) : Goes (pure a) store := .refl

theorem throw (stop : Stop) (store : Store) : Goes (throw stop : Run α) store := .refl

theorem get (store : Store) : Goes (get : Run Store) store := .refl

theorem bind (hx : Goes x store) (hf : ∀ a after, Goes (f a) after) : Goes (x >>= f) store := by
  rw [Goes] at hx ⊢
  rw [run_bind]
  rcases hr : x.run store with ⟨_ | a, after⟩ <;> rw [hr] at hx
  · exact hx
  · exact hx.trans (hf a after)

theorem next (hr : x.run store = (.ok a, after)) (hm : Moves store after)
    (hf : Goes (f a) after) : Goes (x >>= f) store := by
  rw [Goes, run_bind, hr]
  exact hm.trans hf

-- A last part only puts results together.
theorem last {g : α → β} (hx : Goes x store) : Goes (x >>= fun a => Pure.pure (g a)) store :=
  hx.bind fun _ => .pure _

theorem modify {g : Store → Store} (hh : (g store).history = store.history)
    (hr : (g store).registries = store.registries) (hb : (g store).built = store.built) :
    Goes (modify g : Run Unit) store := .single (.arrange hh hr hb)

theorem note (event : Event) (hp : event.Plain) (store : Store) :
    Goes (RegistryScript.note event) store :=
  .single (.note event hp)

theorem enter (key : Nat) (store : Store) : Goes (enter key) store := .single (.entered store key)

theorem act {operation : Registry Resource → Except Conflict (α × Registry Resource)}
    (ho : ∀ a registry, operation (store.registries key) = .ok (a, registry) →
      (store.registries key).Lessens registry) : Goes (act key operation) store := by
  rw [Goes]
  rcases hr : operation (store.registries key) with conflict | ⟨a, registry⟩
  · rw [run_act_error operation hr]
  · rw [run_act_ok operation hr]
    exact .single (.lessen (ho a registry hr))

theorem change {g : Registry Resource → Registry Resource}
    (hg : ∀ registry : Registry Resource, registry.Lessens (g registry)) (store : Store) :
    Goes (RegistryScript.change key g) store :=
  act fun _ _ ho => by
    cases ho
    exact hg _

theorem setBorrow (key : Nat) (borrow : Borrow) (store : Store) :
    Goes (RegistryScript.change key fun registry => { registry with borrow }) store :=
  change (·.lessens_borrow borrow) store

theorem ask (question : Registry Resource → Except Conflict α) (store : Store) :
    Goes (ask key question) store := by
  refine act fun a registry ho => ?_
  cases hq : question (store.registries key) <;> rw [hq] at ho <;> cases ho
  exact ⟨rfl, rfl, .refl _⟩

theorem takeOut
    {operation : Registry Resource → Except Conflict (Option Resource × Registry Resource)}
    (ho : ∀ a registry, operation (store.registries key) = .ok (a, registry) →
      (store.registries key).Lessens registry) : Goes (takeOut key operation) store := by
  refine (act ho).bind fun resource? after => ?_
  cases resource? with
  | none => exact .pure _ _
  | some resource => exact (Goes.note (.taken ..) trivial after).last

theorem take (key : Nat) (id : ResourceId) (store : Store) :
    Goes (RegistryScript.takeOut key (·.take id)) store :=
  .takeOut fun _ _ ho => .of_take ho

theorem takeNewest (key : Nat) (store : Store) :
    Goes (RegistryScript.takeOut key (·.takeNewest)) store :=
  .takeOut fun _ _ ho => .of_takeNewest ho

theorem keyOf? (label : String) (store : Store) : Goes (keyOf? label) store := .refl

theorem hold (key : Nat) (store : Store) : Goes (hold key) store := .single (.holding store key)

theorem unhold (key : Nat) (store : Store) : Goes (unhold key) store :=
  .single (.unholding store key)

theorem unbindLabel (label : String) (store : Store) : Goes (unbindLabel label) store :=
  .single (.unbound store label)

theorem create (label : String) (store : Store) : Goes (create label) store :=
  .single (.making store label)

theorem acquired (name : String) (id : ResourceId) (released : List Release) (store : Store) :
    Goes (do
      bindName name id
      return Report.mk (.acquired id) [] released) store :=
  Goes.last (.modify rfl rfl rfl)

theorem within {label : String} {letGo : Nat → Run (List Release)} {part : Nat → Run Report}
    (hp : ∀ key store, Goes (part key) store) (hl : ∀ key store, Goes (letGo key) store)
    (store : Store) : Goes (within label letGo part) store := by
  refine (keyOf? label store).bind fun key? after => ?_
  cases key? with
  | none => exact .pure _ _
  | some key =>
      exact (hold key after).bind fun _ held => (hp key held).bind fun ⟨_, _, _⟩ later =>
        (hl key later).last

theorem withName {name : String} {part : ResourceId → Run Report}
    (hp : ∀ id store, Goes (part id) store) (store : Store) :
    Goes (withName name part) store := by
  refine (Goes.get store).bind fun now after => ?_
  cases now.names.lookup name with
  | none => exact .pure _ _
  | some id => exact hp id after

end Goes

theorem moves_of_ran {r : Except Stop α} (hr : x.run store = (r, after)) (h : Goes x store) :
    Moves store after := by
  rwa [Goes, hr] at h

theorem latest_constructed (store : Store) (label : String) (contents : Contents) :
    store.constructed.Latest ⟨store.built, label, contents⟩ :=
  ⟨store.history, rfl⟩

end Parts

-- All that runs with the same fuel. What is tracked is tracked as soon as it is built.
structure Going (fuel : Nat) : Prop where
  runSteps : ∀ steps store, Goes (runSteps fuel steps) store
  release : ∀ key resource store, Goes (release fuel key resource) store
  drain : ∀ key store, Goes (drain fuel key) store
  letGo : ∀ key store, Goes (letGo fuel key) store
  track : ∀ key name kind {resource : Resource} {store : Store}, store.Latest resource →
    Goes (track fuel key name kind resource) store
  runStep : ∀ step store, Goes (runStep fuel step) store

namespace Going

variable {fuel : Nat}

theorem runSteps_succ (h : Going fuel) (steps : List Step) (store : Store) :
    Goes (RegistryScript.runSteps (fuel + 1) steps) store := by
  cases steps with
  | nil => exact .pure _ _
  | cons step steps =>
      exact (h.runStep step store).bind fun _ after => (h.runSteps steps after).last

theorem release_succ (h : Going fuel) (key : Nat) (resource : Resource) (store : Store) :
    Goes (RegistryScript.release (fuel + 1) key resource) store := by
  refine (Goes.note (.released _) trivial store).bind fun _ after => ?_
  split
  · exact .pure _ _
  · exact .pure _ _
  · exact (Goes.enter key after).bind fun _ entered => (h.runSteps _ entered).last

theorem drain_succ (h : Going fuel) (key : Nat) (store : Store) :
    Goes (RegistryScript.drain (fuel + 1) key) store := by
  refine (Goes.takeNewest key store).bind fun resource? after => ?_
  cases resource? with
  | none => exact .pure _ _
  | some resource =>
      exact (h.release key resource after).bind fun _ later => (h.drain key later).last

theorem letGo_succ (h : Going fuel) (key : Nat) (store : Store) :
    Goes (RegistryScript.letGo (fuel + 1) key) store := by
  refine (Goes.unhold key store).bind fun last after => ?_
  cases last with
  | false => exact .pure _ _
  | true => exact h.drain key after

theorem track_succ (h : Going fuel) (key : Nat) (name : String) (kind : ResourceKind)
    {resource : Resource} {store : Store} (hl : store.Latest resource) :
    Goes (RegistryScript.track (fuel + 1) key name kind resource) store := by
  rcases hr : (store.registries key).register kind resource with
    conflict | ⟨id, displaced, registry⟩
  · rw [Goes, RegistryScript.track, run_bind, run_register_error hr]
  -- registering and noting it are one move
  rw [Goes, RegistryScript.track, run_bind, run_register_ok hr]
  refine ReflTransGen.head (.register hl hr) ?_
  cases displaced with
  | none => exact Goes.acquired name id [] _
  | some old =>
      exact (Goes.note (.taken ..) trivial _).bind fun _ taken =>
        (Goes.setBorrow key .exclusive taken).bind fun _ closed =>
          (h.release key old closed).bind fun released later =>
            (Goes.setBorrow key .free later).bind fun _ opened =>
              Goes.acquired name id released opened

theorem work (h : Going fuel) (key : Nat) (work : Work) (store : Store) :
    Goes (work.run fuel key) store := by
  cases work with
  | acquireProbe name kind building failure atRelease =>
      refine (Goes.enter key store).bind fun _ entered =>
        (h.runSteps building entered).bind fun _ made => ?_
      refine .next (run_build name (.probe atRelease) made) (.single .build) ?_
      cases failure with
      | none =>
          exact (h.track key name kind (latest_constructed made name _)).bind
            fun ⟨_, _, _⟩ => .pure _
      | some failed => exact (h.release key _ _).last
  | acquireText name kind =>
      exact .next (run_build name .text store) (.single .build)
        (h.track key name kind (latest_constructed store name _))
  | dispose name =>
      refine .withName (fun id now => (Goes.take key id now).bind fun resource? after =>
        (Goes.note (.disposed ..) trivial after).bind fun _ noted => ?_) store
      cases resource? with
      | none => exact .pure _ _
      | some resource => exact (h.release key resource noted).last
  | isAlive name =>
      exact .withName (fun id now => (Goes.ask (·.isAlive id) now).bind fun _ after =>
        (Goes.note (.asked ..) trivial after).last) store
  | look name asText body =>
      refine .withName (fun id now =>
        (Goes.ask (·.look id (Resource.isOfType asText)) now).bind fun answer after => ?_) store
      cases answer with
      | error fault => exact .pure _ _
      | ok resource =>
          exact (Goes.change Registry.lessens_share after).bind fun _ shared =>
            (h.runSteps body shared).bind fun _ ran =>
              (Goes.change Registry.lessens_unshare ran).last
  | liveCount =>
      exact (Goes.ask (·.toRead) store).bind fun _ after => (Goes.get after).last
  | disposeAll => exact (h.drain key store).last

theorem runStep_succ (h : Going fuel) (step : Step) (store : Store) :
    Goes (RegistryScript.runStep (fuel + 1) step) store := by
  cases hw : step.work? with
  | some labelled =>
      obtain ⟨label, work⟩ := labelled
      rw [runStep_of_work? hw]
      exact .within (fun key => h.work key work) h.letGo store
  | none =>
      cases step with
      | create label =>
          refine (Goes.keyOf? label store).bind fun old now =>
            (Goes.create label now).bind fun _ after => ?_
          cases old with
          | none => exact .pure _ _
          | some key => exact (h.letGo key after).last
      | drop label =>
          refine (Goes.keyOf? label store).bind fun key? now => ?_
          cases key? with
          | none => exact .pure _ _
          | some key =>
              exact (Goes.unbindLabel label now).bind fun _ after => (h.letGo key after).last
      | same name other =>
          exact .withName (fun _ => .withName fun _ => .pure _) store
      | _ => exact nomatch hw

end Going

theorem going (fuel : Nat) : Going fuel := by
  induction fuel with
  | zero =>
      refine ⟨fun steps _ => ?_, fun _ _ => .throw _, fun _ => .throw _, fun _ => .throw _,
        fun _ _ _ _ _ _ => .throw _ _, fun _ => .throw _⟩
      cases steps <;> exact .throw _ _
  | succ fuel ih =>
      exact ⟨ih.runSteps_succ, ih.release_succ, ih.drain_succ, ih.letGo_succ, ih.track_succ,
        ih.runStep_succ⟩

theorem goes_dropAll (fuel : Nat) (labels : List String) (store : Store) :
    Goes (dropAll fuel labels) store := by
  induction labels generalizing store with
  | nil => exact .pure _ _
  | cons label labels ih =>
      refine (Goes.keyOf? label store).bind fun key? now => ?_
      cases key? with
      | none => exact ih now
      | some key =>
          exact (Goes.unbindLabel label now).bind fun _ after =>
            ((going fuel).letGo key after).bind fun _ later => (ih later).last

theorem goes_script (fuel : Nat) (first : String) (steps : List Step) (store : Store) :
    Goes (script fuel first steps) store :=
  (Goes.create first store).bind fun _ made => ((going fuel).runSteps steps made).bind fun _ ran =>
    (Goes.get ran).bind fun _ after => (goes_dropAll fuel _ after).last

section Calls

variable {first : String} {steps : List Step} {p q call : Call}

-- What a part tracks was built right before.
def Call.Timely (call : Call) : Prop :=
  ∀ key name kind resource, call.part = .track key name kind resource →
    call.store.Latest resource

theorem Call.Timely.moves (h : call.Timely) : Moves call.store call.ending.2 := by
  obtain ⟨fuel, looks, part, store⟩ := call
  have hg := going fuel
  cases part <;> simp only [Call.ending, runPart, run_discard]
  case script first steps => exact goes_script fuel first steps store
  case steps steps => exact hg.runSteps steps store
  case step step => exact hg.runStep step store
  case work key work => exact hg.work key work store
  case track key name kind resource => exact hg.track key name kind (h key name kind resource rfl)
  case release key resource => exact hg.release key resource store
  case drain key => exact hg.drain key store
  case letGo key => exact hg.letGo key store
  case dropAll labels => exact goes_dropAll fuel labels store

theorem Calls.timely (h : Calls p q) : q.Timely := by
  intro key name kind resource hp
  cases h with
  | probe ran built | text built =>
      cases hp
      cases built
      exact latest_constructed _ _ _
  | _ => cases hp

-- A part starts where moves from the start of the outer part have led.
theorem Calls.moves (h : Calls p q) (hp : p.Timely) : Moves p.store q.store := by
  cases h with
  | first | all | gone => exact .refl
  | rest ran => exact moves_of_ran ran ((going _).runStep _ _)
  | work => exact .single (.holding _ _)
  | worked is found ran => exact (moves_of_ran ran ((going _).work _ _ _)).head (.holding _ _)
  | replaced | start => exact .single (.making _ _)
  | dropped | drop => exact .single (.unbound _ _)
  | building => exact .single (.entered _ _)
  | failed ran built | probe ran built =>
      cases built
      have hmade := (moves_of_ran ran ((going _).runSteps _ _)).head (.entered _ _)
      exact hmade.tail .build
  | text built =>
      cases built
      exact .single .build
  | displaced registered changed =>
      have hclosed := moves_of_ran changed (Goes.setBorrow _ _ _)
      have htaken := hclosed.head (.note (.taken ..) trivial)
      exact htaken.head (.register (hp _ _ _ _ rfl) registered)
  | disposed named taken =>
      exact (moves_of_ran taken (Goes.take _ _ _)).tail (.note (.disposed ..) trivial)
  | body => exact .single (.lessen (Registry.lessens_share _))
  | handler => exact (ReflTransGen.single (.entered _ _)).head (.note (.released _) trivial)
  | newest taken => exact moves_of_ran taken (Goes.takeNewest _ _)
  | older taken ran =>
      have htaken := moves_of_ran taken (Goes.takeNewest _ _)
      exact htaken.trans (moves_of_ran ran ((going _).release _ _ _))
  | last => exact .single (.unholding _ _)
  | ended ran => exact (moves_of_ran ran ((going _).runSteps _ _)).head (.making _ _)
  | others found ran => exact (moves_of_ran ran ((going _).letGo _ _)).head (.unbound _ _)

theorem Within.timely (h : Within first steps call) : call.Timely := by
  cases h with
  | refl => exact nofun
  | tail _ last => exact last.timely

-- Wherever a part of a run starts, the moves of the run have led there.
theorem Within.moves (h : Within first steps call) : Moves {} call.store := by
  induction h with
  | refl => exact .refl
  | @tail p q before last ih => exact ih.trans (last.moves (Within.timely before))

end Calls

end RegistryScript

end SyntaxHandles
