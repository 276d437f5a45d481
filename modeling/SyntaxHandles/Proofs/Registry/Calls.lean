import Mathlib.Data.List.Infix
import Mathlib.Logic.Relation
import SyntaxHandles.Proofs.Registry.Keeps

-- The parts that a run is made of, and what each of them runs inside itself. It is counted here,
-- beside the registries, how often each of them is looked into.

namespace SyntaxHandles.RegistryScript

open Effect Relation

inductive Part
  | script (first : String) (steps : List Step)
  | steps (steps : List Step)
  | step (step : Step)
  | work (key : Nat) (work : Work)
  | track (key : Nat) (name : String) (kind : ResourceKind) (resource : Resource)
  | release (key : Nat) (resource : Resource)
  | drain (key : Nat)
  | letGo (key : Nat)
  | dropAll (labels : List String)

def runPart (fuel : Nat) : Part → Run Unit
  | .script first steps => Functor.discard (script fuel first steps)
  | .steps steps => Functor.discard (runSteps fuel steps)
  | .step step => Functor.discard (runStep fuel step)
  | .work key work => Functor.discard (work.run fuel key)
  | .track key name kind resource => Functor.discard (track fuel key name kind resource)
  | .release key resource => Functor.discard (release fuel key resource)
  | .drain key => Functor.discard (drain fuel key)
  | .letGo key => Functor.discard (letGo fuel key)
  | .dropAll labels => Functor.discard (dropAll fuel labels)

-- A part that starts in a store. So many bodies of looks into each registry are under way then.
structure Call where
  fuel : Nat
  looks : Nat → Nat
  part : Part
  store : Store

def Call.ending (call : Call) : Except Stop Unit × Store :=
  (runPart call.fuel call.part).run call.store

def Store.entered (store : Store) (key : Nat) : Store :=
  store.noted (.entered key (store.registries key).borrow)

-- A part runs another one inside itself.
inductive Calls : Call → Call → Prop
  | first {fuel looks step steps store} :
      Calls ⟨fuel + 1, looks, .steps (step :: steps), store⟩ ⟨fuel, looks, .step step, store⟩
  | rest {fuel looks step steps store report after}
      (ran : (runStep fuel step).run store = (.ok report, after)) :
      Calls ⟨fuel + 1, looks, .steps (step :: steps), store⟩ ⟨fuel, looks, .steps steps, after⟩
  | work {fuel looks step label work key store} (is : step.work? = some (label, work))
      (found : store.labels.lookup label = some key) :
      Calls ⟨fuel + 1, looks, .step step, store⟩ ⟨fuel, looks, .work key work, store.holding key⟩
  | worked {fuel looks step label work key store report after}
      (is : step.work? = some (label, work)) (found : store.labels.lookup label = some key)
      (ran : (work.run fuel key).run (store.holding key) = (.ok report, after)) :
      Calls ⟨fuel + 1, looks, .step step, store⟩ ⟨fuel, looks, .letGo key, after⟩
  | replaced {fuel looks label key store} (found : store.labels.lookup label = some key) :
      Calls ⟨fuel + 1, looks, .step (.create label), store⟩
        ⟨fuel, looks, .letGo key, (store.unbound label).making label⟩
  | dropped {fuel looks label key store} (found : store.labels.lookup label = some key) :
      Calls ⟨fuel + 1, looks, .step (.drop label), store⟩
        ⟨fuel, looks, .letGo key, store.unbound label⟩
  -- A constructor runs its steps inside the operation that acquires.
  | building {fuel looks key name kind building failure atRelease store} :
      Calls ⟨fuel, looks, .work key (.acquireProbe name kind building failure atRelease), store⟩
        ⟨fuel, looks, .steps building, store.entered key⟩
  | failed {fuel looks key name kind building failed atRelease store inner after resource full}
      (ran : (runSteps fuel building).run (store.entered key) = (.ok inner, after))
      (built : (build name (.probe atRelease)).run after = (.ok resource, full)) :
      Calls
        ⟨fuel, looks, .work key (.acquireProbe name kind building (some failed) atRelease), store⟩
        ⟨fuel, looks, .release key resource, full⟩
  | probe {fuel looks key name kind building atRelease store inner after resource full}
      (ran : (runSteps fuel building).run (store.entered key) = (.ok inner, after))
      (built : (build name (.probe atRelease)).run after = (.ok resource, full)) :
      Calls ⟨fuel, looks, .work key (.acquireProbe name kind building none atRelease), store⟩
        ⟨fuel, looks, .track key name kind resource, full⟩
  | text {fuel looks key name kind store resource full}
      (built : (build name .text).run store = (.ok resource, full)) :
      Calls ⟨fuel, looks, .work key (.acquireText name kind), store⟩
        ⟨fuel, looks, .track key name kind resource, full⟩
  | displaced {fuel looks key name kind resource store id old registry after}
      (registered : (store.registries key).register kind resource = .ok (id, some old, registry))
      (changed : (change key fun registry => { registry with borrow := .exclusive }).run
        (((store.withRegistry key registry).noted (.registered key resource.number id)).noted
          (.taken key old.number)) = (.ok (), after)) :
      Calls ⟨fuel + 1, looks, .track key name kind resource, store⟩
        ⟨fuel, looks, .release key old, after⟩
  | disposed {fuel looks key name id store resource after}
      (named : store.names.lookup name = some id)
      (taken : (takeOut key (·.take id)).run store = (.ok (some resource), after)) :
      Calls ⟨fuel, looks, .work key (.dispose name), store⟩
        ⟨fuel, looks, .release key resource, after.noted (.disposed key id (some resource.number))⟩
  -- The body of a look runs while there is one more look into the registry.
  | body {fuel looks key name asText body id store resource}
      (named : store.names.lookup name = some id)
      (found : (store.registries key).look id (Resource.isOfType asText) = .ok (.ok resource)) :
      Calls ⟨fuel, looks, .work key (.look name asText body), store⟩
        ⟨fuel, fun k => looks k + if k = key then 1 else 0, .steps body,
          store.withRegistry key (store.registries key).share⟩
  | all {fuel looks key store} :
      Calls ⟨fuel, looks, .work key .disposeAll, store⟩ ⟨fuel, looks, .drain key, store⟩
  -- A resource that is released runs its steps inside the operation that lets go of it.
  | handler {fuel looks key resource steps store} (is : resource.contents = .probe steps)
      (some : steps ≠ []) :
      Calls ⟨fuel + 1, looks, .release key resource, store⟩
        ⟨fuel, looks, .steps steps, (store.noted (.released resource.number)).entered key⟩
  | newest {fuel looks key store resource after}
      (taken : (takeOut key (·.takeNewest)).run store = (.ok (some resource), after)) :
      Calls ⟨fuel + 1, looks, .drain key, store⟩ ⟨fuel, looks, .release key resource, after⟩
  | older {fuel looks key store resource after released later}
      (taken : (takeOut key (·.takeNewest)).run store = (.ok (some resource), after))
      (ran : (release fuel key resource).run after = (.ok released, later)) :
      Calls ⟨fuel + 1, looks, .drain key, store⟩ ⟨fuel, looks, .drain key, later⟩
  | last {fuel looks key store} (last : store.holders key ≤ 1) :
      Calls ⟨fuel + 1, looks, .letGo key, store⟩ ⟨fuel, looks, .drain key, store.unholding key⟩
  | start {fuel looks first steps store} :
      Calls ⟨fuel, looks, .script first steps, store⟩
        ⟨fuel, looks, .steps steps, (store.unbound first).making first⟩
  | ended {fuel looks first steps store reports after}
      (ran : (runSteps fuel steps).run ((store.unbound first).making first) =
        (.ok reports, after)) :
      Calls ⟨fuel, looks, .script first steps, store⟩
        ⟨fuel, looks, .dropAll ((after.labels.map Prod.fst).mergeSort fun a b => !(b < a)), after⟩
  | gone {fuel looks label labels store} (none : store.labels.lookup label = none) :
      Calls ⟨fuel, looks, .dropAll (label :: labels), store⟩ ⟨fuel, looks, .dropAll labels, store⟩
  | drop {fuel looks label labels key store} (found : store.labels.lookup label = some key) :
      Calls ⟨fuel, looks, .dropAll (label :: labels), store⟩
        ⟨fuel, looks, .letGo key, store.unbound label⟩
  | others {fuel looks label labels key store released after}
      (found : store.labels.lookup label = some key)
      (ran : (letGo fuel key).run (store.unbound label) = (.ok released, after)) :
      Calls ⟨fuel, looks, .dropAll (label :: labels), store⟩ ⟨fuel, looks, .dropAll labels, after⟩

def whole (first : String) (steps : List Step) : Call where
  fuel := 8 * weights steps + 64
  looks _ := 0
  part := .script first steps
  store := {}

-- Everything that runs in the course of a script, at any depth.
abbrev Within (first : String) (steps : List Step) : Call → Prop :=
  ReflTransGen Calls (whole first steps)

section Growth

variable {α β : Type} {x : Run α} {f : α → Run β} {store after : Store} {a : α} {p q : Call}

theorem run_discard (x : Run α) (store : Store) : (Functor.discard x).run store =
    ((x.run store).1.map fun _ => (), (x.run store).2) := by
  have hd : (Functor.discard x).run store = (x >>= fun _ => pure ()).run store := rfl
  rw [hd, run_bind]
  rcases x.run store with ⟨_ | _, _⟩ <;> rfl

theorem run_unhold (key : Nat) (store : Store) : (unhold key).run store =
    (.ok (decide (store.holders key ≤ 1)), store.unholding key) := rfl

theorem suffix_first {g : α → Run β} (hg : ∀ a, Grows (g a)) :
    (x.run store).2.history <:+ ((x >>= g).run store).2.history := by
  rw [run_bind]
  rcases x.run store with ⟨_ | a, after⟩
  · exact List.suffix_rfl
  · exact hg a after

theorem suffix_next {history : List Event} (hr : x.run store = (.ok a, after))
    (hs : history <:+ ((f a).run after).2.history) :
    history <:+ ((x >>= f).run store).2.history := by
  rw [run_bind, hr]
  exact hs

theorem suffix_found {label : String} {key : Nat} {g : Option Nat → Run β} {history : List Event}
    (found : store.labels.lookup label = some key)
    (hs : history <:+ ((g (some key)).run store).2.history) :
    history <:+ ((keyOf? label >>= g).run store).2.history :=
  suffix_next (found ▸ run_keyOf? label store) hs

theorem Call.grows (call : Call) : call.store.history <:+ call.ending.2.history := by
  obtain ⟨fuel, looks, part, store⟩ := call
  have h := growing fuel
  cases part <;> simp only [Call.ending, runPart, run_discard]
  case script first steps =>
    exact ((grows_create first).bind fun _ => (h.runSteps steps).bind fun _ =>
      Grows.get.bind fun _ => (grows_dropAll _ _).bind fun _ => .pure _) store
  case steps steps => exact h.runSteps steps store
  case step step => exact h.runStep step store
  case work key work => exact h.work key work store
  case track key name kind resource => exact h.track key name kind resource store
  case release key resource => exact h.release key resource store
  case drain key => exact h.drain key store
  case letGo key => exact h.letGo key store
  case dropAll labels => exact grows_dropAll fuel labels store

-- What happens inside a part happens in the course of it.
theorem Calls.suffix (h : Calls p q) : q.ending.2.history <:+ p.ending.2.history := by
  cases h <;> simp only [Call.ending, runPart, run_discard]
  case first fuel looks step steps store =>
    exact suffix_first fun _ => ((growing fuel).runSteps steps).bind fun _ => .pure _
  case rest ran =>
    refine suffix_next ran ?_
    exact suffix_first fun _ => .pure _
  case work fuel looks step label work key store is found =>
    rw [runStep_of_work? is]
    refine suffix_found found ?_
    refine suffix_next (a := ()) rfl (suffix_first fun ⟨_, _, _⟩ => ?_)
    exact ((growing fuel).letGo key).bind fun _ => .pure _
  case worked fuel looks step label work key store report after is found ran =>
    rw [runStep_of_work? is]
    refine suffix_found found ?_
    obtain ⟨_, _, _⟩ := report
    refine suffix_next (a := ()) rfl ?_
    refine suffix_next ran ?_
    exact suffix_first fun _ => .pure _
  case replaced fuel looks label key store found =>
    refine suffix_next (run_keyOf? label store) (suffix_next (run_create label store) ?_)
    rw [found]
    exact suffix_first fun _ => .pure _
  case dropped fuel looks label key store found =>
    refine suffix_found found ?_
    refine suffix_next (run_unbindLabel label store) ?_
    exact suffix_first fun _ => .pure _
  case building fuel looks key name kind building failure atRelease store =>
    refine suffix_next (run_enter key store) (suffix_first fun inner => ?_)
    refine (grows_build name _).bind fun resource => ?_
    cases failure with
    | none => exact ((growing fuel).track key name kind resource).bind fun ⟨_, _, _⟩ => .pure _
    | some failed => exact ((growing fuel).release key resource).bind fun _ => .pure _
  case failed fuel looks key name kind building failed atRelease store inner after resource full
      ran built =>
    refine suffix_next (run_enter key store) ?_
    refine suffix_next ran ?_
    refine suffix_next built ?_
    exact suffix_first fun _ => .pure _
  case probe fuel looks key name kind building atRelease store inner after resource full
      ran built =>
    refine suffix_next (run_enter key store) ?_
    refine suffix_next ran ?_
    refine suffix_next built ?_
    exact suffix_first fun ⟨_, _, _⟩ => .pure _
  case text built => exact suffix_next built List.suffix_rfl
  case displaced fuel looks key name kind resource store id old registry after
      registered changed =>
    refine suffix_next (run_register_ok registered) ?_
    refine suffix_next (run_note _ _) ?_
    refine suffix_next (run_note _ _) ?_
    refine suffix_next changed (suffix_first fun released => ?_)
    exact (grows_act _).bind fun _ => (Grows.pure released).bind (grows_acquired name id)
  case disposed fuel looks key name id store resource after named taken =>
    refine suffix_next (run_get store) ?_
    rw [named]
    refine suffix_next taken ?_
    refine suffix_next (run_note _ _) ?_
    exact suffix_first fun _ => .pure _
  case body fuel looks key name asText body id store resource named found =>
    refine suffix_next (run_get store) ?_
    rw [named]
    refine suffix_next (run_ask_ok (·.look id (Resource.isOfType asText)) found) ?_
    refine suffix_next (run_change key (·.share) store) (suffix_first fun _ => ?_)
    exact (grows_act _).bind fun _ => .pure _
  case all => exact suffix_first fun _ => .pure _
  case handler fuel looks key resource steps store is some =>
    refine suffix_next (run_note _ store) ?_
    split
    · next hc => exact absurd (hc.symm.trans is) nofun
    · next hc => exact absurd (Contents.probe.inj (is.symm.trans hc)) some
    · next hc =>
      obtain rfl := Contents.probe.inj (is.symm.trans hc)
      refine suffix_next (run_enter key _) ?_
      exact suffix_first fun _ => .pure _
  case newest fuel looks key store resource after taken =>
    refine suffix_next taken ?_
    exact suffix_first fun _ => ((growing fuel).drain key).bind fun _ => .pure _
  case older taken ran =>
    refine suffix_next taken ?_
    refine suffix_next ran ?_
    exact suffix_first fun _ => .pure _
  case last fuel looks key store last =>
    refine suffix_next (run_unhold key store) ?_
    rw [decide_eq_true last]
    exact List.suffix_rfl
  case start fuel looks first steps store =>
    refine suffix_next (run_create first store) (suffix_first fun _ => ?_)
    exact Grows.get.bind fun _ => (grows_dropAll _ _).bind fun _ => .pure _
  case ended fuel looks first steps store reports after ran =>
    refine suffix_next (run_create first store) ?_
    refine suffix_next ran ?_
    refine suffix_next (run_get after) ?_
    exact suffix_first fun _ => .pure _
  case gone fuel looks label labels store none =>
    refine suffix_next (run_keyOf? label store) ?_
    rw [none]
  case drop fuel looks label labels key store found =>
    refine suffix_found found ?_
    refine suffix_next (run_unbindLabel label store) (suffix_first fun _ => ?_)
    exact (grows_dropAll fuel labels).bind fun _ => .pure _
  case others fuel looks label labels key store released after found ran =>
    refine suffix_found found ?_
    refine suffix_next (run_unbindLabel label store) ?_
    refine suffix_next ran ?_
    exact suffix_first fun _ => .pure _

end Growth

end SyntaxHandles.RegistryScript
