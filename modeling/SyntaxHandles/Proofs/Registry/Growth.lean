import SyntaxHandles.Proofs.Effect
import SyntaxHandles.Proofs.Registry.Recorded
import SyntaxHandles.Proofs.Registry.Work

-- What the parts of a run do to a store. None of them ever forgets anything that has happened,
-- whether it comes to its end or not.

namespace SyntaxHandles.RegistryScript

open Effect

def Grows {α : Type} (x : Run α) : Prop :=
  ∀ store, store.history <:+ (x.run store).2.history

namespace Grows

variable {α β : Type} {x : Run α} {f : α → Run β}

theorem pure (a : α) : Grows (pure a : Run α) := fun _ => List.suffix_rfl

theorem throw (stop : Stop) : Grows (throw stop : Run α) := fun _ => List.suffix_rfl

theorem get : Grows (get : Run Store) := fun _ => List.suffix_rfl

theorem bind (hx : Grows x) (hf : ∀ a, Grows (f a)) : Grows (x >>= f) := fun store => by
  have hxs := hx store
  rw [run_bind]
  rcases hr : x.run store with ⟨_ | a, after⟩ <;> rw [hr] at hxs
  · exact hxs
  · exact hxs.trans (hf a after)

theorem modify {f : Store → Store} (hf : ∀ store, (f store).history = store.history) :
    Grows (modify f : Run Unit) := fun store => by
  simp only [run_modify, hf, List.suffix_rfl]

end Grows

section Parts

variable {α : Type} {key : Nat} {store : Store}

theorem run_note (event : Event) (store : Store) :
    (note event).run store = (.ok (), store.noted event) := rfl

theorem run_act_ok (operation : Registry Resource → Except Conflict (α × Registry Resource))
    {a : α} {after : Registry Resource} (ho : operation (store.registries key) = .ok (a, after)) :
    (act key operation).run store = (.ok a, store.withRegistry key after) := by
  rw [act, run_bind, run_get]
  simp only [ho]
  rfl

theorem run_act_error (operation : Registry Resource → Except Conflict (α × Registry Resource))
    {conflict : Conflict} (ho : operation (store.registries key) = .error conflict) :
    (act key operation).run store = (.error (.conflict conflict), store) := by
  rw [act, run_bind, run_get]
  simp only [ho]
  rfl

theorem withRegistry_self (store : Store) (key : Nat) :
    store.withRegistry key (store.registries key) = store := by
  have hsame : (fun k => if k = key then store.registries key else store.registries k) =
      store.registries := funext fun k => by
    by_cases hk : k = key
    · rw [if_pos hk, hk]
    · rw [if_neg hk]
  rw [Store.withRegistry, hsame]

theorem run_ask_ok (question : Registry Resource → Except Conflict α) {a : α}
    (hq : question (store.registries key) = .ok a) :
    (ask key question).run store = (.ok a, store) := by
  have ho : (question (store.registries key)).map (·, store.registries key) =
      .ok (a, store.registries key) := by rw [hq]; rfl
  rw [ask, run_act_ok (fun registry => (question registry).map (·, registry)) ho,
    withRegistry_self]

theorem run_change (key : Nat) (f : Registry Resource → Registry Resource) (store : Store) :
    (change key f).run store = (.ok (), store.withRegistry key (f (store.registries key))) := rfl

theorem run_keyOf? (label : String) (store : Store) :
    (keyOf? label).run store = (.ok (store.labels.lookup label), store) := rfl

section Register

variable {kind : ResourceKind} {resource : Resource}

theorem run_register_ok {id : ResourceId} {displaced : Option Resource}
    {after : Registry Resource}
    (hr : (store.registries key).register kind resource = .ok (id, displaced, after)) :
    (act key fun registry => do
      let (id, displaced, registry) ← registry.register kind resource
      return ((id, displaced), registry)).run store =
        (.ok (id, displaced), store.withRegistry key after) := by
  refine run_act_ok _ ?_
  simp only [hr]
  rfl

theorem run_register_error {conflict : Conflict}
    (hr : (store.registries key).register kind resource = .error conflict) :
    (act key fun registry => do
      let (id, displaced, registry) ← registry.register kind resource
      return ((id, displaced), registry)).run store = (.error (.conflict conflict), store) := by
  refine run_act_error _ ?_
  simp only [hr]
  rfl

end Register

theorem grows_note (event : Event) : Grows (note event) :=
  fun store => List.suffix_cons event store.history

theorem grows_act (operation : Registry Resource → Except Conflict (α × Registry Resource)) :
    Grows (act key operation) := fun store => by
  rcases ho : operation (store.registries key) with _ | ⟨_, _⟩
  · simp only [run_act_error operation ho, List.suffix_rfl]
  · simp only [run_act_ok operation ho, Store.withRegistry_history, List.suffix_rfl]

theorem grows_keyOf? (label : String) : Grows (keyOf? label) := fun _ => List.suffix_rfl

theorem grows_unbindLabel (label : String) : Grows (unbindLabel label) :=
  .modify fun _ => rfl

theorem grows_hold (key : Nat) : Grows (hold key) := .modify fun _ => rfl

theorem grows_unhold (key : Nat) : Grows (unhold key) := fun _ => List.suffix_rfl

theorem grows_create (label : String) : Grows (create label) :=
  .bind (grows_unbindLabel label) fun _ => .bind .get fun _ =>
    .bind (.modify fun _ => rfl) fun _ => grows_hold _

theorem grows_build (label : String) (contents : Contents) : Grows (build label contents) :=
  .bind .get fun _ => .bind (.modify fun _ => rfl) fun _ => .bind (grows_note _) fun _ => .pure _

theorem grows_acquired (name : String) (id : ResourceId) (released : List Release) : Grows (do
    bindName name id
    return Report.mk (.acquired id) [] released) := .bind (.modify fun _ => rfl) fun _ => .pure _

theorem grows_enter (key : Nat) : Grows (enter key) := Grows.get.bind fun _ => grows_note _

theorem grows_takeOut
    (operation : Registry Resource → Except Conflict (Option Resource × Registry Resource)) :
    Grows (takeOut key operation) := by
  refine (grows_act operation).bind fun resource? => ?_
  cases resource? with
  | none => exact .pure _
  | some resource => exact (grows_note _).bind fun _ => .pure _

theorem grows_within (label : String) {letGo : Nat → Run (List Release)} {part : Nat → Run Report}
    (hl : ∀ key, Grows (letGo key)) (hp : ∀ key, Grows (part key)) :
    Grows (within label letGo part) := by
  refine (grows_keyOf? label).bind fun key? => ?_
  cases key? with
  | none => exact .pure _
  | some key =>
      exact (grows_hold key).bind fun _ => (hp key).bind fun ⟨_, _, _⟩ =>
        (hl key).bind fun _ => .pure _

theorem grows_withName (name : String) {part : ResourceId → Run Report}
    (hp : ∀ id, Grows (part id)) : Grows (withName name part) := by
  refine Grows.get.bind fun store => ?_
  cases store.names.lookup name with
  | none => exact .pure _
  | some id => exact hp id

end Parts

-- All that runs with the same fuel.
structure Growing (fuel : Nat) : Prop where
  runSteps : ∀ steps, Grows (runSteps fuel steps)
  release : ∀ key resource, Grows (release fuel key resource)
  drain : ∀ key, Grows (drain fuel key)
  letGo : ∀ key, Grows (letGo fuel key)
  track : ∀ key name kind resource, Grows (track fuel key name kind resource)
  runStep : ∀ step, Grows (runStep fuel step)

namespace Growing

variable {fuel : Nat}

theorem runSteps_succ (h : Growing fuel) (steps : List Step) :
    Grows (RegistryScript.runSteps (fuel + 1) steps) := by
  cases steps with
  | nil => exact .pure _
  | cons step steps =>
      exact (h.runStep step).bind fun _ => (h.runSteps steps).bind fun _ => .pure _

theorem release_succ (h : Growing fuel) (key : Nat) (resource : Resource) :
    Grows (RegistryScript.release (fuel + 1) key resource) := by
  refine (grows_note _).bind fun _ => ?_
  split
  · exact .pure _
  · exact .pure _
  · exact (grows_enter key).bind fun _ => (h.runSteps _).bind fun _ => .pure _

theorem drain_succ (h : Growing fuel) (key : Nat) :
    Grows (RegistryScript.drain (fuel + 1) key) := by
  refine (grows_takeOut _).bind fun resource? => ?_
  cases resource? with
  | none => exact .pure _
  | some resource =>
      exact (h.release key resource).bind fun _ => (h.drain key).bind fun _ => .pure _

theorem letGo_succ (h : Growing fuel) (key : Nat) :
    Grows (RegistryScript.letGo (fuel + 1) key) := by
  refine (grows_unhold key).bind fun last => ?_
  cases last with
  | false => exact .pure _
  | true => exact h.drain key

-- What is left of tracking a resource once it is registered.
theorem displacing (h : Growing fuel) (key : Nat) (name : String) (id : ResourceId)
    (displaced : Option Resource) : Grows (do
      let released ← match displaced with
        | none => pure []
        | some resource => do
          note (.taken key resource.number)
          change key fun registry => { registry with borrow := .exclusive }
          let released ← RegistryScript.release fuel key resource
          change key fun registry => { registry with borrow := .free }
          pure released
      bindName name id
      return Report.mk (.acquired id) [] released) := by
  cases displaced with
  | none => exact (Grows.pure []).bind (grows_acquired name id)
  | some other =>
      exact (grows_note _).bind fun _ => (grows_act _).bind fun _ =>
        (h.release key other).bind fun released => (grows_act _).bind fun _ =>
          (Grows.pure released).bind (grows_acquired name id)

theorem track_succ (h : Growing fuel) (key : Nat) (name : String) (kind : ResourceKind)
    (resource : Resource) :
    Grows (RegistryScript.track (fuel + 1) key name kind resource) :=
  (grows_act _).bind fun ⟨id, displaced⟩ => (grows_note _).bind fun _ =>
    h.displacing key name id displaced

theorem work (h : Growing fuel) (key : Nat) (work : Work) : Grows (work.run fuel key) := by
  cases work with
  | acquireProbe name kind building failure atRelease =>
      refine (grows_enter key).bind fun _ => (h.runSteps building).bind fun _ =>
        (grows_build name _).bind fun resource => ?_
      cases failure with
      | none => exact (h.track key name kind resource).bind fun ⟨_, _, _⟩ => .pure _
      | some failed => exact (h.release key resource).bind fun _ => .pure _
  | acquireText name kind =>
      exact (grows_build name .text).bind fun resource => h.track key name kind resource
  | dispose name =>
      refine grows_withName name fun id => (grows_takeOut _).bind fun resource? =>
        (grows_note _).bind fun _ => ?_
      cases resource? with
      | none => exact .pure _
      | some resource => exact (h.release key resource).bind fun _ => .pure _
  | isAlive name =>
      exact grows_withName name fun id => (grows_act _).bind fun _ =>
        (grows_note _).bind fun _ => .pure _
  | look name asText body =>
      refine grows_withName name fun id => (grows_act _).bind fun answer => ?_
      cases answer with
      | error fault => exact .pure _
      | ok resource =>
          exact (grows_act _).bind fun _ => (h.runSteps body).bind fun _ =>
            (grows_act _).bind fun _ => .pure _
  | liveCount => exact (grows_act _).bind fun _ => Grows.get.bind fun _ => .pure _
  | disposeAll => exact (h.drain key).bind fun _ => .pure _

theorem runStep_succ (h : Growing fuel) (step : Step) :
    Grows (RegistryScript.runStep (fuel + 1) step) := by
  cases hw : step.work? with
  | some labelled =>
      obtain ⟨label, work⟩ := labelled
      rw [runStep_of_work? hw]
      exact grows_within label h.letGo fun key => h.work key work
  | none =>
      cases step with
      | create label =>
          refine (grows_keyOf? label).bind fun old => (grows_create label).bind fun _ => ?_
          cases old with
          | none => exact .pure _
          | some key => exact (h.letGo key).bind fun _ => .pure _
      | drop label =>
          refine (grows_keyOf? label).bind fun key? => ?_
          cases key? with
          | none => exact .pure _
          | some key =>
              exact (grows_unbindLabel label).bind fun _ => (h.letGo key).bind fun _ => .pure _
      | same name other =>
          exact grows_withName name fun _ => grows_withName other fun _ => .pure _
      | _ => exact nomatch hw

end Growing

theorem growing (fuel : Nat) : Growing fuel := by
  induction fuel with
  | zero =>
      refine ⟨fun steps => ?_, fun _ _ => .throw _, fun _ => .throw _, fun _ => .throw _,
        fun _ _ _ _ => .throw _, fun _ => .throw _⟩
      cases steps <;> exact .throw _
  | succ fuel ih =>
      exact ⟨ih.runSteps_succ, ih.release_succ, ih.drain_succ, ih.letGo_succ, ih.track_succ,
        ih.runStep_succ⟩

theorem grows_dropAll (fuel : Nat) (labels : List String) : Grows (dropAll fuel labels) := by
  induction labels with
  | nil => exact .pure _
  | cons label labels ih =>
      refine (grows_keyOf? label).bind fun key? => ?_
      cases key? with
      | none => exact ih
      | some key =>
          exact (grows_unbindLabel label).bind fun _ => ((growing fuel).letGo key).bind fun _ =>
            ih.bind fun _ => .pure _

end SyntaxHandles.RegistryScript
