import SyntaxHandles.Proofs.Registry.Reentry

-- Checking that a script keeps to the rule, by going through everything that runs in the course of
-- it.

namespace SyntaxHandles.RegistryScript

open Relation

-- What follows a part that comes to its end.
def follow {α : Type} (ended : Except Stop α × Store) (next : α → Store → List Call) : List Call :=
  match ended with
  | (.ok a, after) => next a after
  | (.error _, _) => []

def Work.inner (fuel : Nat) (looks : Nat → Nat) (key : Nat) (store : Store) : Work → List Call
  | .acquireProbe name kind building failure atRelease =>
    ⟨fuel, looks, .steps building, store.entered key⟩ ::
      follow ((runSteps fuel building).run (store.entered key)) fun _ after =>
        follow ((build name (.probe atRelease)).run after) fun resource full =>
          match failure with
          | some _ => [⟨fuel, looks, .release key resource, full⟩]
          | none => [⟨fuel, looks, .track key name kind resource, full⟩]
  | .acquireText name kind =>
    follow ((build name .text).run store) fun resource full =>
      [⟨fuel, looks, .track key name kind resource, full⟩]
  | .dispose name =>
    match store.names.lookup name with
    | none => []
    | some id => follow ((takeOut key (·.take id)).run store) fun resource? after =>
      resource?.toList.map fun resource =>
        ⟨fuel, looks, .release key resource, after.noted (.disposed key id (some resource.number))⟩
  | .look name asText body =>
    match store.names.lookup name with
    | none => []
    | some id =>
      match (store.registries key).look id (Resource.isOfType asText) with
      | .ok (.ok _) =>
        [⟨fuel, fun k => looks k + if k = key then 1 else 0, .steps body,
          store.withRegistry key (store.registries key).share⟩]
      | _ => []
  | .disposeAll => [⟨fuel, looks, .drain key, store⟩]
  | .isAlive _ | .liveCount => []

def Step.inner (fuel : Nat) (looks : Nat → Nat) (store : Store) (step : Step) : List Call :=
  match step.work? with
  | some (label, work) =>
    match store.labels.lookup label with
    | none => []
    | some key =>
      ⟨fuel, looks, .work key work, store.holding key⟩ ::
        follow ((work.run fuel key).run (store.holding key)) fun _ after =>
          [⟨fuel, looks, .letGo key, after⟩]
  | none =>
    match step with
    | .create label => (store.labels.lookup label).toList.map fun key =>
      ⟨fuel, looks, .letGo key, (store.unbound label).making label⟩
    | .drop label => (store.labels.lookup label).toList.map fun key =>
      ⟨fuel, looks, .letGo key, store.unbound label⟩
    | _ => []

-- What a part runs inside itself.
def Call.inner : Call → List Call
  | ⟨fuel + 1, looks, .steps (step :: steps), store⟩ =>
    ⟨fuel, looks, .step step, store⟩ :: follow ((runStep fuel step).run store) fun _ after =>
      [⟨fuel, looks, .steps steps, after⟩]
  | ⟨fuel + 1, looks, .step step, store⟩ => step.inner fuel looks store
  | ⟨fuel, looks, .work key work, store⟩ => work.inner fuel looks key store
  | ⟨fuel + 1, looks, .track key _ kind resource, store⟩ =>
    match (store.registries key).register kind resource with
    | .ok (id, some old, registry) =>
      follow ((change key fun registry => { registry with borrow := .exclusive }).run
        (((store.withRegistry key registry).noted (.registered key resource.number id)).noted
          (.taken key old.number))) fun _ after => [⟨fuel, looks, .release key old, after⟩]
    | _ => []
  | ⟨fuel + 1, looks, .release key resource, store⟩ =>
    match resource.contents with
    | .text | .probe [] => []
    | .probe steps =>
      [⟨fuel, looks, .steps steps, (store.noted (.released resource.number)).entered key⟩]
  | ⟨fuel + 1, looks, .drain key, store⟩ =>
    follow ((takeOut key (·.takeNewest)).run store) fun resource? after =>
      match resource? with
      | none => []
      | some resource =>
        ⟨fuel, looks, .release key resource, after⟩ ::
          follow ((release fuel key resource).run after) fun _ later =>
            [⟨fuel, looks, .drain key, later⟩]
  | ⟨fuel + 1, looks, .letGo key, store⟩ =>
    if store.holders key ≤ 1 then [⟨fuel, looks, .drain key, store.unholding key⟩] else []
  | ⟨fuel, looks, .script first steps, store⟩ =>
    let started := (store.unbound first).making first
    ⟨fuel, looks, .steps steps, started⟩ :: follow ((runSteps fuel steps).run started) fun _ after =>
      [⟨fuel, looks, .dropAll ((after.labels.map Prod.fst).mergeSort fun a b => !(b < a)), after⟩]
  | ⟨fuel, looks, .dropAll (label :: labels), store⟩ =>
    match store.labels.lookup label with
    | none => [⟨fuel, looks, .dropAll labels, store⟩]
    | some key =>
      ⟨fuel, looks, .letGo key, store.unbound label⟩ ::
        follow ((letGo fuel key).run (store.unbound label)) fun _ after =>
          [⟨fuel, looks, .dropAll labels, after⟩]
  | _ => []

theorem Calls.mem_inner {p q : Call} (h : Calls p q) : q ∈ p.inner := by
  cases h
  case work is found => simp [Call.inner, Step.inner, is, found]
  case worked is found ran => simp [Call.inner, Step.inner, follow, is, found, ran]
  all_goals simp [Call.inner, Work.inner, Step.inner, Step.work?, follow, *]

def aliveIn (history : List Event) (key : Nat) (id : ResourceId) : Bool :=
  history.any fun
    | .registered registry n other =>
      registry = key && other = id && !history.contains (.taken key n)
    | _ => false

def Work.changes (store : Store) (key : Nat) : Work → Bool
  | .acquireProbe _ _ _ failure _ => failure.isNone
  | .acquireText .. => true
  | .dispose name => (store.names.lookup name).any (aliveIn store.history key)
  | .disposeAll => true
  | .isAlive _ | .look .. | .liveCount => false

def Call.breaks (call : Call) : Bool :=
  match call.part with
  | .work key work => call.looks key ≠ 0 && work.changes call.store key
  | _ => false

-- Whether nothing breaks the rule, in so many parts inside one another at most.
def Call.keepsTo (call : Call) : Nat → Bool
  | 0 => false
  | depth + 1 => !call.breaks && call.inner.all (·.keepsTo depth)

section Rule

variable {store : Store} {key n : Nat} {id : ResourceId} {call : Call}

theorem aliveIn_of_alive (h : Alive store.history key n id) :
    aliveIn store.history key id = true := by
  refine List.any_eq_true.mpr ⟨_, h.1, ?_⟩
  simp [h.2]

theorem Work.changes_of_changes {work : Work} (h : work.Changes store key) :
    work.changes store key = true := by
  cases work with
  | acquireProbe name kind building failure atRelease =>
      obtain rfl : failure = none := h
      rfl
  | acquireText name kind => rfl
  | dispose name =>
      obtain ⟨id, n, hn, ha⟩ := h
      simp [Work.changes, hn, aliveIn_of_alive ha]
  | disposeAll => rfl
  | isAlive name => exact h.elim
  | look name asText body => exact h.elim
  | liveCount => exact h.elim

theorem Call.breaks_of_breaks (h : call.Breaks) : call.breaks = true := by
  obtain ⟨key, work, hp, hl, hc⟩ := h
  simp [Call.breaks, hp, hl, Work.changes_of_changes hc]

theorem not_breaks_of_keepsTo {depth : Nat} (h : call.keepsTo depth = true) {inner : Call}
    (hi : ReflTransGen Calls call inner) : ¬inner.Breaks := by
  induction depth generalizing call with
  | zero => exact nomatch h
  | succ depth ih =>
      simp only [Call.keepsTo, Bool.and_eq_true, Bool.not_eq_true', List.all_eq_true] at h
      obtain ⟨hnot, hall⟩ := h
      rcases hi.cases_head with rfl | ⟨next, hc, hi⟩
      · intro hb
        rw [Call.breaks_of_breaks hb] at hnot
        exact nomatch hnot
      · exact ih (hall next hc.mem_inner) hi

end Rule

end SyntaxHandles.RegistryScript
