import SyntaxHandles.Registry.Script

-- Running registry scripts. Every operation of a step holds the registry that it works on, so that
-- a registry whose label is gone goes on living until the operations on it are over; then its
-- resources are released, newest first.

namespace SyntaxHandles.RegistryScript

-- Registries are kept under the numbers in which they are made. Those with higher numbers than any
-- that was made are there as well, and empty.
structure Store where
  registries : Nat → Registry Resource := fun key => { id := UInt32.ofNat key }
  -- How many hold a registry: its label, and the operations on it that are under way.
  holders : Nat → Nat := fun _ => 0
  created : Nat := 0
  built : Nat := 0
  labels : List (String × Nat) := []
  names : List (String × ResourceId) := []
  -- Newest first.
  history : List Event := []

-- Why a run stops before its end.
inductive Stop
  | conflict (conflict : Conflict)
  | outOfFuel

-- A run keeps what it has changed when it stops.
abbrev Run := ExceptT Stop (StateM Store)

def note (event : Event) : Run Unit :=
  modify fun store => { store with history := event :: store.history }

-- An operation of one registry.
def act {α : Type} (key : Nat)
    (operation : Registry Resource → Except Conflict (α × Registry Resource)) : Run α := do
  let store ← get
  match operation (store.registries key) with
  | .error conflict => throw (.conflict conflict)
  | .ok (value, registry) =>
    set { store with registries := fun k => if k = key then registry else store.registries k }
    return value

def ask {α : Type} (key : Nat) (question : Registry Resource → Except Conflict α) : Run α :=
  act key fun registry => (question registry).map (·, registry)

def change (key : Nat) (f : Registry Resource → Registry Resource) : Run Unit :=
  act key fun registry => .ok ((), f registry)

def hold (key : Nat) : Run Unit :=
  modify fun store =>
    { store with holders := fun k => if k = key then store.holders k + 1 else store.holders k }

-- Returns whether nobody holds the registry any more.
def unhold (key : Nat) : Run Bool :=
  modifyGet fun store =>
    (store.holders key ≤ 1,
      { store with holders := fun k => if k = key then store.holders k - 1 else store.holders k })

def keyOf? (label : String) : Run (Option Nat) := do
  return (← get).labels.lookup label

def unbindLabel (label : String) : Run Unit :=
  modify fun store => { store with labels := store.labels.filter (·.1 ≠ label) }

-- Makes a registry, which its label holds.
def create (label : String) : Run Unit := do
  unbindLabel label
  let key := (← get).created + 1
  modify fun store => { store with created := key, labels := (label, key) :: store.labels }
  hold key

def bindName (name : String) (id : ResourceId) : Run Unit :=
  modify fun store => { store with names := (name, id) :: store.names }

def build (label : String) (contents : Contents) : Run Resource := do
  let number := (← get).built
  modify fun store => { store with built := number + 1 }
  note (.built number)
  return ⟨number, label, contents⟩

def enter (key : Nat) : Run Unit := do
  note (.entered key ((← get).registries key).borrow)

-- Takes a resource out, and says so if there was one.
def takeOut (key : Nat)
    (operation : Registry Resource → Except Conflict (Option Resource × Registry Resource)) :
    Run (Option Resource) := do
  let resource? ← act key operation
  if let some resource := resource? then note (.taken key resource.number)
  return resource?

def Resource.isOfType (asText : Bool) (resource : Resource) : Option Resource :=
  match resource.contents with
  | .text => if asText then some resource else none
  | .probe _ => if asText then none else some resource

def report (outcome : Outcome) : Report := .mk outcome [] []

-- Runs a part of a step that works on the registry behind a label.
def within (label : String) (letGo : Nat → Run (List Release)) (part : Nat → Run Report) :
    Run Report := do
  match ← keyOf? label with
  | none => return report .noRegistry
  | some key =>
    hold key
    let .mk outcome inner released ← part key
    return .mk outcome inner (released ++ (← letGo key))

def withName (name : String) (part : ResourceId → Run Report) : Run Report := do
  match (← get).names.lookup name with
  | none => return report .noName
  | some id => part id

-- The fuel bounds how deep steps run inside one another.
mutual

def runSteps : Nat → List Step → Run (List Report)
  | 0, _ => throw .outOfFuel
  | _ + 1, [] => return []
  | fuel + 1, step :: steps => do
    let first ← runStep fuel step
    return first :: (← runSteps fuel steps)
termination_by structural fuel => fuel

-- The steps at a release run when the resource has lost its entry, inside the operation that took
-- it out of the registry.
def release : Nat → Nat → Resource → Run (List Release)
  | 0, _, _ => throw .outOfFuel
  | fuel + 1, key, resource => do
    note (.released resource.number)
    match resource.contents with
    | .text => return []
    | .probe [] => return [.probe resource.label]
    | .probe steps =>
      enter key
      return [.probe resource.label, .steps resource.label (← runSteps fuel steps)]
termination_by structural fuel => fuel

-- Releases everything, newest first, what is acquired meanwhile included.
def drain : Nat → Nat → Run (List Release)
  | 0, _ => throw .outOfFuel
  | fuel + 1, key => do
    match ← takeOut key (·.takeNewest) with
    | none => return []
    | some resource =>
      let first ← release fuel key resource
      return first ++ (← drain fuel key)
termination_by structural fuel => fuel

-- Ends a hold. The last one to hold a registry ends it.
def letGo : Nat → Nat → Run (List Release)
  | 0, _ => throw .outOfFuel
  | fuel + 1, key => do
    if ← unhold key then drain fuel key else return []
termination_by structural fuel => fuel

-- Tracks what was built. A resource that it displaces is released while the entries are changed.
def track : Nat → Nat → String → ResourceKind → Resource → Run Report
  | 0, _, _, _, _ => throw .outOfFuel
  | fuel + 1, key, name, kind, resource => do
    let (id, displaced) ← act key fun registry => do
      let (id, displaced, registry) ← registry.register kind resource
      return ((id, displaced), registry)
    note (.registered key resource.number id)
    let released ← match displaced with
      | none => pure []
      | some resource => do
        note (.taken key resource.number)
        change key fun registry => { registry with borrow := .exclusive }
        let released ← release fuel key resource
        change key fun registry => { registry with borrow := .free }
        pure released
    bindName name id
    return .mk (.acquired id) [] released
termination_by structural fuel => fuel

def runStep : Nat → Step → Run Report
  | 0, _ => throw .outOfFuel
  | fuel + 1, .create label => do
    let old ← keyOf? label
    create label
    match old with
    | none => return report .done
    | some key => return .mk .done [] (← letGo fuel key)
  | fuel + 1, .drop label => do
    match ← keyOf? label with
    | none => return report (.flag false)
    | some key =>
      unbindLabel label
      return .mk (.flag true) [] (← letGo fuel key)
  | fuel + 1, .acquireProbe label name kind building failure atRelease =>
    within label (letGo fuel) fun key => do
      enter key
      let inner ← runSteps fuel building
      let resource ← build name (.probe atRelease)
      match failure with
      | some failed =>
        return .mk (.fault (.resourceExhausted failed)) inner (← release fuel key resource)
      | none =>
        let .mk outcome _ released ← track fuel key name kind resource
        return .mk outcome inner released
  | fuel + 1, .acquireText label name kind =>
    within label (letGo fuel) fun key => do
      let resource ← build name .text
      track fuel key name kind resource
  | fuel + 1, .dispose label name =>
    within label (letGo fuel) fun key => withName name fun id => do
      let resource? ← takeOut key (·.take id)
      note (.disposed key id (resource?.map (·.number)))
      match resource? with
      | none => return report (.flag false)
      | some resource => return .mk (.flag true) [] (← release fuel key resource)
  | fuel + 1, .isAlive label name =>
    within label (letGo fuel) fun key => withName name fun id => do
      let alive ← ask key (·.isAlive id)
      note (.asked key id alive)
      return report (.flag alive)
  | fuel + 1, .look label name asText body =>
    within label (letGo fuel) fun key => withName name fun id => do
      match ← ask key (·.look id (Resource.isOfType asText)) with
      | .error fault => return report (.fault fault)
      | .ok resource =>
        change key (·.share)
        let inner ← runSteps fuel body
        change key (·.unshare)
        return .mk (.found resource.label) inner []
  | fuel + 1, .liveCount label =>
    within label (letGo fuel) fun key => do
      ask key (·.toRead)
      return report (.count ((← get).registries key).liveCount)
  | fuel + 1, .disposeAll label =>
    within label (letGo fuel) fun key =>
      return .mk .done [] (← drain fuel key)
  | _ + 1, .same name other =>
    withName name fun id => withName other fun id' =>
      return report (.flag (id = id'))
termination_by structural fuel => fuel

end

-- Drops registries by their labels, in order. A label may have lost its registry by then, or have
-- got another one, as releases may drop and make registries.
def dropAll (fuel : Nat) : List String → Run (List Release)
  | [] => return []
  | label :: labels => do
    match ← keyOf? label with
    | none => dropAll fuel labels
    | some key =>
      unbindLabel label
      let first ← letGo fuel key
      return first ++ (← dropAll fuel labels)

-- A whole script, with one registry at its start. At its end the registries that have a label then
-- are dropped, in the order of their labels; one that a release makes under another label outlives
-- the script.
def script (fuel : Nat) (first : String) (steps : List Step) :
    Run (List Report × List Release) := do
  create first
  let reports ← runSteps fuel steps
  let labels := (← get).labels.map Prod.fst
  return (reports, ← dropAll fuel (labels.mergeSort fun a b => !(b < a)))

def run (first : String) (steps : List Step) :
    Except Stop (List Report × List Release) × Store :=
  (script (8 * weights steps + 64) first steps).run {}

end SyntaxHandles.RegistryScript
