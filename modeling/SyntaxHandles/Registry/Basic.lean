import SyntaxHandles.Fault

-- A registry owns resources and gives out identities for them. Serials are given out in ascending
-- order. The entries can be looked at by many at a time or changed by one alone; an access that the
-- accesses under way do not allow is a conflict, and nothing can be done about it.

namespace SyntaxHandles

structure Entry (ρ : Type) where
  serial : UInt32
  kind : ResourceKind
  resource : ρ

-- The accesses to the entries that are under way.
inductive Borrow
  | free
  -- One more than this number look at the entries.
  | shared (others : Nat)
  | exclusive
  deriving DecidableEq, Repr

inductive Access
  | read
  | register
  | take
  | drain
  deriving DecidableEq, Repr

-- An access, and the accesses under way that do not allow it.
structure Conflict where
  access : Access
  borrow : Borrow
  deriving DecidableEq, Repr

structure Registry (ρ : Type) where
  id : UInt32
  nextSerial : UInt32 := 1
  -- Newest first.
  live : List (Entry ρ) := []
  borrow : Borrow := .free

namespace Registry

variable {ρ α : Type}

def find? (registry : Registry ρ) (serial : UInt32) : Option (Entry ρ) :=
  registry.live.find? (·.serial == serial)

def liveCount (registry : Registry ρ) : Nat :=
  registry.live.length

def toRead (registry : Registry ρ) : Except Conflict Unit :=
  if registry.borrow = .exclusive then .error ⟨.read, registry.borrow⟩ else .ok ()

def toWrite (registry : Registry ρ) (access : Access) : Except Conflict Unit :=
  if registry.borrow = .free then .ok () else .error ⟨access, registry.borrow⟩

-- An identity of another registry is told by its number alone, without a look at the entries.
def isAlive (registry : Registry ρ) (id : ResourceId) : Except Conflict Bool := do
  if id.registry ≠ registry.id then return false
  registry.toRead
  return (registry.find? id.serial).any (·.kind = id.kind)

-- Entries are kept in descending order of their serials, and there is one for each serial.
def insert (entry : Entry ρ) : List (Entry ρ) → List (Entry ρ)
  | [] => [entry]
  | other :: rest =>
    if other.serial < entry.serial then entry :: other :: rest
    else if other.serial = entry.serial then entry :: rest
    else other :: insert entry rest

-- Tracks a resource under the next serial. A resource that had the serial already loses its entry
-- and is handed out.
def register (registry : Registry ρ) (kind : ResourceKind) (resource : ρ) :
    Except Conflict (ResourceId × Option ρ × Registry ρ) := do
  let serial := registry.nextSerial
  registry.toWrite .register
  let displaced := (registry.find? serial).map (·.resource)
  let live := insert ⟨serial, kind, resource⟩ registry.live
  return (⟨registry.id, serial, kind⟩, displaced, { registry with nextSerial := serial + 1, live })

-- Takes the resource behind an identity out, if it is alive.
def take (registry : Registry ρ) (id : ResourceId) :
    Except Conflict (Option ρ × Registry ρ) := do
  if !(← registry.isAlive id) then return (none, registry)
  registry.toWrite .take
  let live := registry.live.filter (·.serial ≠ id.serial)
  return ((registry.find? id.serial).map (·.resource), { registry with live })

-- Takes the newest resource out, if there is any.
def takeNewest (registry : Registry ρ) : Except Conflict (Option ρ × Registry ρ) := do
  registry.toWrite .drain
  match registry.live with
  | [] => return (none, registry)
  | entry :: live => return (some entry.resource, { registry with live })

-- Looks at the resource behind an identity as one of the type that `view` admits.
def look (registry : Registry ρ) (id : ResourceId) (view : ρ → Option α) :
    Except Conflict (Except Fault α) := do
  if id.registry ≠ registry.id then return .error (.invalidHandle id Refusal.otherSession)
  registry.toRead
  match registry.find? id.serial with
  | none => return .error (.invalidHandle id Refusal.disposed)
  | some entry =>
    if entry.kind ≠ id.kind then return .error (.invalidHandle id Refusal.kindMismatch)
    match view entry.resource with
    | none => return .error (.invalidHandle id Refusal.typeMismatch)
    | some resource => return .ok resource

-- A look that lasts while something else is done.
def share (registry : Registry ρ) : Registry ρ :=
  match registry.borrow with
  | .shared others => { registry with borrow := .shared (others + 1) }
  | _ => { registry with borrow := .shared 0 }

def unshare (registry : Registry ρ) : Registry ρ :=
  match registry.borrow with
  | .shared (others + 1) => { registry with borrow := .shared others }
  | _ => { registry with borrow := .free }

end Registry

end SyntaxHandles
