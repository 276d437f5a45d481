import SyntaxHandles.Native.Value
import SyntaxHandles.Registry.Basic

-- Tokens: native values on the other side of the boundary. A token keeps nothing alive. It says to
-- which unit its value belongs, and gives the value back only while that unit lives.

namespace SyntaxHandles

structure Token (ν : Type) where
  raw : ν
  owner : ResourceId
  deriving Repr

abbrev CursorToken := Token Native.Cursor

abbrev TypeToken := Token Native.TypeValue

variable {ρ ν : Type}

-- Whether values of the owner may be used with the library. Anything may be wrapped with any owner,
-- so what kind of resource the owner is has to be asked here as well.
def Registry.checkOwner (registry : Registry ρ) (owner : ResourceId) :
    Except Conflict (Except Fault Unit) := do
  if owner.kind ≠ .translationUnit then
    return .error (.invalidHandle owner Refusal.notOwnedByUnit)
  if !(← registry.isAlive owner) then return .error (.invalidHandle owner Refusal.unitGone)
  return .ok ()

namespace Token

def wrap (raw : ν) (owner : ResourceId) : Token ν := ⟨raw, owner⟩

def unwrap (registry : Registry ρ) (token : Token ν) : Except Conflict (Except Fault ν) := do
  return (← registry.checkOwner token.owner).map fun () => token.raw

end Token

-- Tokens of nodes are compared by their units and by all words of their values.
def CursorToken.same (token other : CursorToken) : Bool :=
  token.owner == other.owner && token.raw.kind == other.raw.kind &&
    token.raw.xdata == other.raw.xdata && token.raw.data == other.raw.data

def TypeToken.same (token other : TypeToken) : Bool :=
  token.owner == other.owner && token.raw.kind == other.raw.kind &&
    token.raw.data == other.raw.data

def CursorToken.inspect (token : CursorToken) : String :=
  "CursorToken \x7b kind: " ++ toString token.raw.kind ++ ", owner: " ++ token.owner.inspect ++
    " \x7d"

def TypeToken.inspect (token : TypeToken) : String :=
  "TypeToken \x7b kind: " ++ toString token.raw.kind ++ ", owner: " ++ token.owner.inspect ++
    " \x7d"

end SyntaxHandles
