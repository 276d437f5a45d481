import SyntaxHandles.Options.Index
import SyntaxHandles.Options.Parse
import SyntaxHandles.Text.Utf8
import SyntaxHandles.Thread
import SyntaxHandles.Traversal.Basic

-- What can be done with a session. Indices are created and files parsed into units; handles name
-- them, and tokens name what is found in a unit. Each operation checks that what it is given is
-- alive in the session before it makes a native call with it.

namespace SyntaxHandles

structure IndexHandle where
  id : ResourceId
  deriving DecidableEq, Repr

structure UnitHandle where
  id : ResourceId
  deriving DecidableEq, Repr

def IndexHandle.inspect (handle : IndexHandle) : String :=
  "IndexHandle(" ++ handle.id.inspect ++ ")"

def UnitHandle.inspect (handle : UnitHandle) : String :=
  "TranslationUnitHandle(" ++ handle.id.inspect ++ ")"

-- The arguments as the library is told of them: there is no list of them if there are none.
def ParseOptions.argv (options : ParseOptions) : Option (List String) :=
  if options.args.isEmpty then none else some options.args

-- How many arguments the library is told of: what is left of their number in a word of the library.
def ParseOptions.argc (options : ParseOptions) : Int32 :=
  Int32.ofNat options.args.length

-- A string that the library has handed out, and its contents unless it has none. It has to be given
-- back, whatever becomes of it.
structure OwnedString where
  number : Nat
  contents : Option Native.Bytes

namespace OwnedString

open Thread

def ofRaw (contents : Option Native.Bytes) : Operation OwnedString := do
  let number := (← get).native.strings
  natively fun state => { state with strings := number + 1 }
  call (.makeString number)
  return ⟨number, contents⟩

def drop (string : OwnedString) : Operation Unit :=
  call (.disposeString string.number)

-- What the library says of the contents, which may be that there are none.
def read (string : OwnedString) : Operation (Option Native.Bytes) := do
  call (.readString string.number)
  return string.contents

-- Text from the library ends before its first zero.
def intoOption (string : OwnedString) : Operation (Option String) := do
  match ← string.read with
  | none =>
    string.drop
    return none
  | some bytes =>
    let text := Text.decode (bytes.takeWhile (· ≠ 0))
    string.drop
    return some text

def intoText (string : OwnedString) : Operation String := do
  return (← string.intoOption).getD ""

end OwnedString

namespace Session

open Thread

variable (library : Native.Library) (key : Nat)

-- Tracks a resource. There is always room for one more serial, short of all of them: what it would
-- displace then is released.
def track (kind : ResourceKind) (resource : Resource) : Operation ResourceId := do
  let (id, displaced, registry) ← settle ((← session key).register kind resource)
  setSession key registry
  countTracked key
  if let some old := displaced then release old
  return id

def createIndex (options : IndexOptions) : Operation IndexHandle := do
  let exclude := options.excludeDeclarationsFromPch
  let display := options.displayDiagnostics
  if library.createsIndex exclude display then
    let number := (← get).native.indices + 1
    natively fun state => { state with indices := number }
    call (.createIndex exclude display (some number))
    natively (·.share number)
    return ⟨← track key .index (.index number)⟩
  else
    call (.createIndex exclude display none)
    fail (.resourceExhausted .index)

-- The library takes text that ends at the first zero, so there must be none inside.
def checkText (what text : String) : Except Fault Unit :=
  if text.toList.contains '\x00' then
    .error (.invalidArgument (what ++ " contains a NUL byte: " ++ Text.quoted text))
  else .ok ()

def checkParse (filename : String) (args : List String) : Except Fault Unit := do
  checkText "filename" filename
  args.forM (checkText "compiler argument")

-- Parses with an index that is shared for the purpose. A share that comes to nothing is given back.
def parseShared (index : Nat) (filename : String) (options : ParseOptions) :
    Operation UnitHandle := do
  let giveBack {α : Type} (fault : Fault) : Operation α := do
    natively (·.unshare index)
    fail fault
  match checkParse filename options.args with
  | .error fault => giveBack fault
  | .ok () =>
    let reply := library.parse filename options.argv options.argc options.flags
    match reply.root with
    | none =>
      call (.parse index filename options.argv options.argc options.flags none reply.code)
      giveBack (.parseFailed filename reply.code)
    | some root =>
      let number := (← get).native.units + 1
      natively fun state => { state with units := number }
      call (.parse index filename options.argv options.argc options.flags (some number) reply.code)
      return ⟨← track key .translationUnit (.unit ⟨number, root⟩ filename index)⟩

def parse (handle : IndexHandle) (filename : String) (options : ParseOptions) :
    Operation UnitHandle := do
  let index ← raise (← settle ((← session key).look handle.id Resource.asIndex?))
  natively (·.share index)
  parseShared library key index filename options

def unit (handle : UnitHandle) : Operation (Native.ParsedUnit × String) := do
  raise (← settle ((← session key).look handle.id Resource.asUnit?))

def root (handle : UnitHandle) : Operation CursorToken := do
  let (unit, _) ← unit key handle
  call (.rootCursor unit.number)
  return .wrap unit.root handle.id

def filename (handle : UnitHandle) : Operation String := do
  return (← unit key handle).2

-- Says whether this call released anything.
def dispose (id : ResourceId) : Operation Bool := do
  let (taken, registry) ← settle ((← session key).take id)
  setSession key registry
  match taken with
  | none => return false
  | some resource =>
    release resource
    return true

def isAlive (id : ResourceId) : Operation Bool := do
  settle ((← session key).isAlive id)

def unwrap {ν : Type} (token : Token ν) : Operation ν := do
  raise (← settle (token.unwrap (← session key)))

-- The number by which the library knows the unit behind an identity.
def unitNumber (id : ResourceId) : Operation (Option Nat) := do
  return (((← session key).find? id.serial).bind (·.resource.asUnit?)).map (·.1.number)

def isValid {ν : Type} (token : Token ν) : Operation Bool := do
  return (← settle (token.unwrap (← session key))).isOk

def readOption (contents : Option Native.Bytes) : Operation (Option String) := do
  (← OwnedString.ofRaw contents).intoOption

def readText (contents : Option Native.Bytes) : Operation String := do
  (← OwnedString.ofRaw contents).intoText

def askCursor (query : CursorQuery) (token : CursorToken) : Operation Answer := do
  let raw ← unwrap key token
  let unit ← unitNumber key token.owner
  call (.askCursor query raw unit)
  let type (raw : Native.TypeValue) : Answer := .type (.wrap raw token.owner)
  match query with
  | .kind => return .number (library.kind raw).toInt
  | .spelling => return .text (← readText (library.spelling raw))
  | .displayName => return .text (← readText (library.displayName raw))
  | .location =>
    let place := library.place raw
    let file ← match place.file with
      | none => pure none
      | some name => do
        call (.fileName raw unit)
        readOption name
    return .location ⟨file, place.line, place.column, place.offset⟩
  | .type => return type (library.type raw)
  | .rawComment => return .optionalText (← readOption (library.rawComment raw))
  | .enumConstantValue => return .number (library.enumConstantValue raw).toInt
  | .underlyingType => return type (library.underlyingType raw)
  | .resultType => return type (library.resultType raw)
  | .argumentCount => return .number (library.argumentCount raw).toInt
  | .argument index => return .cursor (.wrap (library.argument raw index) token.owner)
  | .isNull => return .flag (library.isNull raw)

def askType (query : TypeQuery) (token : TypeToken) : Operation Answer := do
  let raw ← unwrap key token
  let type (raw : Native.TypeValue) : Answer := .type (.wrap raw token.owner)
  -- The kind is a part of the value, and the library is not asked for it.
  if query ≠ .kind then call (.askType query raw (← unitNumber key token.owner))
  match query with
  | .kind => return .number raw.kind.toInt
  | .spelling => return .text (← readText (library.typeSpelling raw))
  | .nullability => return .nullability (.ofReport (library.nullability raw).toInt)
  | .result => return type (library.typeResult raw)
  | .argumentCount => return .number (library.typeArgumentCount raw).toInt
  | .argument index => return type (library.typeArgument raw index)
  | .canonical => return type (library.canonical raw)
  | .pointee => return type (library.pointee raw)

-- Whether the unit is alive is asked for each level: the visitor may have disposed of it.
def children (parent : CursorToken) : Operation (List CursorToken) := do
  let raw ← unwrap key parent
  call (.children raw (← unitNumber key parent.owner))
  return (library.children raw).map (Token.wrap · parent.owner)

-- What a traversal asks of a session. The visitor has a state of its own beside the thread.
def host {τ ε : Type} (convert : Interrupt → ε)
    (visit : (child parent : CursorToken) → Thread × τ → Except ε ChildVisit × (Thread × τ)) :
    Traversal.Host CursorToken Interrupt ε (Thread × τ) where
  children parent := fun (thread, own) =>
    let (result, thread) := (children library key parent).run thread
    (result, thread, own)
  visit := visit
  convert := convert

-- Walks the descendants of a node.
def visitChildren {τ ε : Type} (convert : Interrupt → ε)
    (visit : (child parent : CursorToken) → Thread × τ → Except ε ChildVisit × (Thread × τ))
    (fuel : Nat) (root : CursorToken) (s : Thread × τ) :
    Option (Except ε VisitOutcome × (Thread × τ)) :=
  (Traversal.run (host library key convert visit) fuel root {} s).map fun ended =>
    (ended.result, ended.host)

end Session

end SyntaxHandles
