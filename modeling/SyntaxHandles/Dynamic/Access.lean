import SyntaxHandles.Dynamic.Inspect
import SyntaxHandles.Dynamic.Parameter

-- What is found in an object under a name, and what can be put there. What a class computes for its
-- objects goes before what is attached to an object, and that before all else that its class has.

namespace SyntaxHandles.Dynamic

-- A feature fits the objects of its class and of those derived from it.
def checkFits (giver : Class) (value : Value) : Part Unit := do
  if !(← classOf value).ancestors.contains giver then refuse

def classAnnotations (c : Class) : Part Value := do
  if !c.isOwn then raise .noAttribute
  match (← guiseOf c).entries.lookup "__annotations__" with
  | some value => return value
  | none =>
    let table ← newTable []
    changeGuise c fun guise =>
      { guise with entries := replaceAt "__annotations__" table guise.entries }
    return table

-- What a class says of itself.
def classAttribute (c : Class) : String → Part Value
  | "__name__" => do textOf (← nameOf c)
  | "__qualname__" => do textOf (← qualifiedNameOf c)
  | "__module__" => do
    if c.isOwn then orNoAttribute ((← guiseOf c).entries.lookup "__module__")
    else textOf (c.home (← ask (·.interface)))
  | "__doc__" => do
    if !c.isOwn && c.hostDocumentation.isSome then return .lines c.hostDocumentation
    else return (← ownOf? c "__doc__").getD .nothing
  | "__text_signature__" => return .textOrNothing c.signature
  | "__base__" => return ((c.ancestors[1]?).map .class).getD .nothing
  | "__bases__" => return .tuple ((c.ancestors[1]?).map .class).toList
  | "__mro__" => return .tuple (c.ancestors.map .class)
  | "__basicsize__" => return .int c.figures.size
  | "__itemsize__" => return .int c.figures.itemSize
  | "__flags__" => return .int c.figures.marks
  | "__dictoffset__" => return .int c.figures.attachmentPlace
  | "__weakrefoffset__" => return .int c.figures.referencePlace
  | "__dict__" => return .mirror (.class c)
  | "__annotations__" => classAnnotations c
  | "__abstractmethods__" => do
    orNoAttribute (← (if c = .classes then return none else ownOf? c "__abstractmethods__"))
  | _ => raise .noAttribute

def getterDocumentation : List String := [
  "getattr(object, name[, default]) -> value",
  "",
  "Get a named attribute from an object; getattr(x, 'y') is equivalent to x.y.",
  "When a default argument is given, it is returned when the attribute doesn't",
  "exist; without it, an exception is raised in that case."]

def getterAttribute : String → Part Value
  | "__module__" => textOf "builtins"
  | "__name__" | "__qualname__" => textOf "getattr"
  | "__doc__" => return .lines (some getterDocumentation)
  | "__text_signature__" => return .nothing
  | _ => raise .noAttribute

def functionAttribute (f : Function) : String → Part Value
  | "__module__" => functionHome f
  | "__name__" | "__qualname__" => textOf f.name
  | "__doc__" => return .lines f.documentation
  | "__text_signature__" => textOf f.signature
  | "__self__" => return Interface.own
  | _ => raise .noAttribute

def toldAttribute (names : Nat) (giver : Class) (name : String) : String → Part Value
  | "__module__" => return .nothing
  | "__name__" | "__qualname__" => textOf name
  | "__doc__" => return .textOrNothing (giver.featureDocumentation name)
  | "__text_signature__" => return .textOrNothing (giver.featureSignature name)
  | "__self__" => return .interface names
  | _ => raise .noAttribute

def featureAttribute (giver : Class) (name : String) : String → Part Value
  | "__objclass__" => return .class giver
  | "__name__" => textOf name
  | "__qualname__" => do textOf ((← qualifiedNameOf giver) ++ "." ++ name)
  | "__doc__" => return .textOrNothing (giver.featureDocumentation name)
  | "__text_signature__" => return .textOrNothing (giver.featureSignature name)
  | _ => raise .noAttribute

def exceptionAttribute (identity : Nat) (name : String) : Part Value := do
  let account ← accountOf identity
  match name with
  | "args" => return account.arguments
  | "__cause__" => return account.cause
  | "__context__" => return account.context
  | "__suppress_context__" => return .flag account.isContextSuppressed
  | "__dict__" => return .table (← attachmentsOf identity)
  | "__traceback__" | "__weakref__" => return .nothing
  | _ => raise .noAttribute

def heldAttribute (session : Nat) : SessionScript.Item → String → Part Value
  | .index handle, "is_alive" => do
    return .flag (← attempt (Session.isAlive session handle.id))
  | .unit handle, "is_alive" => do return .flag (← attempt (Session.isAlive session handle.id))
  | .unit handle, "filename" => do textOf (← attempt (Session.filename session handle))
  | .cursor token, "raw_kind" => return .int token.raw.kind.toInt
  | .type token, "raw_kind" => return .int token.raw.kind.toInt
  | .cursor token, "is_valid" => do return .flag (← attempt (Session.isValid session token))
  | .type token, "is_valid" => do return .flag (← attempt (Session.isValid session token))
  | _, _ => raise .noAttribute

def placeAttribute (place : SourceLocation) : String → Part Value
  | "file" => return .textOrNothing place.file
  | "line" => return .int place.line.toNat
  | "column" => return .int place.column.toNat
  | "offset" => return .int place.offset.toNat
  | _ => raise .noAttribute

-- The parts of a number.
def numberAttribute (value : Value) (name : String) : Part Value :=
  match value, name with
  | .complex x _ _, "real" | .float x _, "real" => return .float x
  | .complex _ y _, "imag" => return .float y
  | .float .., "imag" => return .float 0
  | value, name => match value.number?, name with
    | some n, "real" | some n, "numerator" => return .int n
    | some _, "imag" => return .int 0
    | some _, "denominator" => return .int 1
    | _, _ => raise .noAttribute

def genericAttribute (isSpread : Bool) (origin : Value) (arguments : List Value) :
    String → Part Value
  | "__origin__" => return origin
  | "__args__" => return .tuple arguments
  | "__parameters__" => return .tuple []
  | "__unpacked__" => return .flag isSpread
  | "__typing_unpacked_tuple_args__" =>
    match isSpread, origin with
    | true, .class (.host "tuple") => return .tuple arguments
    | _, _ => return .nothing
  | _ => raise .noAttribute

-- What is annotated is kept among all else that an interface has.
def interfaceAttribute (table : Nat) : String → Part Value
  | "__dict__" => return .table table
  | "__annotations__" => do
    match named? "__annotations__" (← tableAt table) with
    | some value => return value
    | none =>
      let annotations ← newTable []
      putNamed table "__annotations__" annotations
      return annotations
  | _ => raise .noAttribute

-- What a class computes for one of its objects.
def computed (value : Value) (name : String) : Part Value :=
  match value, name with
  | value, "__class__" => return .class (← classOf value)
  | .class c, name => classAttribute c name
  | .function f, name => functionAttribute f name
  | .getter, name => getterAttribute name
  | .told names giver own _, name => toldAttribute names giver own name
  | .feature giver _ own, name => featureAttribute giver own name
  | .exception identity, name => exceptionAttribute identity name
  | .held _ session item, name => heldAttribute session item name
  | .location _ place, name => placeAttribute place name
  | .view _ table _, "mapping" => return .mirror (.table table)
  | .union members _, "__args__" => return .tuple members
  | .union .., "__parameters__" => return .tuple []
  | .generic isSpread origin arguments _, name =>
    genericAttribute isSpread origin arguments name
  | .interface table, name => interfaceAttribute table name
  | value, name => numberAttribute value name

-- A value, or something that an object can be told.
inductive Found
  | plain (value : Value)
  | method (object : Value) (giver : Class) (kind : FeatureKind) (name : String)

-- What is attached to an object. For a class this is what its objects have from it.
def attachedIn? (value : Value) (name : String) : Part (Option Value) := do
  match value with
  | .exception identity => attached? identity name
  | .interface table => do return named? name (← tableAt table)
  | .class c => match ← lookUp? name c.ancestors with
    | some (.feature giver .ofClass name) => return some (.bound giver c name)
    | found => return found
  | _ => return none

def lookIn (value : Value) (own? : Part (Option Value)) (name : String) : Part Found := do
  let c ← classOf value
  let found ← lookUp? name c.ancestors
  if let some (.feature giver kind name) := found then
    if kind.isData then
      checkFits giver value
      return .plain (← computed value name)
  if let some own ← own? then return .plain own
  match found with
  | some (.feature giver .ofClass name) => return .plain (.bound giver c name)
  | some (.feature giver kind name) => do
    checkFits giver value
    return .method value giver kind name
  | some value => return .plain value
  | none => raise .noAttribute

-- What is asked of a class that is told what its objects hold, and not of the class alone.
def ofGeneric : List String :=
  ["__class__", "__origin__", "__args__", "__unpacked__", "__parameters__",
    "__typing_unpacked_tuple_args__", "__mro_entries__", "__reduce_ex__", "__reduce__", "__copy__",
    "__deepcopy__"]

def lookFor (value : Value) (name : String) : Part Found := do
  let asked := match value with
    | .generic _ origin .. => if ofGeneric.contains name then value else origin
    | value => value
  lookIn asked (attachedIn? asked name) name

-- What an object can be told is no value apart from the object, unless this is an interface.
def Found.toValue : Found → Part Value
  | .plain value => return value
  | .method (.interface names) giver .method name => return .told names giver name
  | .method .. => raise .noAttribute

def getAttribute (value : Value) (name : String) : Part Value := do
  (← lookFor value name).toValue

def setCause (identity : Nat) (cause : Value) : Part Unit :=
  changeAccount identity fun account => { account with cause, isContextSuppressed := true }

-- Exceptions of the interface may become each other.
def changeClass (value new : Value) : Part Unit := do
  match value, new with
  | .exception identity, .class c =>
    if c.isOwn && c.isException && (← classOf value).isOwn then
      changeAccount identity fun account => { account with ofClass := c }
    else refuse
  | .interface _, .class c => if c = .interfaces then return () else refuse
  | _, _ => refuse

def setArguments (identity : Nat) (items : List Value) : Part Unit := do
  let arguments ← (identified (.tuple items) : Scripting.Script _ Value)
  changeAccount identity fun account => { account with arguments }

def setExceptionAttribute (identity : Nat) (name : String) (value : Value) : Part Unit :=
  match name, value with
  | "args", .tuple .. =>
    changeAccount identity fun account => { account with arguments := value }
  | "args", value => do setArguments identity (← elementsOf value)
  | "__cause__", .exception _ | "__cause__", .nothing => setCause identity value
  | "__context__", .exception _ | "__context__", .nothing =>
    changeAccount identity fun account => { account with context := value }
  | "__suppress_context__", .flag b =>
    changeAccount identity fun account => { account with isContextSuppressed := b }
  | "__traceback__", .nothing => return ()
  | "__dict__", .table table =>
    changeAccount identity fun account => { account with attachments := some table }
  | "__weakref__", _ => raise .noAttribute
  | _, _ => refuse

def setEntry (c : Class) (name : String) (value : Value) : Part Unit := do
  let value ← (identified value : Scripting.Script _ Value)
  changeGuise c fun guise => { guise with entries := replaceAt name value guise.entries }

def noZeros : String := "type name must not contain null characters"

def setClassAttribute (c : Class) (name : String) (value : Value) : Part Unit :=
  match name, value with
  | "__name__", .text name _ => do
    if name.contains '\x00' then raise (.value noZeros)
    changeGuise c fun guise => { guise with name := some name }
  | "__qualname__", .text name _ =>
    changeGuise c fun guise => { guise with qualifiedName := some name }
  | "__bases__", .tuple [.class d] _ => if c.ancestors[1]? = some d then return () else refuse
  | "__name__", _ | "__qualname__", _ | "__bases__", _ => refuse
  | "__module__", _ | "__doc__", _ | "__abstractmethods__", _ | "__annotations__", _ =>
    setEntry c name value
  | _, _ => raise .noAttribute

def setHome (f : Function) (value : Value) : Part Unit :=
  change fun desk => { desk with homes := replaceAt f value desk.homes }

-- Puts a value where a class computes one for its objects.
def setComputed (owner : Value) (name : String) (value : Value) : Part Unit :=
  match owner, name with
  | owner, "__class__" => changeClass owner value
  | .exception identity, name => setExceptionAttribute identity name value
  | .class c, name => setClassAttribute c name value
  | .function f, "__module__" => setHome f value
  | .interface table, "__annotations__" => putNamed table "__annotations__" value
  | _, _ => raise .noAttribute

-- The computed attribute that an object has under a name.
def dataFeature? (owner : Value) (name : String) : Part (Option String) := do
  match ← lookUp? name (← classOf owner).ancestors with
  | some (.feature giver kind own) =>
    if kind.isData then
      checkFits giver owner
      return some own
    else return none
  | _ => return none

-- Only exceptions, the interface and its classes take what they do not have yet, and the classes of
-- the host take nothing.
def setAttribute (owner : Value) (name : String) (value : Value) : Part Unit := do
  if let .class (.host _) := owner then refuse
  match ← dataFeature? owner name, owner with
  | some own, owner => setComputed owner own value
  | none, .exception identity => do putNamed (← attachmentsOf identity) name value
  | none, .class c => setEntry c name value
  | none, .interface table => putNamed table name value
  | none, _ => raise .noAttribute

def removeEntry (c : Class) (name : String) : Part Unit := do
  if ((← guiseOf c).entries.lookup name).isNone then raise .noAttribute
  changeGuise c fun guise =>
    { guise with entries := guise.entries.filter fun (other, _) => other ≠ name }

-- Little that is computed can be taken away. Where it could be set, this is mostly refused.
def deleteComputed (owner : Value) (name : String) : Part Unit :=
  match owner, name with
  | _, "__class__" => refuse
  | .exception _, "__weakref__" => raise .noAttribute
  | .exception _, _ => refuse
  | .class c, name =>
    if name = "__annotations__" || name = "__abstractmethods__" then removeEntry c name
    else if ["__name__", "__qualname__", "__bases__", "__module__", "__doc__"].contains name then
      refuse
    else raise .noAttribute
  | .function f, "__module__" => setHome f .nothing
  | .interface table, "__annotations__" => removeNamed table "__annotations__"
  | _, _ => raise .noAttribute

def deleteAttribute (owner : Value) (name : String) : Part Unit := do
  if let .class (.host _) := owner then refuse
  match ← dataFeature? owner name, owner with
  | some own, owner => deleteComputed owner own
  | none, .exception identity => do removeNamed (← attachmentsOf identity) name
  | none, .class c => removeEntry c name
  | none, .interface table => removeNamed table name
  | none, _ => raise .noAttribute

namespace Host

variable (host : Host)

-- Looks for what a value has under a name. A class may have been given ways of its own to look, and
-- another for what is missing.
def lookFor (value : Value) (name : String) : Part Found := do
  let look : Part Found := do
    match ← overriding? value "__getattribute__" with
    | none | some (.feature _ .operation "__getattribute__") => Dynamic.lookFor value name
    | some callee => return .plain (← host.tellOverriding value callee [.text name])
  let found : Except Problem Found ← look.run
  match found with
  | .ok found => return found
  | .error (.raised .noAttribute) => match ← overriding? value "__getattr__" with
    | some callee => return .plain (← host.tellOverriding value callee [.text name])
    | none => raise .noAttribute
  | .error problem => throw problem

def getAttribute (value : Value) (name : String) : Part Value := do
  (← host.lookFor value name).toValue

def setAttribute (value : Value) (name : String) (new : Value) : Part Unit := do
  match ← overriding? value "__setattr__" with
  | some callee => do let _ ← host.tellOverriding value callee [.text name, new]
  | none => Dynamic.setAttribute value name new

end Host

end SyntaxHandles.Dynamic
