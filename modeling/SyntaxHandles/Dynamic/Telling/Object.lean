import SyntaxHandles.Dynamic.Hash
import SyntaxHandles.Dynamic.Judgement
import SyntaxHandles.Dynamic.Telling.Made

-- What objects of all kinds do when they are told to, and what exceptions, classes, features,
-- functions and interfaces do beside that.

namespace SyntaxHandles.Dynamic.Telling

-- Flags show themselves as numbers where numbers do.
def inspectBy (host : Host) (giver : Class) (value : Value) : Part Value := do
  match value.number? with
  | some n =>
    if giver = .host "int" then textOf (← intText n) else textOf (← host.ownText [] value)
  | none => textOf (← host.ownText [] value)

-- What is no text of its own stands for the text that tells its state.
def plainTextBy (host : Host) (giver : Class) (value : Value) : Part Value := do
  if giver = .anything then textOf (← host.inspectValue [] value)
  else textOf (← host.ownPlainText value)

-- A class is asked for what it has as any object would be.
def attributeBy (giver : Class) (value : Value) (name : String) : Part Value := do
  match giver, value with
  | .host "object", .class c => do (← lookIn value (ownOf? c name) name).toValue
  | .host "object", value => do (← lookIn value (attachedIn? value name) name).toValue
  | _, value => getAttribute value name

-- Classes change only in their own way.
def changeBy (giver : Class) (value : Value) (part : Part Unit) : Part Value :=
  match giver, value with
  | .host "object", .class _ => refuse
  | _, _ => done part

-- What an object is set up with, where it does not care.
def setUpAnything (value : Value) (values : List Value) : Part Value := do
  let isParticular := match value with
    | .exception _ | .class _ | .list _ | .table _ | .interface _ => true
    | _ => false
  if isParticular && !values.isEmpty then refuse
  return .nothing

-- The names that a class has, followed by those of what it derives from.
def namesOf (classes : List Class) : Part (List String) := do
  let names ← classes.mapM fun c => do
    if c.isOwn then return (← guiseOf c).entries.map Prod.fst
    else return c.members.map Catalogue.Member.name
  return names.flatten

def attachedNames : Value → Part (List Value)
  | .exception identity => do return (← tableAt (← attachmentsOf identity)).map Prod.fst
  | .interface table => do return (← tableAt table).map Prod.fst
  | _ => return []

def textIn? : Value → Option String
  | .text text _ => some text
  | _ => none

def listOfNames (names : List String) : Part Value :=
  newList (names.eraseDups.map fun name => .text name)

-- What is attached goes before all else, whether it is a name or not.
def namesIn (value : Value) : Part Value := do
  let attached ← attachedNames value
  let names := (← namesOf (← classOf value).ancestors).eraseDups
  let others := names.filter fun name => !(attached.filterMap textIn?).contains name
  newList (attached ++ others.map fun name => .text name)

def roomOf (value : Value) : Part Value := do
  let figures := (← classOf value).figures
  let items : Int := match value with
    | .tuple items _ => items.length
    | .bytes bytes _ => bytes.length
    -- Numbers are kept in digits of thirty bits. Below zero, the digits count as missing.
    | .int n _ => n.sign * ((Whole.bitLength n + 29) / 30)
    | .flag b => if b then 1 else 0
    | _ => 0
  return .int (figures.size + items * figures.itemSize)

-- Protocols are told apart by numbers of 32 bits.
def checkProtocol (protocol : Value) : Part Unit := do
  let _ ← shortOf protocol

-- What an exception is made of: its class, what was said, and what was attached.
def reduceException (identity : Nat) : Part Value := do
  let account ← accountOf identity
  let attachments := account.attachments.toList.map Value.table
  return .tuple ([.class account.ofClass, account.arguments] ++ attachments)

-- What an object is made of, so that it can be made again.
def reduce : Value → Part Value
  | .exception identity => reduceException identity
  | .set identity => do reduceSet (← ringAt identity)
  | .function f => textOf f.name
  | .getter => textOf "getattr"
  | .told _ _ name _ => textOf name
  | .bound _ receiver name => return .tuple [.getter, .tuple [.class receiver, .text name]]
  | .undecided => textOf "NotImplemented"
  | .feature giver kind name =>
    if kind.isDoable || kind = .stored then
      return .tuple [.getter, .tuple [.class giver, .text name]]
    else refuse
  | .generic _ origin arguments _ =>
    return .tuple [.class (.host "GenericAlias"), .tuple [origin, .tuple arguments]]
  | _ => refuse

-- When an object of a class is asked for its state, the class keeps which places it has for values
-- of its own. Classes of the interface have none.
def keepPlaces (c : Class) : Part Unit := do
  if c.isOwn then
    let guise ← guiseOf c
    if (guise.entries.lookup "__slotnames__").isNone then
      let places ← newList []
      changeGuise c fun guise =>
        { guise with entries := replaceAt "__slotnames__" places guise.entries }

-- Nothing was attached to most objects.
def stateOf (value : Value) : Part Value := do
  keepPlaces (← classOf value)
  match value with
  | .exception identity =>
    match (← accountOf identity).attachments with
    | some table => if (← tableAt table).isEmpty then return .nothing else return .table table
    | none => return .nothing
  | .class c => if c.isOwn then newTable (← mirrored value) else return .nothing
  | .interface table => return .table table
  | _ => return .nothing

def tellAnything (host : Host) (name : String) (value : Value) (values : List Value) :
    Part Value := do
  match name, values with
  | "__init__", values => setUpAnything value values
  | "__reduce_ex__", [protocol] =>
    checkProtocol protocol
    match ← overriding? value "__reduce__" with
    | some callee => host.tellOverriding value callee []
    | none => reduce value
  | "__getstate__", [] => stateOf value
  | "__sizeof__", [] => roomOf value
  | "__dir__", [] => namesIn value
  | _, _ => refuse

-- Attaches what a table has to an exception.
def restore (host : Host) (value : Value) : List (Value × Value) → Part Unit
  | [] => return ()
  | (key, attached) :: rest => do
    host.setAttribute value (← asText key) attached
    restore host value rest

-- Notes are kept in a list, which the first note makes.
def addNote (host : Host) (value note : Value) : Part Unit := do
  let notes : Except Problem Found ← (host.lookFor value "__notes__").run
  match notes with
  | .ok (.plain (.list identity)) => setList identity ((← listAt identity) ++ [note])
  | .ok _ => refuse
  | .error (.raised .noAttribute) => host.setAttribute value "__notes__" (← newList [note])
  | .error problem => throw problem

def tellException (host : Host) (name : String) (identity : Nat) (values : List Value) :
    Part Value := do
  let value := Value.exception identity
  match name, values with
  | "__init__", values => done (setArguments identity values)
  | "__reduce__", [] => reduceException identity
  | "__setstate__", [.nothing] => return .nothing
  | "__setstate__", [.table table] => done (do restore host value (← tableAt table))
  | "with_traceback", [.nothing] => return value
  | "add_note", [note] => if note.isText then done (addNote host value note) else refuse
  | _, _ => refuse

-- Whether one of some classes is a given one.
def isAmong (wanted : Class) (classes : List Class) : Part Value :=
  return .flag (classes.contains wanted)

-- What may be one of several classes, and what stands for the class of nothing.
def choice? : Value → Option (List Value)
  | .nothing => some [.class .ofNothing]
  | .union members _ => some members
  | .class c => some [.class c]
  | .generic isSpread origin arguments identity =>
    some [.generic isSpread origin arguments identity]
  | _ => none

def withoutRepeats (host : Host) : List Value → List Value → Part (List Value)
  | found, [] => return found
  | found, value :: rest => do
    if ← host.contains value found then withoutRepeats host found rest
    else withoutRepeats host (found ++ [value]) rest

-- A choice of one class is that class.
def unite (host : Host) (a b : Value) : Part Value := do
  match choice? a, choice? b with
  | some as, some bs =>
    match ← withoutRepeats host [] (as ++ bs) with
    | [value] => return value
    | members => return .union members
  | _, _ => return .undecided

-- What a value derives from, itself first. What is told what its objects hold is no class, but
-- derives from the same ones.
def lineage : Value → Part (List Class)
  | .class c => return c.ancestors
  | .generic _ (.class c) .. => return c.ancestors.tail
  | _ => refuse

def tellClass (host : Host) (name : String) (c : Class) (values : List Value) : Part Value := do
  match name, values with
  | "__init__", [_] | "__init__", [_, _, _] => return .nothing
  | "__or__", [other] => unite host (.class c) other
  | "__ror__", [other] => unite host other (.class c)
  | "mro", [] => newList (c.ancestors.map .class)
  | "__subclasses__", [] => newList []
  | "__instancecheck__", [object] => isAmong c (← classOf object).ancestors
  | "__subclasscheck__", [other] => isAmong c (← lineage other)
  | "__dir__", [] => do listOfNames (← namesOf c.ancestors)
  | "__sizeof__", [] => return .int (if c.isOwn then 904 else 408)
  | _, _ => refuse

def getFeature (feature object : Value) (owner : Option Value) : Part Value := do
  match feature, object, owner with
  | _, .nothing, none | _, .nothing, some .nothing => refuse
  | feature, .nothing, some _ => return feature
  | .feature giver kind name, object, _ =>
    checkFits giver object
    if kind.isData then computed object name else raise .noAttribute
  | _, _, _ => refuse

def tellFeature (name : String) (giver : Class) (kind : FeatureKind) (own : String)
    (values : List Value) : Part Value := do
  let feature := Value.feature giver kind own
  match name, values with
  | "__get__", [object] => getFeature feature object none
  | "__get__", [object, owner] => getFeature feature object (some owner)
  | "__set__", [object, value] =>
    checkFits giver object
    done (setComputed object own value)
  | "__delete__", [object] =>
    checkFits giver object
    done (deleteComputed object own)
  | "__reduce__", [] => reduce feature
  | _, _ => refuse

def tellInterface (name : String) (table : Nat) (values : List Value) : Part Value := do
  match name, values with
  | "__init__", values => setUpInterface table values
  | "__dir__", [] => do newList ((← tableAt table).map Prod.fst)
  | _, _ => refuse

-- What an object does that is no number, no text, and holds nothing.
def tellOther (host : Host) (name : String) (value : Value) (values : List Value) :
    Part Value := do
  match value, name, values with
  | .exception identity, name, values => tellException host name identity values
  | .class c, name, values => tellClass host name c values
  | .feature giver kind own, name, values => tellFeature name giver kind own values
  | .interface table, name, values => tellInterface name table values
  | .nothing, "__bool__", [] => return .flag false
  | .undecided, "__bool__", [] => return .flag true
  | .union .., "__or__", [other] | .generic .., "__or__", [other] => unite host value other
  | .union .., "__ror__", [other] | .generic .., "__ror__", [other] => unite host other value
  | .generic _ origin .., "__mro_entries__", [_] => return .tuple [origin]
  | .undecided, "__reduce__", [] | .function _, "__reduce__", [] | .getter, "__reduce__", []
  | .bound .., "__reduce__", [] | .told .., "__reduce__", [] | .generic .., "__reduce__", [] =>
    reduce value
  | _, _, _ => refuse

end SyntaxHandles.Dynamic.Telling
