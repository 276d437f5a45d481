import SyntaxHandles.Dynamic.Appearance
import SyntaxHandles.Dynamic.Host

-- The texts in which values show themselves and the texts that they stand for.

namespace SyntaxHandles.Dynamic

-- Where a class belongs, unless something else was put there.
def homeOf (c : Class) : Part (Option String) := do
  if !c.isOwn then return some (c.home (← ask (·.interface)))
  match (← guiseOf c).entries.lookup "__module__" with
  | some (.text home _) => return some home
  | _ => return none

-- Classes that belong to the host are named without it, whatever else they are called.
def classText (c : Class) : Part String := do
  let name ← match ← homeOf c with
    | none | some "builtins" => titleOf c
    | some home => do pure (home ++ "." ++ (← qualifiedNameOf c))
  return "<class '" ++ name ++ "'>"

-- What is behind the last point of a name.
def lastName (name : String) : String :=
  (name.splitOn ".").getLast?.getD name

-- The state of something of a session, told by the session.
def heldText (session : Nat) : SessionScript.Item → Operation String
  | .index handle => do
    let alive ← Session.isAlive session handle.id
    return "Index(alive=" ++ (if alive then "true" else "false") ++ ")"
  | .unit handle => do
    let filename ← tryCatch (some <$> Session.filename session handle) fun
      | .fault _ => pure none
      | conflict => throw conflict
    return match filename with
      | some filename => "TranslationUnit(filename='" ++ filename ++ "')"
      | none => "TranslationUnit(disposed)"
  | .cursor token => return Value.tokenText .cursor token.raw.kind token.owner
  | .type token => return Value.tokenText .type token.raw.kind token.owner

def mostDigits : Nat := 4300

def tooLong : String :=
  "Exceeds the limit (" ++ toString mostDigits ++
    " digits) for integer string conversion; use sys.set_int_max_str_digits() to increase the limit"

def intText (n : Int) : Part String := do
  -- Every digit takes more than three bits.
  if mostDigits * 3 < n.natAbs.log2 && mostDigits < (Nat.toDigits 10 n.natAbs).length then
    raise (.value tooLong)
  return toString n

namespace Host

variable (host : Host)

-- An interface says where it came from, as far as it knows.
def interfaceText (shown : List Nat) (table : Nat) : Part String := do
  let entries ← tableAt table
  let name ← host.inspect shown ((named? "__name__" entries).getD (.text "?"))
  match named? "__file__" entries, named? "__loader__" entries with
  | some file, _ => return "<module " ++ name ++ " from " ++ (← host.inspect shown file) ++ ">"
  | none, none | none, some .nothing => return "<module " ++ name ++ ">"
  | none, some loader => return "<module " ++ name ++ " (" ++ (← host.inspect shown loader) ++ ")>"

-- A class among others is named by what it is called where it belongs, and so is a function. What
-- looks like something that is told what its objects hold shows itself.
def partText (shown : List Nat) : Value → Part String
  | .function f => do
    match ← functionHome f with
    | .text "builtins" _ => return f.name
    | .nothing => host.inspect shown (.function f)
    | home => return (← host.plainText home) ++ "." ++ f.name
  | .getter => return "getattr"
  | .class c => do
    let origin ← lookUp? "__origin__" c.ancestors
    let arguments ← lookUp? "__args__" c.ancestors
    if origin.isSome && arguments.isSome then return ← classText c
    match ← homeOf c with
    | some "builtins" => qualifiedNameOf c
    | some home => return home ++ "." ++ (← qualifiedNameOf c)
    | none => classText c
  | value => host.inspect shown value

-- Where there is a choice, the class of nothing is named like its object.
def choiceText (shown : List Nat) : Value → Part String
  | .class (.host "NoneType") => return "None"
  | value => host.partText shown value

def entriesText (shown : List Nat) (entries : List (Value × Value)) : Part String := do
  return Value.entriesText (← entries.mapM fun (key, value) => do
    return (← host.inspect shown key, ← host.inspect shown value))

-- What the class of a value has shows it, unless the class was changed.
def ownText (shown : List Nat) (value : Value) : Part String :=
  let inside (identity : Nat) : List Nat :=
    if identity = 0 then shown else identity :: shown
  match value with
  | .int n _ => intText n
  | .list identity => do
    if shown.contains identity then return "[...]"
    return Value.listText (← (← listAt identity).mapM (host.inspect (inside identity)))
  | .tuple items identity => do
    if shown.contains identity then return "(...)"
    return Value.tupleText (← items.mapM (host.inspect (inside identity)))
  | .table identity => do
    if shown.contains identity then return "\x7b...\x7d"
    host.entriesText (inside identity) (← tableAt identity)
  | .set identity => do
    if shown.contains identity then return "set(...)"
    return Value.setText (← (← ringAt identity).items.mapM (host.inspect (inside identity)))
  | .view aspect table identity => do
    if shown.contains identity then return "..."
    let items := (← tableAt table).map aspect.shown
    return (Value.ofAspect aspect).name ++ "(" ++
      Value.listText (← items.mapM (host.inspect (inside identity))) ++ ")"
  | .mirror (.table table) _ => do
    return "mappingproxy(" ++ (← host.inspect shown (.table table)) ++ ")"
  | .mirror source _ => do
    return "mappingproxy(" ++ (← host.entriesText shown (← mirrored source)) ++ ")"
  | .exception identity => do
    let account ← accountOf identity
    let name := lastName (← nameOf account.ofClass)
    match account.arguments with
    | .tuple [argument] _ => return name ++ "(" ++ (← host.inspect shown argument) ++ ")"
    | arguments => return name ++ (← host.inspect shown arguments)
  | .held _ session item => attempt (heldText session item)
  | .location _ place => return place.text
  | .function f => return "<built-in function " ++ f.name ++ ">"
  | .getter => return "<built-in function getattr>"
  | .told _ _ name _ => return "<built-in function " ++ name ++ ">"
  | .class c => classText c
  | .feature c kind name => return Value.featureText (← titleOf c) kind name
  | .interface table => host.interfaceText shown table
  | .union members _ => return " | ".intercalate (← members.mapM (host.choiceText shown))
  | .generic isSpread origin arguments _ => do
    let texts ← arguments.mapM (host.partText shown)
    let inner := if texts.isEmpty then "()" else ", ".intercalate texts
    let text := (← host.partText shown origin) ++ "[" ++ inner ++ "]"
    return if isSpread then "*" ++ text else text
  | value => return value.constantText

def overridingText (value callee : Value) : Part String := do
  asText (← host.tellOverriding value callee [])

def inspectValue (shown : List Nat) (value : Value) : Part String := do
  match ← overriding? value "__repr__" with
  | some callee => host.overridingText value callee
  | none => host.ownText shown value

-- Exceptions stand for what was said when they were made.
def ownPlainText (value : Value) : Part String :=
  match value with
  | .text text _ => return text
  | .exception identity => do
    match (← accountOf identity).arguments with
    | .tuple [] _ => return ""
    | .tuple [argument] _ => host.plainText argument
    | arguments => host.plainText arguments
  | .mirror (.table table) _ => host.plainText (.table table)
  | .mirror source _ => do host.entriesText [] (← mirrored source)
  | value => host.inspectValue [] value

def plainTextOf (value : Value) : Part String := do
  match ← overriding? value "__str__" with
  | some callee => host.overridingText value callee
  | none => host.ownPlainText value

end Host

end SyntaxHandles.Dynamic
