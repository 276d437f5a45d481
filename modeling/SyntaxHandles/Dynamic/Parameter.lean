import SyntaxHandles.Dynamic.Appearance
import SyntaxHandles.Dynamic.Raised

-- What functions take. A call first gives a value to each parameter, and only then are the values
-- read, in the order of the parameters, as what the parameters stand for.

namespace SyntaxHandles.Dynamic

-- Something of a session, with the session that it belongs to.
structure Held (α : Type) where
  session : Nat
  item : α

inductive Kind
  | flag
  | word
  | text
  | texts
  | index
  | unit
  | cursor
  | type
  | anything

namespace Kind

abbrev Meaning : Kind → Type
  | flag => Bool
  | word => UInt32
  | text => String
  | texts => List String
  | index => Held IndexHandle
  | unit => Held UnitHandle
  | cursor => Held CursorToken
  | type => Held TypeToken
  | anything => Value

def refused {α : Type} : Except Raised α := .error (.type none)

def readWord (n : Int) : Except Raised UInt32 :=
  if 0 ≤ n ∧ n < UInt32.size then .ok (UInt32.ofNat n.toNat) else .error .overflow

def readText : Value → Except Raised String
  | .text given _ => .ok given
  | _ => refused

def readHeld {α : Type} (item? : SessionScript.Item → Option α) : Value → Except Raised (Held α)
  | .held _ session item =>
    match item? item with
    | some item => .ok ⟨session, item⟩
    | none => refused
  | _ => refused

-- A text is no sequence of texts, and an empty run of bytes is an empty sequence of anything. What
-- a list holds is kept elsewhere.
def readTexts (contents : Nat → List Value) : Value → Except Raised (List String)
  | .nothing => .ok []
  | .tuple items _ => items.mapM readText
  | .list identity => (contents identity).mapM readText
  | .bytes [] _ => .ok []
  | _ => refused

-- Numbers are no flags, but flags are numbers.
def read (contents : Nat → List Value) : (kind : Kind) → Value → Except Raised kind.Meaning
  | flag, .flag b => .ok b
  | flag, _ => refused
  | word, value =>
    match value.whole? with
    | some n => readWord n
    | none => refused
  | text, value => readText value
  | texts, value => readTexts contents value
  | index, value => readHeld SessionScript.Item.asIndex? value
  | unit, value => readHeld SessionScript.Item.asUnit? value
  | cursor, value => readHeld SessionScript.Item.asCursor? value
  | type, value => readHeld SessionScript.Item.asType? value
  | anything, value => .ok value

end Kind

structure Parameter where
  name : String
  kind : Kind
  default : Option Value := none

-- A parameter as a signature shows it.
def Parameter.text (parameter : Parameter) : String :=
  match parameter.default with
  | none => parameter.name
  | some value => parameter.name ++ "=" ++ value.constantText

abbrev Values : List Parameter → Type
  | [] => Unit
  | _ :: parameters => Value × Values parameters

abbrev Arguments : List Parameter → Type
  | [] => Unit
  | parameter :: parameters => parameter.kind.Meaning × Arguments parameters

-- Values are given in place or by name, and nothing twice.
def bind : (parameters : List Parameter) → (values : List Value) → (named : List (String × Value)) →
    Except Raised (Values parameters)
  | [], [], _ => .ok ()
  | [], _ :: _, _ => .error (.type none)
  | parameter :: parameters, value :: values, named =>
    if (named.lookup parameter.name).isSome then .error (.type none)
    else (bind parameters values named).map (value, ·)
  | parameter :: parameters, [], named =>
    match named.lookup parameter.name <|> parameter.default with
    | none => .error (.type none)
    | some value => (bind parameters [] named).map (value, ·)

def bindAll (parameters : List Parameter) (values : List Value) (named : List (String × Value)) :
    Except Raised (Values parameters) :=
  if named.all fun (name, _) => parameters.any (·.name == name) then bind parameters values named
  else .error (.type none)

def readAll (contents : Nat → List Value) : (parameters : List Parameter) → Values parameters →
    Except Raised (Arguments parameters)
  | [], () => .ok ()
  | parameter :: parameters, (value, values) => do
    let argument ← parameter.kind.read contents value
    return (argument, ← readAll contents parameters values)

namespace Function

def parameters : Function → List Parameter
  | createIndex => [
    ⟨"exclude_declarations_from_pch", .flag, some (.flag false)⟩,
    ⟨"display_diagnostics", .flag, some (.flag false)⟩]
  | parse => [
    ⟨"index", .index, none⟩,
    ⟨"filename", .text, none⟩,
    ⟨"args", .texts, some .nothing⟩,
    ⟨"options", .word, some (.int 0)⟩]
  | rootCursor => [⟨"unit", .unit, none⟩]
  | dispose => [⟨"handle", .anything, none⟩]
  | cursorKind | cursorSpelling | cursorDisplayName | cursorLocation | cursorType
  | cursorRawComment | enumConstantValue | underlyingType | cursorResultType | argumentCount
  | isNullCursor => [⟨"cursor", .cursor, none⟩]
  | argument => [⟨"cursor", .cursor, none⟩, ⟨"index", .word, none⟩]
  | typeKind | typeSpelling | typeNullability | typeResult | typeArgumentCount | canonicalType
  | pointeeType => [⟨"ty", .type, none⟩]
  | typeArgument => [⟨"ty", .type, none⟩, ⟨"index", .word, none⟩]
  | visitChildren => [⟨"cursor", .cursor, none⟩, ⟨"callback", .anything, none⟩]

def signature (f : Function) : String :=
  "(" ++ ", ".intercalate (f.parameters.map Parameter.text) ++ ")"

end Function

end SyntaxHandles.Dynamic
