import SyntaxHandles.Dynamic.Inspect
import SyntaxHandles.Dynamic.Telling.Number
import SyntaxHandles.Dynamic.Telling.Chars

-- Values as they are written within texts.

namespace SyntaxHandles.Dynamic.Telling

-- A text in which characters beyond ASCII are named by their code points.
def plainAscii (text : String) : List Char :=
  text.toList.flatMap fun c =>
    if c.toNat < 0x80 then [c] else (Text.Handling.backslash.forChar? c).getD []

-- What is no text and no number is written in one way only.
def writtenBy (host : Host) (giver : Class) (value : Value) (spec : String) : Part Value := do
  match value with
  | .text text _ =>
    if giver = .anything then plain else textOf (← orRaise (Format.text spec text))
  | value =>
    let isNumber := match value with
      | .float .. | .complex .. => true
      | value => value.number?.isSome
    if giver ≠ .anything && isNumber then
      formatted host value spec
    else plain
where
  plain : Part Value := do
    if !spec.isEmpty then refuse
    textOf (← host.plainText value)

-- A value as a specification asks for it.
def written (host : Host) (value : Value) (spec : String) : Part String := do
  match ← overriding? value "__format__" with
  | some callee => asText (← host.tellOverriding value callee [.text spec])
  | none => asText (← writtenBy host value.ofClass value spec)

end SyntaxHandles.Dynamic.Telling
