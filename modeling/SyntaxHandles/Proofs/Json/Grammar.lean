import SyntaxHandles.Json.Value

-- The grammar of Json texts. What a symbol stands for is found at the front of a text, and what is
-- left of the text behind it is another text. A symbol relates the two.

namespace SyntaxHandles.Json

inductive Blanks : List Char → List Char → Prop
  | nil (s : List Char) : Blanks s s
  | cons {c : Char} {s t : List Char} (blank : c ∈ [' ', '\n', '\t', '\r']) (more : Blanks s t) :
      Blanks (c :: s) t

section Strings

-- A digit to the base 16, in either case.
def IsHexDigit (n : Nat) (c : Char) : Prop :=
  n < 16 ∧ (c = hexDigit n ∨ c = (hexDigit n).toUpper)

-- A code unit of UTF-16 is escaped by its four digits.
inductive EscapedUnit (unit : Nat) : List Char → List Char → Prop
  | digits {a b c d : Char} {i j k l : Nat} (first : IsHexDigit i a) (second : IsHexDigit j b)
      (third : IsHexDigit k c) (fourth : IsHexDigit l d)
      (sum : unit = ((i * 16 + j) * 16 + k) * 16 + l) (s : List Char) :
      EscapedUnit unit ('\\' :: 'u' :: a :: b :: c :: d :: s) s

-- The letters that escape a character, each with that character.
def escapeLetters : List (Char × Char) :=
  [('"', '"'), ('\\', '\\'), ('/', '/'), ('b', '\x08'), ('f', '\x0c'), ('n', '\n'), ('r', '\r'),
    ('t', '\t')]

def IsPlain (c : Char) : Prop :=
  c ≠ '"' ∧ c ≠ '\\' ∧ 0x20 ≤ c.toNat

-- A character beyond the first 65536 takes a pair of code units.
inductive SpelledChar (c : Char) : List Char → List Char → Prop
  | plain (plain : IsPlain c) (s : List Char) : SpelledChar c (c :: s) s
  | letter {letter : Char} (known : (letter, c) ∈ escapeLetters) (s : List Char) :
      SpelledChar c ('\\' :: letter :: s) s
  | unit {s t : List Char} (unit : EscapedUnit c.toNat s t) : SpelledChar c s t
  | pair {s t u : List Char} (beyond : 0x10000 ≤ c.toNat)
      (leading : EscapedUnit (0xd800 + (c.toNat - 0x10000) / 0x400) s t)
      (trailing : EscapedUnit (0xdc00 + (c.toNat - 0x10000) % 0x400) t u) : SpelledChar c s u

-- The characters of a string, up to and with its closing quote.
inductive Spelled : List Char → List Char → List Char → Prop
  | quote (s : List Char) : Spelled [] ('"' :: s) s
  | char {c : Char} {chars s t u : List Char} (first : SpelledChar c s t)
      (more : Spelled chars t u) : Spelled (c :: chars) s u

def StringOf (text : String) (s t : List Char) : Prop :=
  ∃ content, s = '"' :: content ∧ Spelled text.toList content t

-- A string of which nobody asks what it spells. Code units may come in any order here.
inductive Content : List Char → List Char → Prop
  | quote (s : List Char) : Content ('"' :: s) s
  | plain {c : Char} {s t : List Char} (plain : IsPlain c) (more : Content s t) :
      Content (c :: s) t
  | letter {letter c : Char} {s t : List Char} (known : (letter, c) ∈ escapeLetters)
      (more : Content s t) : Content ('\\' :: letter :: s) t
  | unit {unit : Nat} {s t u : List Char} (unit : EscapedUnit unit s t) (more : Content t u) :
      Content s u

end Strings

section Numbers

inductive Digits : List Char → List Char → Prop
  | last {c : Char} (digit : c.isDigit) (s : List Char) : Digits (c :: s) s
  | next {c : Char} {s t : List Char} (digit : c.isDigit) (more : Digits s t) : Digits (c :: s) t

-- No needless zero is the first digit.
inductive Whole : List Char → List Char → Prop
  | digit {c : Char} (digit : c.isDigit) (s : List Char) : Whole (c :: s) s
  | digits {c : Char} {s t : List Char} (digit : c.isDigit) (needed : c ≠ '0')
      (more : Digits s t) : Whole (c :: s) t

inductive Fraction : List Char → List Char → Prop
  | absent (s : List Char) : Fraction s s
  | present {s t : List Char} (digits : Digits s t) : Fraction ('.' :: s) t

inductive Exponent : List Char → List Char → Prop
  | absent (s : List Char) : Exponent s s
  | unsigned {e : Char} {s t : List Char} (letter : e ∈ ['e', 'E']) (digits : Digits s t) :
      Exponent (e :: s) t
  | signed {e sign : Char} {s t : List Char} (letter : e ∈ ['e', 'E']) (known : sign ∈ ['+', '-'])
      (digits : Digits s t) : Exponent (e :: sign :: s) t

inductive Unsigned : List Char → List Char → Prop
  | parts {s t u v : List Char} (whole : Whole s t) (fraction : Fraction t u)
      (exponent : Exponent u v) : Unsigned s v

end Numbers

inductive Symbol
  | value
  -- A value with the blanks around it.
  | padded
  -- The elements of a list, at least one, up to and with the closing bracket.
  | elements
  | member
  -- The members of an object, at least one, up to and with the closing brace.
  | members

def words : List (List Char) :=
  [['n', 'u', 'l', 'l'], ['t', 'r', 'u', 'e'], ['f', 'a', 'l', 's', 'e']]

inductive Derives : Symbol → List Char → List Char → Prop
  | word {word : List Char} (known : word ∈ words) (s : List Char) : Derives .value (word ++ s) s
  | number {s t : List Char} (number : Unsigned s t) : Derives .value s t
  | negative {s t : List Char} (number : Unsigned s t) : Derives .value ('-' :: s) t
  | string {s t : List Char} (content : Content s t) : Derives .value ('"' :: s) t
  | emptyList {s t : List Char} (blanks : Blanks s (']' :: t)) : Derives .value ('[' :: s) t
  | list {s t : List Char} (elements : Derives .elements s t) : Derives .value ('[' :: s) t
  | emptyObject {s t : List Char} (blanks : Blanks s ('\x7d' :: t)) :
      Derives .value ('\x7b' :: s) t
  | object {s t : List Char} (members : Derives .members s t) : Derives .value ('\x7b' :: s) t
  | padded {s t u v : List Char} (before : Blanks s t) (value : Derives .value t u)
      (after : Blanks u v) : Derives .padded s v
  | lastElement {s t : List Char} (element : Derives .padded s (']' :: t)) :
      Derives .elements s t
  | nextElement {s t u : List Char} (element : Derives .padded s (',' :: t))
      (more : Derives .elements t u) : Derives .elements s u
  | member {s t u v w : List Char} (before : Blanks s ('"' :: t)) (key : Content t u)
      (after : Blanks u (':' :: v)) (value : Derives .padded v w) : Derives .member s w
  | lastMember {s t : List Char} (member : Derives .member s ('\x7d' :: t)) :
      Derives .members s t
  | nextMember {s t u : List Char} (member : Derives .member s (',' :: t))
      (more : Derives .members t u) : Derives .members s u

section Sequences

variable {α : Type} {P : α → List Char → List Char → Prop}

-- Each with a comma behind it.
inductive Listed (P : α → List Char → List Char → Prop) : List α → List Char → List Char → Prop
  | nil (s : List Char) : Listed P [] s s
  | cons {a : α} {as : List α} {s t u : List Char} (first : P a s (',' :: t))
      (more : Listed P as t u) : Listed P (a :: as) s u

-- What stands between two brackets, up to and with the closing one.
inductive Enclosed (close : Char) (P : α → List Char → List Char → Prop) :
    List α → List Char → List Char → Prop
  | empty {s t : List Char} (blanks : Blanks s (close :: t)) : Enclosed close P [] s t
  | items {as : List α} {a : α} {s t u : List Char} (first : Listed P as s t)
      (last : P a t (close :: u)) : Enclosed close P (as ++ [a]) s u

def Padded (P : List Char → List Char → Prop) (s v : List Char) : Prop :=
  ∃ t u, Blanks s t ∧ P t u ∧ Blanks u v

-- A whole text, from its first character to its last one.
def IsText (P : List Char → List Char → Prop) (text : String) : Prop :=
  Padded P text.toList []

end Sequences

end SyntaxHandles.Json
