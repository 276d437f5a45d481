import Mathlib.Data.List.TakeWhile
import SyntaxHandles.Location
import SyntaxHandles.Proofs.Json.Document
import SyntaxHandles.Proofs.Json.RoundTrip

-- What a written value says. Locations are handed on in this way, and the text of a location says
-- its fields and nothing else, whatever its file is called.

namespace SyntaxHandles

namespace Json

section Numbers

variable {digits : List Char} {s t : List Char}

theorem mantissa_of_digits (h : ∀ d ∈ digits, d.isDigit) : mantissa digits = digits := by
  refine List.takeWhile_eq_self_iff.mpr fun d hd => ?_
  have hne {letter : Char} (hl : letter.isDigit = false) : (d == letter) = false :=
    beq_eq_false_iff_ne.mpr (ne_of_isDigit (h d hd) hl)
  simp [isExponentLetter, hne]

theorem significand_of_digits (h : ∀ d ∈ digits, d.isDigit) :
    significand digits = Nat.ofDigitChars 10 digits 0 := by
  rw [significand, mantissa_of_digits h, List.filter_eq_self.mpr h]

theorem exponent_of_digits (h : ∀ d ∈ digits, d.isDigit) : exponent digits = 0 := by
  have hplaces : places digits = 0 := by
    rw [places, mantissa_of_digits h, List.dropWhile_eq_nil_iff.mpr]
    · rfl
    · exact fun d hd => bne_iff_ne.mpr (ne_of_isDigit (h d hd) rfl)
  have hpower : digits.dropWhile (!isExponentLetter ·) = [] :=
    List.dropWhile_eq_nil_iff.mpr (List.takeWhile_eq_self_iff.mp (mantissa_of_digits h))
  rw [exponent, hplaces, hpower]
  rfl

theorem digits_append (h : ∀ d ∈ digits, d.isDigit) (hne : digits ≠ []) (t : List Char) :
    Digits (digits ++ t) t := by
  induction digits with
  | nil => exact absurd rfl hne
  | cons d digits ih =>
      obtain ⟨hd, hdigits⟩ := List.forall_mem_cons.mp h
      cases digits with
      | nil => exact .last hd t
      | cons => exact .next hd (ih hdigits (List.cons_ne_nil _ _))

theorem unsigned_toDigits (n : Nat) (t : List Char) : Unsigned (Nat.toDigits 10 n ++ t) t := by
  obtain ⟨c, digits, hd, hc⟩ := exists_toDigits n
  have hall : ∀ d ∈ c :: digits, d.isDigit := fun d hm =>
    Nat.isDigit_of_mem_toDigits (by decide) (by decide) (hd ▸ hm)
  obtain ⟨hdigit, hdigits⟩ := List.forall_mem_cons.mp hall
  have hwhole : Whole (c :: digits ++ t) t := by
    cases digits with
    | nil => exact .digit hdigit t
    | cons d digits =>
        refine .digits hdigit ?_ (digits_append hdigits (List.cons_ne_nil _ _) t)
        intro hz
        rw [hc hz] at hd
        exact nomatch (List.cons.inj hd).2
  rw [hd]
  exact .parts hwhole (.absent t) (.absent t)

end Numbers

section Values

variable {value : Value} {document : Document} {member : String × Value}
  {members : List (String × Value)} {part : String × Document} {parts : List (String × Document)}
  {s t : List Char}

-- The value is written as this document, wherever a number would be at its end.
def Value.Writes (value : Value) (document : Document) : Prop :=
  ∀ rest, EndsNumber rest → document.Stands (value.write ++ rest) rest

theorem writes_null : Value.null.Writes .null := by
  intro rest _
  rw [Document.Stands, Value.write]
  rfl

theorem writes_string (text : String) : (Value.string text).Writes (.string text) := by
  intro rest _
  rw [Document.Stands, Value.write, writeString, List.append_assoc]
  exact ⟨_, rfl, spelled_escaped text.toList rest⟩

theorem writes_number (n : Nat) : (Value.number n).Writes (.number n 0) := by
  intro rest _
  rw [Document.Stands, Value.write]
  have hall : ∀ d ∈ Nat.toDigits 10 n, d.isDigit := fun d hm =>
    Nat.isDigit_of_mem_toDigits (by decide) (by decide) hm
  have hnumber := NumberOf.unsigned rfl (unsigned_toDigits n rest)
  rwa [significand_of_digits hall, exponent_of_digits hall,
    Nat.ofDigitChars_toDigits (by decide) (by decide)] at hnumber

theorem Enclosed.cons {α : Type} {P : α → List Char → List Char → Prop} {close : Char} {a b : α}
    {as : List α} {u : List Char} (first : P a s (',' :: t))
    (h : Enclosed close P (b :: as) t u) : Enclosed close P (a :: b :: as) s u := by
  generalize hi : b :: as = items at h ⊢
  cases h with
  | empty blanks => exact nomatch hi
  | items more last => exact .items (.cons first more) last

-- The member is written under the same name, and its value as this document.
def WritesMember (member : String × Value) (part : String × Document) : Prop :=
  member.1 = part.1 ∧ member.2.Writes part.2

theorem WritesMember.pair (h : WritesMember member part) (he : EndsNumber t) :
    Pair part.1 part.2.Stands ('"' :: keyOn member t) t := by
  obtain ⟨hname, hvalue⟩ := h
  rw [keyOn, hname]
  exact ⟨_, _, _, .nil _, spelled_escaped part.1.toList _, .nil _, _, _, .nil _, hvalue t he,
    .nil t⟩

theorem enclosed_members (h : WritesMember member part)
    (hs : List.Forall₂ WritesMember members parts) (t : List Char) :
    Enclosed '\x7d' (fun part => Pair part.1 part.2.Stands) (part :: parts)
      ('"' :: keyOn member (members.flatMap (fun m => ',' :: '"' :: keyOn m []) ++ '\x7d' :: t))
      t := by
  induction hs generalizing member part with
  | nil =>
      have hlast := h.pair (endsNumber_cons (.inr (.inr rfl)) t)
      exact @Enclosed.items _ _ _ [] part _ _ _ (.nil _) hlast
  | @cons next _ members _ hn _ ih =>
      have htext : (next :: members).flatMap (fun m => ',' :: '"' :: keyOn m []) ++ '\x7d' :: t =
          ',' :: '"' :: keyOn next
            (members.flatMap (fun m => ',' :: '"' :: keyOn m []) ++ '\x7d' :: t) := by
        simp [keyOn]
      rw [htext]
      exact .cons (h.pair (endsNumber_cons (.inl rfl) _)) (ih hn)

theorem writes_object (h : List.Forall₂ WritesMember members parts) :
    (Value.object members).Writes (.object parts) := by
  intro rest _
  rw [Value.write, List.cons_append, List.cons_append, List.append_assoc, List.singleton_append]
  refine stands_object.mpr ⟨_, rfl, ?_⟩
  cases h with
  | nil => exact .empty (.nil _)
  | cons first others =>
      rw [writeMembers_cons]
      exact enclosed_members first others rest

-- What is written of a value says this document and no other.
theorem Value.Writes.isText_iff (h : value.Writes document) {other : Document} :
    IsText other.Stands value.text ↔ other = document := by
  have hnil : EndsNumber [] := nofun
  have hstands : IsText document.Stands value.text := by
    refine ⟨value.text.toList, [], .nil _, ?_, .nil []⟩
    rw [Value.text, String.toList_ofList]
    have hw := h [] hnil
    rwa [List.append_nil] at hw
  constructor
  · intro ho
    exact document_unique ho hstands
  · rintro rfl
    exact hstands

end Values

end Json

namespace SourceLocation

open Json

def fileDocument : Option String → Document
  | none => .null
  | some name => .string name

-- The members of a location, in their order, where the file may be anything.
def membersWith (location : SourceLocation) (file : Document) : List (String × Document) :=
  [("file", file),
    ("line", .number location.line.toNat 0),
    ("column", .number location.column.toNat 0),
    ("offset", .number location.offset.toNat 0)]

def document (location : SourceLocation) : Document :=
  .object (location.membersWith (fileDocument location.file))

theorem writes_document (location : SourceLocation) :
    location.toJson.Writes location.document := by
  have hfile : ((location.file.map Value.string).getD .null).Writes
      (fileDocument location.file) := by
    cases location.file with
    | none => exact writes_null
    | some name => exact writes_string name
  exact writes_object (.cons ⟨rfl, hfile⟩ (.cons ⟨rfl, writes_number _⟩
    (.cons ⟨rfl, writes_number _⟩ (.cons ⟨rfl, writes_number _⟩ .nil))))

theorem fileDocument_injective {file file' : Option String}
    (h : fileDocument file = fileDocument file') : file = file' := by
  cases file <;> cases file' <;> cases h <;> rfl

theorem document_injective {location other : SourceLocation}
    (h : location.document = other.document) : location = other := by
  obtain ⟨file, line, column, offset⟩ := location
  obtain ⟨file', line', column', offset'⟩ := other
  simp only [document, membersWith, Document.object.injEq, List.cons.injEq, Prod.mk.injEq,
    Document.number.injEq, Int.natCast_inj, UInt32.toNat_inj, true_and, and_true] at h
  obtain ⟨hfile, rfl, rfl, rfl⟩ := h
  rw [fileDocument_injective hfile]

theorem eq_of_text_eq {location other : SourceLocation}
    (h : other.toJson.text = location.toJson.text) : other = location := by
  have hother := other.writes_document.isText_iff.mpr rfl
  rw [h] at hother
  exact document_injective (location.writes_document.isText_iff.mp hother)

-- The text of a location is Json, and there is one way to read it: as an object with these four
-- members. So it tells the location, and whether there is a file; and whatever the file is called,
-- nothing but the first member changes.
theorem text_says_the_fields (location : SourceLocation) :
    IsText (Derives .value) location.toJson.text ∧
      (∀ said : Document, IsText said.Stands location.toJson.text ↔
        said = .object (location.membersWith (fileDocument location.file))) ∧
      (∀ other : SourceLocation, other.toJson.text = location.toJson.text ↔ other = location) ∧
      (∀ (other : SourceLocation) (name : String), location.file = none →
        other.file = some name → other.toJson.text ≠ location.toJson.text) ∧
      ∀ (name : String) (said : Document),
        IsText said.Stands ({ location with file := some name } : SourceLocation).toJson.text ↔
          said = .object (location.membersWith (.string name)) := by
  refine ⟨?_, fun said => location.writes_document.isText_iff, fun other => ?_, ?_,
    fun name said => ?_⟩
  · exact isText_of_stands (location.writes_document.isText_iff.mpr rfl)
  · constructor
    · exact eq_of_text_eq
    · rintro rfl
      rfl
  · intro other name hnone hsome htext
    obtain rfl := eq_of_text_eq htext
    rw [hnone] at hsome
    exact nomatch hsome
  · exact ({ location with file := some name } : SourceLocation).writes_document.isText_iff

-- A file whose name looks like members of its own.
example : (SourceLocation.mk (some "\",\"line\":7,\"") 1 2 3).toJson.text =
    "\x7b\"file\":\"\\\",\\\"line\\\":7,\\\"\",\"line\":1,\"column\":2,\"offset\":3\x7d" := by
  rfl

end SourceLocation

end SyntaxHandles
