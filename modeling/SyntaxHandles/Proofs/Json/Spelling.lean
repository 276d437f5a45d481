import SyntaxHandles.Proofs.Json.Gives
import SyntaxHandles.Proofs.Json.Grammar

-- Strings are read as what they spell, however they spell it, and any string of the grammar can be
-- stepped over.

namespace SyntaxHandles.Json

variable {s t u : List Char} {c : Char}

theorem isBlank_of_mem (h : c ∈ [' ', '\n', '\t', '\r']) : isBlank c = true := by
  simp only [List.mem_cons, List.not_mem_nil, or_false] at h
  rcases h with rfl | rfl | rfl | rfl <;> rfl

theorem Blanks.skipBlanks_eq (h : Blanks s t) : skipBlanks s = skipBlanks t := by
  induction h with
  | nil => rfl
  | cons blank _ ih =>
      rw [← ih]
      exact List.dropWhile_cons_of_pos (isBlank_of_mem blank)

-- Blanks end where something else begins.
theorem Blanks.skipBlanks_cons (h : Blanks s (c :: t)) (hc : isBlank c = false) :
    skipBlanks s = c :: t :=
  h.skipBlanks_eq.trans (Json.skipBlanks_cons hc t)

section Escapes

theorem hexValue?_lower : ∀ n < 16, hexValue? (hexDigit n) = some n := by
  decide

theorem hexValue?_upper : ∀ n < 16, hexValue? (hexDigit n).toUpper = some n := by
  decide

theorem IsHexDigit.hexValue?_eq {n : Nat} (h : IsHexDigit n c) : hexValue? c = some n := by
  obtain ⟨hn, rfl | rfl⟩ := h
  · exact hexValue?_lower n hn
  · exact hexValue?_upper n hn

theorem EscapedUnit.readCodeUnit_gives {unit : Nat} (h : EscapedUnit unit s t) :
    ∃ rest, s = '\\' :: 'u' :: rest ∧ (readCodeUnit rest).Gives unit t := by
  cases h with
  | digits first second third fourth sum =>
      refine ⟨_, rfl, ?_⟩
      rw [sum]
      exact Json.readCodeUnit_gives first.hexValue?_eq second.hexValue?_eq third.hexValue?_eq
        fourth.hexValue?_eq t

theorem readTrailing_gives {leading unit : Nat} (h : EscapedUnit unit s t)
    (hu : isTrailing unit = true) : (readTrailing leading s).Gives
      (Char.ofNat ((leading - 0xd800) * 0x400 + (unit - 0xdc00) + 0x10000)) t := by
  obtain ⟨rest, rfl, shorter, hr⟩ := h.readCodeUnit_gives
  simp only [readTrailing, hr, hu, if_true]
  exact ⟨_, rfl⟩

-- A pair of surrogates stands for the one character that it encodes.
theorem readUnicodeEscape_gives_pair {leading trailing : Nat} {rest : List Char}
    (hl : (readCodeUnit rest).Gives leading t) (hleading : isLeading leading = true)
    (ht : EscapedUnit trailing t u) (htrailing : isTrailing trailing = true) :
    (readUnicodeEscape rest).Gives
      (Char.ofNat ((leading - 0xd800) * 0x400 + (trailing - 0xdc00) + 0x10000)) u := by
  obtain ⟨shorter, hl⟩ := hl
  have hnot : isTrailing leading = false := by
    simp only [isLeading, Bool.and_eq_true, decide_eq_true_eq] at hleading
    simp only [isTrailing, Bool.and_eq_false_iff, decide_eq_false_iff_not]
    omega
  simp only [readUnicodeEscape, hl, hnot, hleading, if_true, Bool.false_eq_true, if_false]
  exact (readTrailing_gives ht htrailing).within _

theorem plainEscape?_of_mem {letter : Char} (h : (letter, c) ∈ escapeLetters) :
    plainEscape? letter = some c := by
  simp only [escapeLetters, List.mem_cons, Prod.mk.injEq, List.not_mem_nil, or_false] at h
  rcases h with ⟨rfl, rfl⟩ | ⟨rfl, rfl⟩ | ⟨rfl, rfl⟩ | ⟨rfl, rfl⟩ | ⟨rfl, rfl⟩ | ⟨rfl, rfl⟩ |
    ⟨rfl, rfl⟩ | ⟨rfl, rfl⟩ <;> rfl

-- No character is a surrogate.
theorem toNat_lt_or (c : Char) :
    c.toNat < 0xd800 ∨ 0xdfff < c.toNat ∧ c.toNat < 0x110000 := by
  have hvalid : c.toNat.isValidChar := c.valid
  simp only [Nat.isValidChar] at hvalid
  omega

end Escapes

section Reading

variable {chars : List Char}

theorem readContent_gives_char (h : SpelledChar c s t) (hr : (readContent t).Gives chars u) :
    (readContent s).Gives (c :: chars) u := by
  cases h with
  | plain plain =>
      obtain ⟨hq, hb, hc⟩ := plain
      exact readContent_gives_plain hq hb (Nat.not_lt.mpr hc) hr
  | letter known =>
      exact readContent_gives_escape (readEscape_gives_plain (plainEscape?_of_mem known) t) hr
  | unit unit =>
      obtain ⟨rest, rfl, hunit⟩ := unit.readCodeUnit_gives
      have hvalid := toNat_lt_or c
      have hchar := readUnicodeEscape_gives hunit (by omega)
      rw [Char.ofNat_toNat] at hchar
      exact readContent_gives_escape (readEscape_gives_unicode hchar) hr
  | pair beyond leading trailing =>
      obtain ⟨rest, rfl, hunit⟩ := leading.readCodeUnit_gives
      have hvalid := toNat_lt_or c
      have hleading : isLeading (0xd800 + (c.toNat - 0x10000) / 0x400) = true := by
        simp only [isLeading, Bool.and_eq_true, decide_eq_true_eq]
        omega
      have htrailing : isTrailing (0xdc00 + (c.toNat - 0x10000) % 0x400) = true := by
        simp only [isTrailing, Bool.and_eq_true, decide_eq_true_eq]
        omega
      have hchar := readUnicodeEscape_gives_pair hunit hleading trailing htrailing
      have hsum : (0xd800 + (c.toNat - 0x10000) / 0x400 - 0xd800) * 0x400 +
          (0xdc00 + (c.toNat - 0x10000) % 0x400 - 0xdc00) + 0x10000 = c.toNat := by omega
      rw [hsum, Char.ofNat_toNat] at hchar
      exact readContent_gives_escape (readEscape_gives_unicode hchar) hr

theorem readContent_gives_spelled (h : Spelled chars s t) : (readContent s).Gives chars t := by
  induction h with
  | quote s => exact readContent_gives_end s
  | char first _ ih => exact readContent_gives_char first ih

theorem readString_gives_string {start : List Char} {text : String} (hb : Blanks start s)
    (h : StringOf text s t) : (readString start).Gives text t := by
  obtain ⟨content, rfl, hspelled⟩ := h
  have hread := readString_gives (hb.skipBlanks_cons rfl) (readContent_gives_spelled hspelled)
  rwa [String.ofList_toList] at hread

end Reading

section Skipping

theorem skipEscape_gives_letter {letter : Char} (h : (letter, c) ∈ escapeLetters)
    (s : List Char) : (skipEscape (letter :: s)).Gives () s := by
  have hplain := plainEscape?_of_mem h
  have hu : letter ≠ 'u' := by
    rintro rfl
    exact nomatch hplain
  simp only [skipEscape, hu, if_false, hplain, Option.isSome_some, if_true]
  exact ⟨_, rfl⟩

theorem skipEscape_gives_unit {unit : Nat} (h : (readCodeUnit s).Gives unit t) :
    (skipEscape ('u' :: s)).Gives () t := by
  simp only [skipEscape, if_true]
  exact (h.map fun _ => ()).within _

theorem skipContent_gives_escape (h : (skipEscape s).Gives () t)
    (hr : (skipContent t).Gives () u) : (skipContent ('\\' :: s)).Gives () u := by
  obtain ⟨shorter, h⟩ := h
  rw [skipContent, if_neg (by decide), if_pos rfl]
  simp only [h]
  exact hr.within _

theorem skipContent_gives (h : Content s t) : (skipContent s).Gives () t := by
  induction h with
  | quote s =>
      rw [skipContent]
      exact ⟨_, rfl⟩
  | plain plain _ ih =>
      obtain ⟨hq, hb, hc⟩ := plain
      rw [skipContent, if_neg hq, if_neg hb, if_neg (Nat.not_lt.mpr hc)]
      exact ih.within _
  | letter known _ ih => exact skipContent_gives_escape (skipEscape_gives_letter known _) ih
  | unit unit _ ih =>
      obtain ⟨rest, rfl, hunit⟩ := unit.readCodeUnit_gives
      exact skipContent_gives_escape (skipEscape_gives_unit hunit) ih

end Skipping

end SyntaxHandles.Json
