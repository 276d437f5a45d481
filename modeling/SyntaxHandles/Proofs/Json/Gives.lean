import Mathlib.Data.Nat.Init
import SyntaxHandles.Json.Record

-- What the readers take off the front of a text, told by the text: one step of a string, a list and
-- the members of an object at a time, and whole numbers.

namespace SyntaxHandles.Json

variable {α β ρ : Type} {s t : List Char}

-- The attempt takes a value off its text and leaves this rest.
def Attempt.Gives (attempt : Attempt α s) (value : α) (rest : List Char) : Prop :=
  ∃ shorter, attempt = .ok ⟨value, rest, shorter⟩

section Attempts

variable {attempt : Attempt α s} {value : α} {rest rest' : List Char}

theorem gives_ok (value : α) (hr : rest' = rest) (shorter : rest'.length < s.length) :
    Attempt.Gives (.ok ⟨value, rest', shorter⟩ : Attempt α s) value rest := by
  subst hr
  exact ⟨shorter, rfl⟩

theorem Attempt.Gives.within (h : attempt.Gives value rest) (hle : s.length ≤ t.length) :
    (attempt.within hle).Gives value rest := by
  obtain ⟨shorter, rfl⟩ := h
  exact ⟨Nat.lt_of_lt_of_le shorter hle, rfl⟩

theorem Attempt.Gives.map (h : attempt.Gives value rest) (f : α → β) :
    (attempt.map f).Gives (f value) rest := by
  obtain ⟨shorter, rfl⟩ := h
  exact ⟨shorter, rfl⟩

theorem Attempt.Gives.andThen {next : α → Reader β} {later : β} (h : attempt.Gives value rest)
    (hn : (next value rest).Gives later rest') : (attempt.andThen next).Gives later rest' := by
  obtain ⟨shorter, rfl⟩ := h
  exact hn.within (Nat.le_of_lt shorter)

end Attempts

theorem skipBlanks_cons {c : Char} (h : isBlank c = false) (rest : List Char) :
    skipBlanks (c :: rest) = c :: rest :=
  List.dropWhile_cons_of_neg (by simp [h])

section Strings

variable {c : Char} {rest : List Char} {chars after : List Char}

theorem readCodeUnit_gives {a b d e : Char} {i j k l : Nat} (ha : hexValue? a = some i)
    (hb : hexValue? b = some j) (hd : hexValue? d = some k) (he : hexValue? e = some l)
    (rest : List Char) : (readCodeUnit (a :: b :: d :: e :: rest)).Gives
      (((i * 16 + j) * 16 + k) * 16 + l) rest := by
  simp only [readCodeUnit, ha, hb, hd, he]
  exact ⟨_, rfl⟩

-- An escape with a code unit of its own, which is no half of a surrogate pair.
theorem readUnicodeEscape_gives {unit : Nat} (h : (readCodeUnit s).Gives unit rest)
    (hu : unit < 0xd800 ∨ 0xdfff < unit) :
    (readUnicodeEscape s).Gives (Char.ofNat unit) rest := by
  obtain ⟨shorter, h⟩ := h
  have ht : isTrailing unit = false := by simp [isTrailing]; omega
  have hl : isLeading unit = false := by simp [isLeading]; omega
  simp only [readUnicodeEscape, h, ht, hl]
  exact ⟨shorter, rfl⟩

theorem readEscape_gives_plain {letter : Char} (h : plainEscape? letter = some c)
    (rest : List Char) : (readEscape (letter :: rest)).Gives c rest := by
  have hu : letter ≠ 'u' := by
    rintro rfl
    exact nomatch h
  simp only [readEscape, hu, if_false, h]
  exact ⟨_, rfl⟩

theorem readEscape_gives_unicode (h : (readUnicodeEscape s).Gives c rest) :
    (readEscape ('u' :: s)).Gives c rest := by
  simp only [readEscape, if_true]
  exact h.within _

theorem readContent_gives_end (rest : List Char) : (readContent ('"' :: rest)).Gives [] rest := by
  rw [readContent]
  exact ⟨_, rfl⟩

theorem readContent_gives_escape (h : (readEscape s).Gives c rest)
    (hr : (readContent rest).Gives chars after) :
    (readContent ('\\' :: s)).Gives (c :: chars) after := by
  obtain ⟨shorter, h⟩ := h
  rw [readContent, if_neg (by decide), if_pos rfl]
  simp only [h]
  exact (hr.map (c :: ·)).within _

theorem readContent_gives_plain (hq : c ≠ '"') (hb : c ≠ '\\') (hc : ¬c.toNat < 0x20)
    (hr : (readContent s).Gives chars after) :
    (readContent (c :: s)).Gives (c :: chars) after := by
  rw [readContent, if_neg hq, if_neg hb, if_neg hc]
  exact (hr.map (c :: ·)).within _

theorem readString_gives (hb : skipBlanks s = '"' :: rest)
    (h : (readContent rest).Gives chars after) :
    (readString s).Gives (String.ofList chars) after := by
  unfold readString
  split
  · next hn => cases hb.symm.trans hn
  · next hc =>
    obtain ⟨rfl, rfl⟩ := List.cons.inj (hb.symm.trans hc)
    exact (h.map String.ofList).within _

end Strings

section Numbers

variable {rest : List Char}

-- A number is at its end where neither another digit nor a fraction or an exponent follows.
def EndsNumber (rest : List Char) : Prop :=
  ∀ c ∈ rest.head?, c.isDigit = false ∧ c ≠ '.' ∧ c ≠ 'e' ∧ c ≠ 'E'

theorem endsNumber_cons {c : Char} (h : c = ',' ∨ c = ']' ∨ c = '\x7d') (rest : List Char) :
    EndsNumber (c :: rest) := by
  rintro d hd
  cases hd
  rcases h with rfl | rfl | rfl <;> decide

theorem le_ofDigitChars (digits : List Char) (n : Nat) : n ≤ Nat.ofDigitChars 10 digits n := by
  induction digits generalizing n with
  | nil => exact Nat.le_refl n
  | cons d digits ih =>
      rw [Nat.ofDigitChars_cons]
      exact Nat.le_trans (by omega) (ih _)

-- Digits of a number within the bound are all taken.
theorem appendDigits_eq {bound : Nat} (digits : List Char) (n : Nat)
    (h : Nat.ofDigitChars 10 digits n ≤ bound) :
    appendDigits bound n digits = (Nat.ofDigitChars 10 digits n, []) := by
  induction digits generalizing n with
  | nil => rfl
  | cons d digits ih =>
      rw [Nat.ofDigitChars_cons] at h ⊢
      have hn : n * 10 + digitValue d = 10 * n + (d.toNat - '0'.toNat) := by
        rw [Nat.mul_comm, digitValue]
      have hle := Nat.le_trans (le_ofDigitChars digits _) h
      simp only [appendDigits, hn, Nat.not_lt.mpr hle, if_false]
      exact ih _ h

theorem finish_gives {c : Char} {number : Number} {left : List Char} (hl : left = rest)
    (h : left.length ≤ s.length) :
    (finish (x := c) (some number) left h).Gives number rest :=
  gives_ok number hl _

-- A whole number that fits 64 bits, in digits of which no needless zero is the first.
theorem readNumber_gives {c : Char} {digits : List Char} (hc : c.isDigit)
    (hd : ∀ d ∈ digits, d.isDigit) (hz : c = '0' → digits = [])
    (hn : Nat.ofDigitChars 10 (c :: digits) 0 ≤ 0xffffffffffffffff) (he : EndsNumber rest) :
    (readNumber false (c :: digits ++ rest)).Gives
      (.natural (Nat.ofDigitChars 10 (c :: digits) 0)) rest := by
  have hrest : rest.takeWhile Char.isDigit = [] ∧ rest.dropWhile Char.isDigit = rest := by
    cases rest with
    | nil => exact ⟨rfl, rfl⟩
    | cons d rest => simp [(he d rfl).1]
  have htake : (digits ++ rest).takeWhile Char.isDigit = digits := by
    rw [List.takeWhile_append_of_pos hd, hrest.1, List.append_nil]
  have hdrop : (digits ++ rest).dropWhile Char.isDigit = rest := by
    rw [List.dropWhile_append_of_pos hd, hrest.2]
  have hzero : ¬(c = '0' ∧ startsWithDigit (digits ++ rest)) := by
    rintro ⟨rfl, hs⟩
    rw [hz rfl] at hs
    cases rest with
    | nil => exact nomatch hs
    | cons d rest => exact absurd hs (by simp [startsWithDigit, (he d rfl).1])
  have happend : appendDigits 0xffffffffffffffff (digitValue c) digits =
      (Nat.ofDigitChars 10 (c :: digits) 0, []) := by
    rw [Nat.ofDigitChars_cons, Nat.mul_zero, Nat.zero_add] at hn ⊢
    exact appendDigits_eq digits _ hn
  simp only [List.cons_append, readNumber, hc, Bool.not_true, Bool.false_eq_true, if_false, hzero,
    htake, happend]
  have hends {d : Char} {after : List Char}
      (h : (digits ++ rest).dropWhile Char.isDigit = d :: after) : d ≠ '.' ∧ d ≠ 'e' ∧ d ≠ 'E' := by
    rw [hdrop] at h
    exact (he d (by rw [h]; rfl)).2
  split
  · next h _ => exact absurd rfl (hends h).1
  · next h _ => exact absurd rfl (hends h).2.1
  · next h _ => exact absurd rfl (hends h).2.2
  · exact finish_gives hdrop _

theorem isBlank_of_isDigit {c : Char} (h : c.isDigit) : isBlank c = false := by
  cases hb : isBlank c with
  | false => rfl
  | true =>
      simp only [isBlank, Bool.or_eq_true, beq_iff_eq] at hb
      rcases hb with ((rfl | rfl) | rfl) | rfl <;> exact nomatch h

theorem readUInt32_gives {c : Char} {n : Nat} {start : List Char} (hc : c.isDigit)
    (hb : skipBlanks s = c :: start) (h : (readNumber false (c :: start)).Gives (.natural n) rest)
    (hn : n < UInt32.size) : (readUInt32 s).Gives (UInt32.ofNat n) rest := by
  have hm : c ≠ '-' := by
    rintro rfl
    cases hc
  unfold readUInt32
  split
  · next hn => cases hb.symm.trans hn
  · next hd =>
    obtain ⟨rfl, rfl⟩ := List.cons.inj (hb.symm.trans hd)
    obtain ⟨shorter, h⟩ := h
    simp only [hm, hc, h, narrow?, hn, Bool.not_true, Bool.false_eq_true, and_false, if_false,
      if_true, Attempt.within, Except.map, Read.within]
    exact ⟨_, rfl⟩

end Numbers

section Lists

variable {element : Reader α} {isFirst : Bool} {c : Char} {value : α} {values : List α}
  {start rest after : List Char}

theorem nextElement_finish (isFirst : Bool) (hb : skipBlanks s = ']' :: rest) :
    ∃ shorter, nextElement isFirst s = .ok (.finish rest shorter) := by
  unfold nextElement
  split
  · next hn => cases hb.symm.trans hn
  · next hd =>
    obtain ⟨rfl, rfl⟩ := List.cons.inj (hb.symm.trans hd)
    exact ⟨length_lt_of_skipBlanks hb, rfl⟩

theorem nextElement_first (hb : skipBlanks s = c :: rest) (hc : c ≠ ']') :
    ∃ shorter, nextElement true s = .ok (.element s shorter) := by
  unfold nextElement
  split
  · next hn => cases hb.symm.trans hn
  · next hd =>
    obtain ⟨rfl, rfl⟩ := List.cons.inj (hb.symm.trans hd)
    exact ⟨length_le_refl s, if_neg hc⟩

theorem nextElement_next (hb : skipBlanks s = ',' :: start) (hs : skipBlanks start = c :: rest)
    (hc : c ≠ ']') : ∃ shorter, nextElement false s = .ok (.element start shorter) := by
  unfold nextElement
  split
  · next hn => cases hb.symm.trans hn
  · next hd =>
    obtain ⟨rfl, rfl⟩ := List.cons.inj (hb.symm.trans hd)
    simp only [hs, hc, if_false]
    exact ⟨length_le_of_lt (length_lt_of_skipBlanks hb), rfl⟩

theorem readElements_gives_end (element : Reader α) (isFirst : Bool)
    (hb : skipBlanks s = ']' :: rest) : (readElements element isFirst s).Gives [] rest := by
  obtain ⟨shorter, h⟩ := nextElement_finish isFirst hb
  rw [readElements]
  simp only [h]
  exact ⟨shorter, rfl⟩

theorem readElements_gives (hn : ∃ shorter, nextElement isFirst s = .ok (.element start shorter))
    (h : (element start).Gives value rest)
    (hr : (readElements element false rest).Gives values after) :
    (readElements element isFirst s).Gives (value :: values) after := by
  obtain ⟨_, hn⟩ := hn
  obtain ⟨_, h⟩ := h
  rw [readElements]
  simp only [hn, h]
  exact (hr.map (value :: ·)).within _

theorem readList_gives (hb : skipBlanks s = '[' :: rest)
    (h : (readElements element true rest).Gives values after) :
    (readList element s).Gives values after := by
  unfold readList
  split
  · next hn => cases hb.symm.trans hn
  · next hd =>
    obtain ⟨rfl, rfl⟩ := List.cons.inj (hb.symm.trans hd)
    exact h.within _

end Lists

section Objects

variable {fields : List (Field ρ)} {isFirst : Bool} {seen : List String} {record result : ρ}
  {start afterKey key left rest after : List Char} {field : Field ρ} {change : ρ → ρ}

theorem nextKey_finish (isFirst : Bool) (hb : skipBlanks s = '\x7d' :: rest) :
    ∃ shorter, nextKey isFirst s = .ok (.finish rest shorter) := by
  unfold nextKey
  split
  · next hn => cases hb.symm.trans hn
  · next hd =>
    obtain ⟨rfl, rfl⟩ := List.cons.inj (hb.symm.trans hd)
    exact ⟨length_lt_of_skipBlanks hb, rfl⟩

theorem nextKey_first (hb : skipBlanks s = '"' :: start) :
    ∃ shorter, nextKey true s = .ok (.key start shorter) := by
  unfold nextKey
  split
  · next hn => cases hb.symm.trans hn
  · next hd =>
    obtain ⟨rfl, rfl⟩ := List.cons.inj (hb.symm.trans hd)
    exact ⟨length_lt_of_skipBlanks hb, rfl⟩

theorem nextKey_next (hb : skipBlanks s = ',' :: rest) (hs : skipBlanks rest = '"' :: start) :
    ∃ shorter, nextKey false s = .ok (.key start shorter) := by
  unfold nextKey
  split
  · next hn => cases hb.symm.trans hn
  · next hd =>
    obtain ⟨rfl, rfl⟩ := List.cons.inj (hb.symm.trans hd)
    rw [if_neg (by decide), if_neg (by decide), if_neg (by decide)]
    split
    · next hn => cases hs.symm.trans hn
    · next hd =>
      obtain ⟨rfl, rfl⟩ := List.cons.inj (hs.symm.trans hd)
      exact ⟨length_lt_of_lt_of_lt (length_lt_of_skipBlanks hs) (length_lt_of_skipBlanks hb), rfl⟩

theorem skipColon_gives (hb : skipBlanks s = ':' :: rest) : (skipColon s).Gives () rest := by
  unfold skipColon
  split
  · next hn => cases hb.symm.trans hn
  · next hd =>
    obtain ⟨rfl, rfl⟩ := List.cons.inj (hb.symm.trans hd)
    exact ⟨length_lt_of_skipBlanks hb, rfl⟩

theorem readMembers_gives_end (fields : List (Field ρ)) (isFirst : Bool) (seen : List String)
    (record : ρ) (hb : skipBlanks s = '\x7d' :: rest) :
    (readMembers fields isFirst seen record s).Gives record rest := by
  obtain ⟨shorter, h⟩ := nextKey_finish isFirst hb
  rw [readMembers]
  simp only [h]
  exact ⟨shorter, rfl⟩

-- A member with the name of a field that was not given before.
theorem readMembers_known (record : ρ)
    (hn : ∃ shorter, nextKey isFirst s = .ok (.key start shorter))
    (hk : (readContent start).Gives key afterKey) (hc : skipBlanks afterKey = ':' :: left)
    (hf : fields.find? (·.name == String.ofList key) = some field)
    (hs : String.ofList key ∉ seen) (hv : (field.read left).Gives change rest) :
    ∃ hle, readMembers fields isFirst seen record s =
      (readMembers fields false (String.ofList key :: seen) (change record) rest).within hle := by
  obtain ⟨_, hn⟩ := hn
  obtain ⟨_, hk⟩ := hk
  obtain ⟨_, hv⟩ : (Attempt.andThen (skipColon afterKey) fun () => field.read).Gives change rest :=
    (skipColon_gives hc).andThen hv
  refine ⟨by omega, ?_⟩
  rw [readMembers]
  simp only [hn, hk, hf, List.contains_iff_mem, hs, if_false, hv]

-- A member with another name is stepped over.
theorem readMembers_other (record : ρ)
    (hn : ∃ shorter, nextKey isFirst s = .ok (.key start shorter))
    (hk : (readContent start).Gives key afterKey) (hc : skipBlanks afterKey = ':' :: left)
    (hf : fields.find? (·.name == String.ofList key) = none)
    (hv : (skipValue left).Gives () rest) :
    ∃ hle, readMembers fields isFirst seen record s =
      (readMembers fields false seen record rest).within hle := by
  obtain ⟨_, hn⟩ := hn
  obtain ⟨_, hk⟩ := hk
  obtain ⟨_, hv⟩ : (Attempt.andThen (skipColon afterKey) fun () => skipValue).Gives () rest :=
    (skipColon_gives hc).andThen hv
  refine ⟨by omega, ?_⟩
  rw [readMembers]
  simp only [hn, hk, hf, hv]

-- A field that was given before is not given again.
theorem readMembers_repeated (record : ρ)
    (hn : ∃ shorter, nextKey isFirst s = .ok (.key start shorter))
    (hk : (readContent start).Gives key afterKey)
    (hf : fields.find? (·.name == String.ofList key) = some field)
    (hs : String.ofList key ∈ seen) :
    readMembers fields isFirst seen record s =
      .error (repeated (String.ofList key) afterKey) := by
  obtain ⟨_, hn⟩ := hn
  obtain ⟨_, hk⟩ := hk
  rw [readMembers]
  simp only [hn, hk, hf, List.contains_iff_mem, hs, if_true]

theorem readMembers_gives (hn : ∃ shorter, nextKey isFirst s = .ok (.key start shorter))
    (hk : (readContent start).Gives key afterKey) (hc : skipBlanks afterKey = ':' :: left)
    (hf : fields.find? (·.name == String.ofList key) = some field)
    (hs : String.ofList key ∉ seen) (hv : (field.read left).Gives change rest)
    (hr : (readMembers fields false (String.ofList key :: seen) (change record) rest).Gives result
      after) :
    (readMembers fields isFirst seen record s).Gives result after := by
  obtain ⟨hle, h⟩ := readMembers_known record hn hk hc hf hs hv
  rw [h]
  exact hr.within hle

theorem readRecord_gives {name : String} {defaults : ρ} (hb : skipBlanks s = '\x7b' :: rest)
    (h : (readMembers fields true [] defaults rest).Gives record after) :
    (readRecord name fields defaults s).Gives record after := by
  unfold readRecord
  split
  · next hn => cases hb.symm.trans hn
  · next hd =>
    obtain ⟨rfl, rfl⟩ := List.cons.inj (hb.symm.trans hd)
    exact h.within _

end Objects

-- A text of which nothing but blanks is left after the value.
theorem readText_eq {reader : Reader α} {value : α} {text : String} {rest : List Char}
    (h : (reader text.toList).Gives value rest) (hb : skipBlanks rest = []) :
    readText reader text = .ok value := by
  obtain ⟨_, h⟩ := h
  simp only [readText, h, hb]

end SyntaxHandles.Json
