import SyntaxHandles.Options.Index
import SyntaxHandles.Options.Parse
import SyntaxHandles.Proofs.Json.Spelling
import Mathlib.Data.List.Forall2
import Mathlib.Tactic.SplitIfs

-- What is written is read back. A record is read back from an object whose members each make one of
-- its changes, and so the options of a parser, and those of an index, are read back from their
-- text.

namespace SyntaxHandles.Json

variable {α ρ : Type}

-- The reader takes a value off its text, wherever a number would be at its end.
def ReadsBack (reader : Reader α) (value : α) (text : List Char) : Prop :=
  ∀ rest, EndsNumber rest → (reader (text ++ rest)).Gives value rest

theorem ReadsBack.map {β : Type} {reader : Reader α} {value : α} {text : List Char}
    (h : ReadsBack reader value text) (f : α → β) :
    ReadsBack (fun s => (reader s).map f) (f value) text :=
  fun rest he => (h rest he).map f

section Strings

-- A character is escaped by a letter that stands for it, by its code, or not at all.
theorem escapeChar_cases (c : Char) :
    (∃ letter, escapeChar c = ['\\', letter] ∧ (letter, c) ∈ escapeLetters) ∨
    (c.toNat < 0x20 ∧ escapeChar c =
      ['\\', 'u', '0', '0', hexDigit (c.toNat / 16), hexDigit (c.toNat % 16)]) ∨
    (c ≠ '"' ∧ c ≠ '\\' ∧ ¬c.toNat < 0x20 ∧ escapeChar c = [c]) := by
  unfold escapeChar
  split_ifs with quote backslash _ _ _ _ _ control
  iterate 7 exact .inl ⟨_, rfl, by subst c; decide⟩
  · exact .inr (.inl ⟨control, rfl⟩)
  · exact .inr (.inr ⟨quote, backslash, control, rfl⟩)

theorem isHexDigit_hexDigit {n : Nat} (h : n < 16) : IsHexDigit n (hexDigit n) :=
  ⟨h, .inl rfl⟩

theorem spelledChar_escapeChar (c : Char) (s : List Char) : SpelledChar c (escapeChar c ++ s) s := by
  rcases escapeChar_cases c with ⟨letter, he, hl⟩ | ⟨hc, he⟩ | ⟨hq, hb, hc, he⟩ <;> rw [he]
  · exact .letter hl s
  · have hzero : IsHexDigit 0 '0' := ⟨by decide, .inl rfl⟩
    have hsixteens : IsHexDigit (c.toNat / 16) (hexDigit (c.toNat / 16)) :=
      isHexDigit_hexDigit (by omega)
    have hones : IsHexDigit (c.toNat % 16) (hexDigit (c.toNat % 16)) :=
      isHexDigit_hexDigit (by omega)
    exact .unit (.digits hzero hzero hsixteens hones (by omega) s)
  · exact .plain ⟨hq, hb, Nat.not_lt.mp hc⟩ s

theorem spelled_escaped (chars rest : List Char) :
    Spelled chars (chars.flatMap escapeChar ++ '"' :: rest) rest := by
  induction chars with
  | nil => exact .quote rest
  | cons c chars ih =>
      rw [List.flatMap_cons, List.append_assoc]
      exact .char (spelledChar_escapeChar c _) ih

theorem readContent_gives_escaped (chars rest : List Char) :
    (readContent (chars.flatMap escapeChar ++ '"' :: rest)).Gives chars rest :=
  readContent_gives_spelled (spelled_escaped chars rest)

theorem readsBack_string (text : String) :
    ReadsBack readString text (Value.string text).write := by
  intro rest _
  have h : (readString (writeString text ++ rest)).Gives (String.ofList text.toList) rest := by
    rw [writeString, List.cons_append, List.cons_append, List.append_assoc, List.singleton_append]
    exact readString_gives rfl (readContent_gives_escaped text.toList rest)
  rwa [String.ofList_toList] at h

end Strings

section Numbers

theorem eq_zero_of_digitChar : ∀ n < 10, Nat.digitChar n = '0' → n = 0 := by
  decide

-- Only zero is written with a zero in front.
theorem exists_toDigits (n : Nat) :
    ∃ c digits, Nat.toDigits 10 n = c :: digits ∧ (c = '0' → n = 0) := by
  induction n using Nat.strongRecOn with
  | ind n ih =>
      rw [Nat.toDigits_eq_if (by decide)]
      split
      · next hn => exact ⟨_, [], rfl, eq_zero_of_digitChar n hn⟩
      · next hn =>
        obtain ⟨c, digits, hd, hc⟩ := ih (n / 10) (by omega)
        exact ⟨c, digits ++ _, by rw [hd, List.cons_append], fun h => by have := hc h; omega⟩

theorem readUInt32_gives_natural (n : UInt32) {s rest : List Char}
    (hb : Blanks s ((Value.number n.toNat).write ++ rest)) (he : EndsNumber rest) :
    (readUInt32 s).Gives n rest := by
  obtain ⟨c, digits, hd, hc⟩ := exists_toDigits n.toNat
  have hall : ∀ d ∈ c :: digits, d.isDigit := fun d hm =>
    Nat.isDigit_of_mem_toDigits (by decide) (by decide) (hd ▸ hm)
  have hzero : c = '0' → digits = [] := by
    intro h
    rw [hc h] at hd
    exact (List.cons.inj hd).2.symm
  have hvalue : Nat.ofDigitChars 10 (c :: digits) 0 = n.toNat := by
    rw [← hd, Nat.ofDigitChars_toDigits (by decide) (by decide)]
  have hsize : n.toNat < UInt32.size := n.toNat_lt_size
  have hdigit := hall c List.mem_cons_self
  have h := readNumber_gives hdigit (fun d hm => hall d (List.mem_cons_of_mem c hm)) hzero
    (by rw [hvalue]; exact Nat.le_trans (Nat.le_of_lt hsize) (by decide)) he
  rw [hvalue] at h
  rw [Value.write, hd] at hb
  have hword := readUInt32_gives hdigit (hb.skipBlanks_cons (isBlank_of_isDigit hdigit)) h hsize
  rwa [UInt32.ofNat_toNat] at hword

theorem readsBack_natural (n : UInt32) : ReadsBack readUInt32 n (Value.number n.toNat).write :=
  fun _ => readUInt32_gives_natural n (.nil _)

end Numbers

theorem readBool_gives (b : Bool) {s rest : List Char}
    (hb : Blanks s ((Value.bool b).write ++ rest)) : (readBool s).Gives b rest := by
  unfold readBool
  split
  · next hn => cases b <;> cases (hb.skipBlanks_cons rfl).symm.trans hn
  · next hd =>
    cases b <;> obtain ⟨rfl, rfl⟩ := List.cons.inj ((hb.skipBlanks_cons rfl).symm.trans hd) <;>
      exact ⟨_, rfl⟩

theorem readsBack_bool (b : Bool) : ReadsBack readBool b (Value.bool b).write :=
  fun _ _ => readBool_gives b (.nil _)

section Values

variable {element : Reader α} {write : α → Value} {values : List α}

theorem exists_write (value : Value) :
    ∃ c rest, value.write = c :: rest ∧ isBlank c = false ∧ c ≠ ']' := by
  cases value with
  | null => exact ⟨_, _, by rw [Value.write]; rfl, rfl, by decide⟩
  | bool b => cases b <;> exact ⟨_, _, by rw [Value.write]; rfl, rfl, by decide⟩
  | number n =>
      obtain ⟨c, digits, hd, -⟩ := exists_toDigits n
      have hc : c.isDigit :=
        Nat.isDigit_of_mem_toDigits (by decide) (by decide) (hd ▸ List.mem_cons_self)
      refine ⟨c, digits, by rw [Value.write, hd], isBlank_of_isDigit hc, ?_⟩
      rintro rfl
      exact nomatch hc
  | string text => exact ⟨_, _, by rw [Value.write]; rfl, rfl, by decide⟩
  | list elements => exact ⟨_, _, by rw [Value.write]; rfl, rfl, by decide⟩
  | object members => exact ⟨_, _, by rw [Value.write]; rfl, rfl, by decide⟩

theorem exists_write_append (value : Value) (rest : List Char) :
    ∃ c after, value.write ++ rest = c :: after ∧ isBlank c = false ∧ c ≠ ']' := by
  obtain ⟨c, text, hw, hc⟩ := exists_write value
  exact ⟨c, text ++ rest, by rw [hw, List.cons_append], hc⟩

theorem skipBlanks_write (value : Value) (rest : List Char) :
    ∃ c after, skipBlanks (value.write ++ rest) = c :: after ∧ c ≠ ']' := by
  obtain ⟨c, after, hw, hb, hc⟩ := exists_write_append value rest
  exact ⟨c, after, by rw [hw, skipBlanks_cons hb], hc⟩

theorem endsNumber_flatMap {c : Char} (h : c = ',' ∨ c = ']' ∨ c = '\x7d') {β : Type} (xs : List β)
    (f : β → List Char) (rest : List Char) :
    EndsNumber (xs.flatMap (fun x => ',' :: f x) ++ c :: rest) := by
  cases xs with
  | nil => exact endsNumber_cons h rest
  | cons x xs => exact endsNumber_cons (.inl rfl) _

theorem writeElements_cons (value : Value) (rest : List Value) :
    writeElements (value :: rest) = value.write ++ rest.flatMap fun v => ',' :: v.write := by
  induction rest generalizing value with
  | nil => rw [writeElements, List.flatMap_nil, List.append_nil]
  | cons next rest ih => rw [writeElements, ih, List.flatMap_cons, List.cons_append]; simp

theorem readElements_gives_rest (h : ∀ value ∈ values, ReadsBack element value (write value).write)
    (rest : List Char) : (readElements element false
      ((values.map write).flatMap (fun v => ',' :: v.write) ++ ']' :: rest)).Gives values rest := by
  induction values with
  | nil => exact readElements_gives_end element false rfl
  | cons value values ih =>
      obtain ⟨hvalue, hvalues⟩ := List.forall_mem_cons.mp h
      rw [List.map_cons, List.flatMap_cons, List.cons_append, List.cons_append, List.append_assoc]
      obtain ⟨c, after, hc, hne⟩ := skipBlanks_write (write value)
        ((values.map write).flatMap (fun v => ',' :: v.write) ++ ']' :: rest)
      exact readElements_gives (nextElement_next rfl hc hne)
        (hvalue _ (endsNumber_flatMap (.inr (.inl rfl)) _ _ rest)) (ih hvalues)

theorem readsBack_list (h : ∀ value ∈ values, ReadsBack element value (write value).write) :
    ReadsBack (readList element) values (Value.list (values.map write)).write := by
  intro rest _
  rw [Value.write, List.cons_append, List.cons_append]
  refine readList_gives rfl ?_
  cases values with
  | nil => exact readElements_gives_end element true rfl
  | cons value values =>
      obtain ⟨hvalue, hvalues⟩ := List.forall_mem_cons.mp h
      obtain ⟨c, after, hc, hne⟩ := skipBlanks_write (write value)
        ((values.map write).flatMap (fun v => ',' :: v.write) ++ ']' :: rest)
      have hread := readElements_gives (nextElement_first hc hne)
        (hvalue _ (endsNumber_flatMap (.inr (.inl rfl)) _ _ rest))
        (readElements_gives_rest hvalues rest)
      rwa [List.map_cons, writeElements_cons, List.append_assoc, List.append_assoc,
        List.singleton_append]

end Values

section Records

variable {fields : List (Field ρ)} {isFirst : Bool} {seen : List String} {record result : ρ}
  {member : String × Value} {members : List (String × Value)} {change : ρ → ρ}
  {changes : List (ρ → ρ)}

-- The member belongs to a field that reads this change off its value.
def Makes (fields : List (Field ρ)) (member : String × Value) (change : ρ → ρ) : Prop :=
  ∃ field, fields.find? (·.name == member.1) = some field ∧
    ReadsBack field.read change member.2.write

-- A member behind its opening quote, and what follows it.
def keyOn (member : String × Value) (rest : List Char) : List Char :=
  member.1.toList.flatMap escapeChar ++ '"' :: ':' :: (member.2.write ++ rest)

theorem writeMembers_cons (member : String × Value) (members : List (String × Value))
    (rest : List Char) : writeMembers (member :: members) ++ rest =
      '"' :: keyOn member (members.flatMap (fun m => ',' :: '"' :: keyOn m []) ++ rest) := by
  induction members generalizing member with
  | nil => simp [writeMembers, writeString, keyOn]
  | cons next members ih =>
      rw [writeMembers, List.append_assoc, List.append_assoc, List.cons_append, List.cons_append,
        ih]
      · simp [writeString, keyOn]
      · nofun

theorem readMembers_gives_member {s left after : List Char} (hm : Makes fields member change)
    (hs : member.1 ∉ seen)
    (hn : ∃ shorter, nextKey isFirst s = .ok (.key (keyOn member left) shorter))
    (he : EndsNumber left)
    (hr : (readMembers fields false (member.1 :: seen) (change record) left).Gives result after) :
    (readMembers fields isFirst seen record s).Gives result after := by
  obtain ⟨field, hf, hv⟩ := hm
  have hname : String.ofList member.1.toList = member.1 := String.ofList_toList
  rw [← hname] at hf hs hr
  exact readMembers_gives hn (readContent_gives_escaped member.1.toList _) rfl hf hs (hv left he) hr

theorem readMembers_gives_rest (h : List.Forall₂ (Makes fields) members changes)
    (distinct : (members.map Prod.fst).Nodup) (unseen : ∀ m ∈ members, m.1 ∉ seen)
    (rest : List Char) : (readMembers fields false seen record
      (members.flatMap (fun m => ',' :: '"' :: keyOn m []) ++ '\x7d' :: rest)).Gives
        (changes.foldl (fun record change => change record) record) rest := by
  induction h generalizing seen record with
  | nil => exact readMembers_gives_end fields false seen record rfl
  | @cons member change members changes hm _ ih =>
      obtain ⟨hfresh, hdistinct⟩ := List.nodup_cons.mp distinct
      obtain ⟨hs, hunseen⟩ := List.forall_mem_cons.mp unseen
      have htext : (member :: members).flatMap (fun m => ',' :: '"' :: keyOn m []) ++
          '\x7d' :: rest = ',' :: '"' :: keyOn member
            (members.flatMap (fun m => ',' :: '"' :: keyOn m []) ++ '\x7d' :: rest) := by
        simp [keyOn]
      rw [htext]
      refine readMembers_gives_member hm hs (nextKey_next rfl rfl)
        (endsNumber_flatMap (.inr (.inr rfl)) _ _ rest) (ih hdistinct fun m hmem => ?_)
      rw [List.mem_cons, not_or]
      exact ⟨fun heq => hfresh (heq ▸ List.mem_map_of_mem hmem), hunseen m hmem⟩

-- The members of a written object make their changes one after the other.
theorem readsBack_record (name : String) (defaults : ρ)
    (h : List.Forall₂ (Makes fields) members changes) (distinct : (members.map Prod.fst).Nodup) :
    ReadsBack (readRecord name fields defaults)
      (changes.foldl (fun record change => change record) defaults)
      (Value.object members).write := by
  intro rest _
  rw [Value.write, List.cons_append, List.cons_append, List.append_assoc, List.singleton_append]
  refine readRecord_gives rfl ?_
  cases h with
  | nil => exact readMembers_gives_end fields true [] defaults rfl
  | @cons member change members changes hm hms =>
      obtain ⟨hfresh, hdistinct⟩ := List.nodup_cons.mp distinct
      rw [writeMembers_cons]
      refine readMembers_gives_member hm (List.not_mem_nil) (nextKey_first rfl)
        (endsNumber_flatMap (.inr (.inr rfl)) _ _ rest)
        (readMembers_gives_rest hms hdistinct (fun m hmem hin => ?_) rest)
      rw [List.mem_singleton] at hin
      exact hfresh (hin ▸ List.mem_map_of_mem hmem)

theorem readText_of_readsBack {reader : Reader α} {value : α} {written : Value}
    (h : ReadsBack reader value written.write) : readText reader written.text = .ok value := by
  refine readText_eq ?_ (show skipBlanks [] = [] from rfl)
  have hread := h [] nofun
  rwa [List.append_nil, ← String.toList_ofList (l := written.write)] at hread

end Records

end SyntaxHandles.Json

namespace SyntaxHandles

open Json

-- What is written of the options of a parser is read back as they are.
theorem ParseOptions.options_read_back (options : ParseOptions) :
    ofJson? options.toJson.text = .ok options ∧
      ∀ flag, (ofJson? options.toJson.text).map (·.hasFlag flag) = .ok (options.hasFlag flag) := by
  have hargs : Makes fields ("args", .list (options.args.map .string))
      fun old => { old with args := options.args } :=
    ⟨_, rfl, (readsBack_list fun arg _ => readsBack_string arg).map _⟩
  have hflags : Makes fields ("flags", .number options.flags.toNat)
      fun old => { old with flags := options.flags } :=
    ⟨_, rfl, (readsBack_natural options.flags).map _⟩
  have hread := readText_of_readsBack
    (readsBack_record "ParseOptions" {} (.cons hargs (.cons hflags .nil)) (by simp))
  have hback : ofJson? options.toJson.text = .ok options := by
    rw [ofJson?, toJson, hread]
    rfl
  exact ⟨hback, fun flag => by rw [hback]; rfl⟩

theorem IndexOptions.settings_read_back (options : IndexOptions) :
    ofJson? options.toJson.text = .ok options := by
  have hexclude : Makes fields
      ("exclude_declarations_from_pch", .bool options.excludeDeclarationsFromPch)
      fun old => { old with excludeDeclarationsFromPch := options.excludeDeclarationsFromPch } :=
    ⟨_, rfl, (readsBack_bool _).map _⟩
  have hdisplay : Makes fields ("display_diagnostics", .bool options.displayDiagnostics)
      fun old => { old with displayDiagnostics := options.displayDiagnostics } :=
    ⟨_, rfl, (readsBack_bool _).map _⟩
  exact readText_of_readsBack
    (readsBack_record "IndexOptions" {} (.cons hexclude (.cons hdisplay .nil)) (by simp))

end SyntaxHandles
