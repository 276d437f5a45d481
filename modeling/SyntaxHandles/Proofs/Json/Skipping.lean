import SyntaxHandles.Proofs.Json.Spelling

-- Values of any shape and nesting are stepped over: all of a value that the grammar derives, and
-- nothing behind it.

namespace SyntaxHandles.Json

variable {s t u rest start : List Char} {c : Char}

theorem Blanks.endsNumber (h : Blanks s t) (he : EndsNumber t) : EndsNumber s := by
  cases h with
  | nil => exact he
  | cons blank _ =>
      intro d hd
      cases hd
      simp only [List.mem_cons, List.not_mem_nil, or_false] at blank
      rcases blank with rfl | rfl | rfl | rfl <;> decide

section Numbers

def NoDigit (s : List Char) : Prop :=
  ∀ c ∈ s.head?, c.isDigit = false

theorem EndsNumber.noDigit (h : EndsNumber s) : NoDigit s :=
  fun c hc => (h c hc).1

theorem Digits.startsWithDigit_eq (h : Digits s t) : startsWithDigit s = true := by
  cases h <;> assumption

theorem Digits.dropWhile_eq (h : Digits s t) (hn : NoDigit t) : s.dropWhile Char.isDigit = t := by
  have hdrop : t.dropWhile Char.isDigit = t := by
    cases t with
    | nil => rfl
    | cons c t => exact List.dropWhile_cons_of_neg (by simp [hn c rfl])
  induction h with
  | last digit _ => rw [List.dropWhile_cons_of_pos digit, hdrop]
  | next digit _ ih => rw [List.dropWhile_cons_of_pos digit, ih hn hdrop]

theorem skipExponent_gives_unsigned {x : Char} (h : Digits s t) (hn : NoDigit t) :
    (skipExponent (x := x) s).Gives () t := by
  have hdigits := h.startsWithDigit_eq
  have hdrop := h.dropWhile_eq hn
  have hunsigned : (s.head? == some '+' || s.head? == some '-') = false := by
    cases h with
    | last digit _ | next digit _ =>
        simp only [List.head?_cons, Option.some_beq_some, Bool.or_eq_false_iff, beq_eq_false_iff_ne]
        constructor <;> rintro rfl <;> exact nomatch digit
  simp only [skipExponent, hunsigned, Bool.false_eq_true, if_false, hdigits, Bool.not_true, hdrop]
  exact ⟨_, rfl⟩

theorem skipExponent_gives_signed {x sign : Char} (hs : sign ∈ ['+', '-']) (h : Digits s t)
    (hn : NoDigit t) : (skipExponent (x := x) (sign :: s)).Gives () t := by
  have hdigits := h.startsWithDigit_eq
  have hdrop := h.dropWhile_eq hn
  have hsigned : ((sign :: s).head? == some '+' || (sign :: s).head? == some '-') = true := by
    simp only [List.mem_cons, List.not_mem_nil, or_false] at hs
    rcases hs with rfl | rfl <;> rfl
  simp only [skipExponent, hsigned, if_true, List.tail_cons, hdigits, Bool.not_true,
    Bool.false_eq_true, if_false, hdrop]
  exact ⟨_, rfl⟩

-- What begins with an exponent, if there is one, has it behind a letter.
theorem Exponent.skips (h : Exponent s t) (he : EndsNumber t) :
    s = t ∨ ∃ e after, e ∈ ['e', 'E'] ∧ s = e :: after ∧
      ∀ x, (skipExponent (x := x) after).Gives () t := by
  cases h with
  | absent => exact .inl rfl
  | unsigned letter digits =>
      exact .inr ⟨_, _, letter, rfl, fun _ => skipExponent_gives_unsigned digits he.noDigit⟩
  | signed letter known digits =>
      exact .inr ⟨_, _, letter, rfl, fun _ => skipExponent_gives_signed known digits he.noDigit⟩

theorem Exponent.noDigit (h : Exponent s t) (he : EndsNumber t) : NoDigit s := by
  obtain rfl | ⟨e, after, letter, rfl, -⟩ := h.skips he
  · exact he.noDigit
  · intro d hd
    cases hd
    simp only [List.mem_cons, List.not_mem_nil, or_false] at letter
    rcases letter with rfl | rfl <;> rfl

theorem skipFraction_gives {x : Char} (h : Digits s t) (hx : Exponent t u) (he : EndsNumber u) :
    (skipFraction (x := x) s).Gives () u := by
  have hdigits := h.startsWithDigit_eq
  have hdrop := h.dropWhile_eq (hx.noDigit he)
  have hexponent := hx.skips he
  simp only [skipFraction, hdigits, Bool.not_true, Bool.false_eq_true, if_false]
  split
  · next heq _ =>
    obtain rfl := hdrop.symm.trans heq
    obtain rfl | ⟨e, _, -, hcons, hskip⟩ := hexponent
    · exact absurd rfl (he _ rfl).2.2.1
    · obtain ⟨-, rfl⟩ := List.cons.inj hcons
      exact (hskip _).within _
  · next heq _ =>
    obtain rfl := hdrop.symm.trans heq
    obtain rfl | ⟨e, _, -, hcons, hskip⟩ := hexponent
    · exact absurd rfl (he _ rfl).2.2.2
    · obtain ⟨-, rfl⟩ := List.cons.inj hcons
      exact (hskip _).within _
  · next hlower hupper =>
    obtain rfl | ⟨e, after, letter, rfl, -⟩ := hexponent
    · exact gives_ok () hdrop _
    · simp only [List.mem_cons, List.not_mem_nil, or_false] at letter
      rcases letter with rfl | rfl
      · exact (hlower after (hdrop ▸ shorter) hdrop (proof_irrel_heq _ _)).elim
      · exact (hupper after (hdrop ▸ shorter) hdrop (proof_irrel_heq _ _)).elim

-- The part of a number behind its whole part is left over by the digits before it.
theorem Fraction.noDigit (h : Fraction s t) (hx : Exponent t u) (he : EndsNumber u) :
    NoDigit s := by
  cases h with
  | absent => exact hx.noDigit he
  | present _ =>
      intro d hd
      cases hd
      rfl

theorem Whole.exists_cons (h : Whole s t) (hn : NoDigit t) :
    ∃ c after, s = c :: after ∧ c.isDigit = true ∧ (c = '0' → startsWithDigit after = false) ∧
      after.dropWhile Char.isDigit = t := by
  cases h with
  | digit digit =>
      refine ⟨_, _, rfl, digit, fun _ => ?_, ?_⟩
      · cases t with
        | nil => rfl
        | cons d t => exact hn d rfl
      · cases t with
        | nil => rfl
        | cons d t => exact List.dropWhile_cons_of_neg (by simp [hn d rfl])
  | digits digit needed more =>
      exact ⟨_, _, rfl, digit, fun h => absurd h needed, more.dropWhile_eq hn⟩

theorem skipNumber_gives (h : Unsigned s t) (he : EndsNumber t) : (skipNumber s).Gives () t := by
  obtain ⟨whole, fraction, exponent⟩ := h
  obtain ⟨c, after, rfl, hc, hzero, hdrop⟩ := whole.exists_cons (fraction.noDigit exponent he)
  have hnot : ¬(c = '0' ∧ startsWithDigit after = true) := by
    rintro ⟨rfl, hs⟩
    rw [hzero rfl] at hs
    exact nomatch hs
  have hexponent := exponent.skips he
  simp only [skipNumber, hc, Bool.not_true, Bool.false_eq_true, if_false, hnot]
  split
  · next heq _ =>
    obtain rfl := hdrop.symm.trans heq
    cases fraction with
    | present digits => exact (skipFraction_gives digits exponent he).within _
    | absent =>
        obtain rfl | ⟨e, _, letter, hcons, -⟩ := hexponent
        · exact absurd rfl (he _ rfl).2.1
        · obtain ⟨rfl, -⟩ := List.cons.inj hcons
          exact absurd letter (by decide)
  · next heq _ =>
    obtain rfl := hdrop.symm.trans heq
    cases fraction with
    | absent =>
        obtain rfl | ⟨e, _, -, hcons, hskip⟩ := hexponent
        · exact absurd rfl (he _ rfl).2.2.1
        · obtain ⟨-, rfl⟩ := List.cons.inj hcons
          exact (hskip _).within _
  · next heq _ =>
    obtain rfl := hdrop.symm.trans heq
    cases fraction with
    | absent =>
        obtain rfl | ⟨e, _, -, hcons, hskip⟩ := hexponent
        · exact absurd rfl (he _ rfl).2.2.2
        · obtain ⟨-, rfl⟩ := List.cons.inj hcons
          exact (hskip _).within _
  · next hpoint hlower hupper =>
    cases fraction with
    | present digits => exact (hpoint _ (hdrop ▸ shorter) hdrop (proof_irrel_heq _ _)).elim
    | absent =>
        obtain rfl | ⟨e, rest, letter, rfl, -⟩ := hexponent
        · exact gives_ok () hdrop _
        · simp only [List.mem_cons, List.not_mem_nil, or_false] at letter
          rcases letter with rfl | rfl
          · exact (hlower rest (hdrop ▸ shorter) hdrop (proof_irrel_heq _ _)).elim
          · exact (hupper rest (hdrop ▸ shorter) hdrop (proof_irrel_heq _ _)).elim

end Numbers

section Heads

theorem Unsigned.exists_digit (h : Unsigned s t) : ∃ c rest, s = c :: rest ∧ c.isDigit = true := by
  obtain ⟨whole, -, -⟩ := h
  cases whole with
  | digit digit => exact ⟨_, _, rfl, digit⟩
  | digits digit _ _ => exact ⟨_, _, rfl, digit⟩

theorem ne_of_isDigit {d : Char} (hc : c.isDigit = true) (hd : d.isDigit = false) : c ≠ d := by
  rintro rfl
  rw [hc] at hd
  exact nomatch hd

-- A value begins with something that neither can be skipped nor ends a list.
theorem Derives.exists_head (h : Derives .value s t) :
    ∃ c rest, s = c :: rest ∧ isBlank c = Bool.false ∧ c ≠ ']' := by
  cases h with
  | word known =>
      simp only [words, List.mem_cons, List.not_mem_nil, or_false] at known
      rcases known with rfl | rfl | rfl <;> exact ⟨_, _, rfl, rfl, by decide⟩
  | number number =>
      obtain ⟨c, rest, rfl, hc⟩ := number.exists_digit
      exact ⟨c, rest, rfl, isBlank_of_isDigit hc, ne_of_isDigit hc rfl⟩
  | _ => exact ⟨_, _, rfl, rfl, by decide⟩

theorem Derives.elements_head (h : Derives .elements s t) :
    ∃ d after, skipBlanks s = d :: after ∧ d ≠ ']' := by
  have hpadded {s v : List Char} (h : Derives .padded s v) :
      ∃ d after, skipBlanks s = d :: after ∧ d ≠ ']' := by
    cases h with
    | padded before value _ =>
        obtain ⟨c, rest, rfl, hb, hc⟩ := value.exists_head
        exact ⟨c, rest, before.skipBlanks_cons hb, hc⟩
  cases h with
  | lastElement element => exact hpadded element
  | nextElement element _ => exact hpadded element

theorem Derives.members_head (h : Derives .members s t) :
    ∃ after, skipBlanks s = '"' :: after := by
  have hmember {s v : List Char} (h : Derives .member s v) :
      ∃ after, skipBlanks s = '"' :: after := by
    cases h with
    | member before _ _ _ => exact ⟨_, before.skipBlanks_cons rfl⟩
  cases h with
  | lastMember member => exact hmember member
  | nextMember member _ => exact hmember member

end Heads

section Values

theorem skipKey_gives (hb : skipBlanks s = '"' :: rest) (h : (skipContent rest).Gives () t) :
    (skipKey s).Gives () t := by
  unfold skipKey
  split
  · next hn => cases hb.symm.trans hn
  · next hd =>
    obtain ⟨rfl, rfl⟩ := List.cons.inj (hb.symm.trans hd)
    exact h.within _

theorem skipValue_gives_word {word : List Char} (h : c :: word ∈ words)
    (hb : skipBlanks s = c :: (word ++ t)) : (skipValue s).Gives () t := by
  rw [skipValue]
  split
  · next hn => cases hb.symm.trans hn
  · next hd =>
    obtain ⟨rfl, rfl⟩ := List.cons.inj (hb.symm.trans hd)
    simp only [words, List.mem_cons, List.cons.injEq, List.not_mem_nil, or_false] at h
    rcases h with ⟨rfl, rfl⟩ | ⟨rfl, rfl⟩ | ⟨rfl, rfl⟩ <;> exact ⟨_, rfl⟩

theorem skipValue_gives_negative (hb : skipBlanks s = '-' :: rest)
    (h : (skipNumber rest).Gives () t) : (skipValue s).Gives () t := by
  rw [skipValue]
  split
  · next hn => cases hb.symm.trans hn
  · next hd =>
    obtain ⟨rfl, rfl⟩ := List.cons.inj (hb.symm.trans hd)
    exact h.within _

theorem skipValue_gives_number (hc : c.isDigit = true) (hb : skipBlanks s = c :: rest)
    (h : (skipNumber (c :: rest)).Gives () t) : (skipValue s).Gives () t := by
  rw [skipValue]
  split
  · next hn => cases hb.symm.trans hn
  · next hd =>
    obtain ⟨rfl, rfl⟩ := List.cons.inj (hb.symm.trans hd)
    rw [if_neg (ne_of_isDigit hc rfl), if_neg (ne_of_isDigit hc rfl),
      if_neg (ne_of_isDigit hc rfl), if_neg (ne_of_isDigit hc rfl), if_pos hc]
    exact h.within _

theorem skipValue_gives_string (hb : skipBlanks s = '"' :: rest)
    (h : (skipContent rest).Gives () t) : (skipValue s).Gives () t := by
  rw [skipValue]
  split
  · next hn => cases hb.symm.trans hn
  · next hd =>
    obtain ⟨rfl, rfl⟩ := List.cons.inj (hb.symm.trans hd)
    exact h.within _

-- Whether a list has elements shows in the first character behind its bracket.
theorem skipValue_list {d : Char} {after : List Char} (hb : skipBlanks s = '[' :: rest)
    (hd : skipBlanks rest = d :: after) :
    ∃ shorter shorter', skipValue s =
      if d = ']' then .ok ⟨(), after, shorter⟩ else (skipElements rest).within shorter' := by
  have h : rest.length < s.length := length_lt_of_skipBlanks hb
  have h' : after.length < rest.length := length_lt_of_skipBlanks hd
  refine ⟨length_lt_of_lt_of_lt h' h, length_le_of_lt h, ?_⟩
  rw [skipValue]
  split
  · next hn => cases hb.symm.trans hn
  · next hs =>
    obtain ⟨rfl, rfl⟩ := List.cons.inj (hb.symm.trans hs)
    rw [if_neg (by decide), if_neg (by decide), if_neg (by decide), if_neg (by decide),
      if_neg (by decide), if_neg (by decide), if_pos rfl]
    split
    · next hn => cases hd.symm.trans hn
    · next hs =>
      obtain ⟨rfl, rfl⟩ := List.cons.inj (hd.symm.trans hs)
      rfl

theorem skipValue_object {d : Char} {after : List Char} (hb : skipBlanks s = '\x7b' :: rest)
    (hd : skipBlanks rest = d :: after) :
    ∃ shorter shorter', skipValue s =
      if d = '\x7d' then .ok ⟨(), after, shorter⟩ else (skipMembers rest).within shorter' := by
  have h : rest.length < s.length := length_lt_of_skipBlanks hb
  have h' : after.length < rest.length := length_lt_of_skipBlanks hd
  refine ⟨length_lt_of_lt_of_lt h' h, length_le_of_lt h, ?_⟩
  rw [skipValue]
  split
  · next hn => cases hb.symm.trans hn
  · next hs =>
    obtain ⟨rfl, rfl⟩ := List.cons.inj (hb.symm.trans hs)
    rw [if_neg (by decide), if_neg (by decide), if_neg (by decide), if_neg (by decide),
      if_neg (by decide), if_neg (by decide), if_neg (by decide), if_pos rfl]
    split
    · next hn => cases hd.symm.trans hn
    · next hs =>
      obtain ⟨rfl, rfl⟩ := List.cons.inj (hd.symm.trans hs)
      rfl

theorem skipValue_gives_emptyList (hb : skipBlanks s = '[' :: rest)
    (he : skipBlanks rest = ']' :: t) : (skipValue s).Gives () t := by
  obtain ⟨shorter, _, hs⟩ := skipValue_list hb he
  rw [if_pos rfl] at hs
  exact ⟨shorter, hs⟩

theorem skipValue_gives_list (hb : skipBlanks s = '[' :: rest)
    (hd : ∃ d after, skipBlanks rest = d :: after ∧ d ≠ ']')
    (h : (skipElements rest).Gives () t) : (skipValue s).Gives () t := by
  obtain ⟨d, after, hd, hne⟩ := hd
  obtain ⟨_, shorter, hs⟩ := skipValue_list hb hd
  rw [hs, if_neg hne]
  exact h.within shorter

theorem skipValue_gives_emptyObject (hb : skipBlanks s = '\x7b' :: rest)
    (he : skipBlanks rest = '\x7d' :: t) : (skipValue s).Gives () t := by
  obtain ⟨shorter, _, hs⟩ := skipValue_object hb he
  rw [if_pos rfl] at hs
  exact ⟨shorter, hs⟩

theorem skipValue_gives_object (hb : skipBlanks s = '\x7b' :: rest)
    (hd : ∃ after, skipBlanks rest = '"' :: after) (h : (skipMembers rest).Gives () t) :
    (skipValue s).Gives () t := by
  obtain ⟨after, hd⟩ := hd
  obtain ⟨_, shorter, hs⟩ := skipValue_object hb hd
  rw [hs, if_neg (by decide)]
  exact h.within shorter

theorem skipElements_gives_last (h : (skipValue s).Gives () rest)
    (hb : skipBlanks rest = ']' :: t) : (skipElements s).Gives () t := by
  obtain ⟨_, h⟩ := h
  rw [skipElements]
  simp only [h]
  split
  · next hn => cases hb.symm.trans hn
  · next hd =>
    obtain ⟨rfl, rfl⟩ := List.cons.inj (hb.symm.trans hd)
    exact ⟨_, rfl⟩

theorem skipElements_gives_next (h : (skipValue s).Gives () rest)
    (hb : skipBlanks rest = ',' :: t) (hr : (skipElements t).Gives () u) :
    (skipElements s).Gives () u := by
  obtain ⟨_, h⟩ := h
  rw [skipElements]
  simp only [h]
  split
  · next hn => cases hb.symm.trans hn
  · next hd =>
    obtain ⟨rfl, rfl⟩ := List.cons.inj (hb.symm.trans hd)
    exact hr.within _

-- A member that is stepped over, up to the blanks behind its value.
def SkipsMember (s rest : List Char) : Prop :=
  ∃ start, (Attempt.andThen (skipKey s) fun () => skipColon).Gives () start ∧
    (skipValue start).Gives () rest

theorem skipMembers_gives_last (h : SkipsMember s rest) (hb : skipBlanks rest = '\x7d' :: t) :
    (skipMembers s).Gives () t := by
  obtain ⟨start, ⟨_, hk⟩, ⟨_, hv⟩⟩ := h
  rw [skipMembers]
  simp only [hk, hv]
  split
  · next hn => cases hb.symm.trans hn
  · next hd =>
    obtain ⟨rfl, rfl⟩ := List.cons.inj (hb.symm.trans hd)
    exact ⟨_, rfl⟩

theorem skipMembers_gives_next (h : SkipsMember s rest) (hb : skipBlanks rest = ',' :: t)
    (hr : (skipMembers t).Gives () u) : (skipMembers s).Gives () u := by
  obtain ⟨start, ⟨_, hk⟩, ⟨_, hv⟩⟩ := h
  rw [skipMembers]
  simp only [hk, hv]
  split
  · next hn => cases hb.symm.trans hn
  · next hd =>
    obtain ⟨rfl, rfl⟩ := List.cons.inj (hb.symm.trans hd)
    exact hr.within _

-- How each symbol of the grammar is stepped over. Numbers only end where they are at their end, and
-- the blanks behind a value are left over.
def Symbol.Skips : Symbol → List Char → List Char → Prop
  | value, s, t => ∀ start, Blanks start s → EndsNumber t → (skipValue start).Gives () t
  | padded, s, t => EndsNumber t → ∃ rest, Blanks rest t ∧ (skipValue s).Gives () rest
  | elements, s, t => (skipElements s).Gives () t
  | member, s, t => EndsNumber t → ∃ rest, Blanks rest t ∧ SkipsMember s rest
  | members, s, t => (skipMembers s).Gives () t

theorem Derives.skips {symbol : Symbol} (h : Derives symbol s t) : symbol.Skips s t := by
  induction h with
  | word known s =>
      intro start hb _
      simp only [words, List.mem_cons, List.not_mem_nil, or_false] at known
      rcases known with rfl | rfl | rfl <;>
        refine skipValue_gives_word ?_ (hb.skipBlanks_cons rfl) <;> decide
  | number number =>
      intro start hb he
      obtain ⟨c, rest, rfl, hc⟩ := number.exists_digit
      exact skipValue_gives_number hc (hb.skipBlanks_cons (isBlank_of_isDigit hc))
        (skipNumber_gives number he)
  | negative number =>
      intro start hb he
      exact skipValue_gives_negative (hb.skipBlanks_cons rfl) (skipNumber_gives number he)
  | string content =>
      intro start hb _
      exact skipValue_gives_string (hb.skipBlanks_cons rfl) (skipContent_gives content)
  | emptyList blanks =>
      intro start hb _
      exact skipValue_gives_emptyList (hb.skipBlanks_cons rfl) (blanks.skipBlanks_cons rfl)
  | list elements ih =>
      intro start hb _
      exact skipValue_gives_list (hb.skipBlanks_cons rfl) elements.elements_head ih
  | emptyObject blanks =>
      intro start hb _
      exact skipValue_gives_emptyObject (hb.skipBlanks_cons rfl) (blanks.skipBlanks_cons rfl)
  | object members ih =>
      intro start hb _
      exact skipValue_gives_object (hb.skipBlanks_cons rfl) members.members_head ih
  | padded before _ after ih =>
      intro he
      exact ⟨_, after, ih _ before (after.endsNumber he)⟩
  | lastElement _ ih =>
      obtain ⟨rest, hb, hv⟩ := ih (endsNumber_cons (.inr (.inl rfl)) _)
      exact skipElements_gives_last hv (hb.skipBlanks_cons rfl)
  | nextElement _ _ ih more_ih =>
      obtain ⟨rest, hb, hv⟩ := ih (endsNumber_cons (.inl rfl) _)
      exact skipElements_gives_next hv (hb.skipBlanks_cons rfl) more_ih
  | member before key after _ ih =>
      intro he
      obtain ⟨rest, hb, hv⟩ := ih he
      have hkey := skipKey_gives (before.skipBlanks_cons rfl) (skipContent_gives key)
      exact ⟨rest, hb, _, hkey.andThen (skipColon_gives (after.skipBlanks_cons rfl)), hv⟩
  | lastMember _ ih =>
      obtain ⟨rest, hb, hm⟩ := ih (endsNumber_cons (.inr (.inr rfl)) _)
      exact skipMembers_gives_last hm (hb.skipBlanks_cons rfl)
  | nextMember _ _ ih more_ih =>
      obtain ⟨rest, hb, hm⟩ := ih (endsNumber_cons (.inl rfl) _)
      exact skipMembers_gives_next hm (hb.skipBlanks_cons rfl) more_ih

theorem skipValue_gives (hb : Blanks start s) (h : Derives .value s t) (he : EndsNumber t) :
    (skipValue start).Gives () t :=
  h.skips start hb he

end Values

end SyntaxHandles.Json
