import SyntaxHandles.Proofs.Json.Layout

-- What a Json text says. A document stands in many texts, with other blanks or escapes, but in one
-- text there stands one document at most.

namespace SyntaxHandles.Json

inductive Document
  | null
  | bool (b : Bool)
  -- The number `significand * 10 ^ exponent`.
  | number (significand exponent : Int)
  | string (text : String)
  | list (elements : List Document)
  | object (members : List (String × Document))

section Numbers

def isExponentLetter (c : Char) : Bool :=
  c == 'e' || c == 'E'

-- What is written of a number before its exponent.
def mantissa (numeral : List Char) : List Char :=
  numeral.takeWhile (!isExponentLetter ·)

def significand (numeral : List Char) : Nat :=
  Nat.ofDigitChars 10 ((mantissa numeral).filter Char.isDigit) 0

-- How many digits stand behind the point.
def places (numeral : List Char) : Nat :=
  ((mantissa numeral).dropWhile (· != '.')).tail.length

-- What the letter of the exponent is followed by.
def power : List Char → Int
  | '-' :: digits => -(Nat.ofDigitChars 10 digits 0)
  | '+' :: digits => Nat.ofDigitChars 10 digits 0
  | digits => Nat.ofDigitChars 10 digits 0

def exponent (numeral : List Char) : Int :=
  power (numeral.dropWhile (!isExponentLetter ·)).tail - places numeral

inductive NumberOf : Int → Int → List Char → List Char → Prop
  | unsigned {numeral s t : List Char} (text : s = numeral ++ t) (number : Unsigned s t) :
      NumberOf (significand numeral) (exponent numeral) s t
  | negative {numeral s t : List Char} (text : s = numeral ++ t) (number : Unsigned s t) :
      NumberOf (-significand numeral) (exponent numeral) ('-' :: s) t

end Numbers

theorem sizeOf_element_lt {document : Document} {elements : List Document}
    (h : document ∈ elements) : sizeOf document < sizeOf (Document.list elements) := by
  have hlt := List.sizeOf_lt_of_mem h
  rw [Document.list.sizeOf_spec]
  omega

theorem sizeOf_member_lt {member : String × Document} {members : List (String × Document)}
    (h : member ∈ members) : sizeOf member.2 < sizeOf (Document.object members) := by
  have hlt := List.sizeOf_lt_of_mem h
  rw [Document.object.sizeOf_spec]
  rw [Prod.mk.sizeOf_spec] at hlt
  omega

-- A document is found at the front of a text, and what is left behind it is another text.
def Document.Stands : Document → List Char → List Char → Prop
  | .null, s, t => s = 'n' :: 'u' :: 'l' :: 'l' :: t
  | .bool true, s, t => s = 't' :: 'r' :: 'u' :: 'e' :: t
  | .bool false, s, t => s = 'f' :: 'a' :: 'l' :: 's' :: 'e' :: t
  | .number significand exponent, s, t => NumberOf significand exponent s t
  | .string text, s, t => StringOf text s t
  | .list elements, s, t => ∃ u, s = '[' :: u ∧
    Enclosed ']' (fun element : { x // x ∈ elements } => Padded element.1.Stands)
      elements.attach u t
  | .object members, s, t => ∃ u, s = '\x7b' :: u ∧
    Enclosed '\x7d' (fun member : { x // x ∈ members } => Pair member.1.1 member.1.2.Stands)
      members.attach u t
termination_by document => document
decreasing_by
  · exact sizeOf_element_lt element.2
  · exact sizeOf_member_lt member.2

section Sequences

variable {α β : Type} {P : α → List Char → List Char → Prop} {close : Char} {as : List β}
  {f : β → α} {s t : List Char}

theorem listed_map : Listed P (as.map f) s t ↔ Listed (fun b => P (f b)) as s t := by
  constructor
  · intro h
    induction as generalizing s with
    | nil =>
        cases h
        exact .nil _
    | cons a as ih =>
        cases h with
        | cons first more => exact .cons first (ih more)
  · intro h
    induction h with
    | nil s => exact .nil s
    | cons first _ ih => exact .cons first ih

theorem enclosed_map :
    Enclosed close P (as.map f) s t ↔ Enclosed close (fun b => P (f b)) as s t := by
  constructor
  · generalize hm : as.map f = items
    intro h
    cases h with
    | empty blanks =>
        obtain rfl := List.map_eq_nil_iff.mp hm
        exact .empty blanks
    | items first last =>
        obtain ⟨front, back, rfl, rfl, hback⟩ := List.map_eq_append_iff.mp hm
        obtain ⟨b, rfl, rfl⟩ := List.map_eq_singleton_iff.mp hback
        exact .items (listed_map.mp first) last
  · intro h
    cases h with
    | empty blanks => exact .empty blanks
    | items first last =>
        rw [List.map_append]
        exact .items (listed_map.mpr first) last

end Sequences

section Stands

variable {elements : List Document} {members : List (String × Document)} {s t : List Char}

theorem stands_list : (Document.list elements).Stands s t ↔
    ∃ u, s = '[' :: u ∧ Enclosed ']' (fun element => Padded element.Stands) elements u t := by
  conv_rhs => rw [← List.attach_map_subtype_val elements]
  simp only [enclosed_map]
  rw [Document.Stands]

theorem stands_object : (Document.object members).Stands s t ↔
    ∃ u, s = '\x7b' :: u ∧
      Enclosed '\x7d' (fun member => Pair member.1 member.2.Stands) members u t := by
  conv_rhs => rw [← List.attach_map_subtype_val members]
  simp only [enclosed_map]
  rw [Document.Stands]

end Stands

-- What the first character of a value tells of it.
inductive Shape
  | null
  | bool (b : Bool)
  | number
  | string
  | list
  | object

def Document.shape : Document → Shape
  | .null => .null
  | .bool b => .bool b
  | .number .. => .number
  | .string _ => .string
  | .list _ => .list
  | .object _ => .object

def shapeAt? (c : Char) : Option Shape :=
  if c = '-' ∨ c.isDigit then some .number
  else if c = 'n' then some .null
  else if c = 't' then some (.bool true)
  else if c = 'f' then some (.bool false)
  else if c = '"' then some .string
  else if c = '[' then some .list
  else if c = '\x7b' then some .object
  else none

section Heads

variable {document : Document} {s t : List Char} {c : Char}

theorem Document.Stands.exists_head (h : document.Stands s t) :
    ∃ c rest, s = c :: rest ∧ shapeAt? c = some document.shape := by
  cases document with
  | null =>
      rw [Stands] at h
      exact ⟨_, _, h, rfl⟩
  | bool b => cases b <;> rw [Stands] at h <;> exact ⟨_, _, h, rfl⟩
  | number significand exponent =>
      rw [Stands] at h
      cases h with
      | unsigned text number =>
          obtain ⟨c, rest, hs, hc⟩ := number.exists_digit
          exact ⟨c, rest, hs, if_pos (.inr hc)⟩
      | negative text number => exact ⟨_, _, rfl, rfl⟩
  | string text =>
      rw [Stands] at h
      obtain ⟨content, rfl, -⟩ := h
      exact ⟨_, _, rfl, rfl⟩
  | list elements =>
      obtain ⟨u, rfl, -⟩ := stands_list.mp h
      exact ⟨_, _, rfl, rfl⟩
  | object members =>
      obtain ⟨u, rfl, -⟩ := stands_object.mp h
      exact ⟨_, _, rfl, rfl⟩

-- A value begins with something that neither can be skipped nor ends a list.
theorem isBlank_of_shapeAt? {shape : Shape} (h : shapeAt? c = some shape) :
    isBlank c = false ∧ c ≠ ']' := by
  constructor
  · cases hb : isBlank c with
    | false => rfl
    | true =>
        simp only [isBlank, Bool.or_eq_true, beq_iff_eq] at hb
        rcases hb with ((rfl | rfl) | rfl) | rfl <;> cases h
  · rintro rfl
    cases h

end Heads

section Unique

variable {s t t' : List Char}

theorem Attempt.Gives.unique {α : Type} {attempt : Attempt α s} {a b : α}
    (h : attempt.Gives a t) (h' : attempt.Gives b t') : a = b ∧ t = t' := by
  obtain ⟨_, rfl⟩ := h
  obtain ⟨_, h'⟩ := h'
  cases h'
  exact ⟨rfl, rfl⟩

theorem StringOf.unique {text text' : String} (h : StringOf text s t) (h' : StringOf text' s t') :
    text = text' ∧ t = t' :=
  (readString_gives_string (.nil s) h).unique (readString_gives_string (.nil s) h')

-- Numbers stand as long as they can.
theorem NumberOf.unique {m m' e e' : Int} (h : NumberOf m e s t) (h' : NumberOf m' e' s t')
    (ht : EndsNumber t) (ht' : EndsNumber t') : (m = m' ∧ e = e') ∧ t = t' := by
  have hminus {rest u : List Char} (hu : Unsigned ('-' :: rest) u) : False := by
    obtain ⟨c, _, hs, hc⟩ := hu.exists_digit
    obtain ⟨rfl, -⟩ := List.cons.inj hs
    exact nomatch hc
  cases h with
  | @unsigned numeral _ _ text number =>
      cases h' with
      | @unsigned numeral' _ _ text' number' =>
          obtain ⟨-, rfl⟩ := (skipNumber_gives number ht).unique (skipNumber_gives number' ht')
          obtain rfl := List.append_cancel_right (text.symm.trans text')
          exact ⟨⟨rfl, rfl⟩, rfl⟩
      | negative _ _ => exact (hminus number).elim
  | @negative numeral _ _ text number =>
      cases h' with
      | unsigned _ number' => exact (hminus number').elim
      | @negative numeral' _ _ text' number' =>
          obtain ⟨-, rfl⟩ := (skipNumber_gives number ht).unique (skipNumber_gives number' ht')
          obtain rfl := List.append_cancel_right (text.symm.trans text')
          exact ⟨⟨rfl, rfl⟩, rfl⟩

-- What follows a value and the blanks behind it.
def Stops (s : List Char) : Prop :=
  ∀ c ∈ s.head?, c = ',' ∨ c = ']' ∨ c = '\x7d'

theorem Stops.endsNumber (h : Stops s) : EndsNumber s := by
  intro c hc
  rcases h c hc with rfl | rfl | rfl <;> decide

theorem Stops.skipBlanks_eq (h : Stops s) : skipBlanks s = s := by
  cases s with
  | nil => rfl
  | cons c s =>
      refine skipBlanks_cons ?_ s
      rcases h c rfl with rfl | rfl | rfl <;> rfl

section Sequences

variable {α : Type} {P : α → List Char → List Char → Prop} {close : Char} {as bs : List α}
  {a b : α} {u u' : List Char}

-- Of the items that are enclosed, each is the only one that can be where it is.
def Single (P : α → List Char → List Char → Prop) (a : α) : Prop :=
  ∀ b s t t', P a s t → P b s t' → Stops t → Stops t' → a = b ∧ t = t'

theorem stops_cons {c : Char} (h : c = ',' ∨ c = ']' ∨ c = '\x7d') (s : List Char) :
    Stops (c :: s) := by
  rintro d ⟨⟩
  exact h

theorem Listed.unique (hclose : close = ']' ∨ close = '\x7d')
    (hs : ∀ x ∈ as ++ [a], Single P x) (h : Listed P as s t) (ha : P a t (close :: u))
    (h' : Listed P bs s t') (hb : P b t' (close :: u')) : as ++ [a] = bs ++ [b] ∧ u = u' := by
  have hstops {v : List Char} : Stops (close :: v) := stops_cons (.inr hclose) v
  have hcomma {v : List Char} : Stops (',' :: v) := stops_cons (.inl rfl) v
  have hne : close ≠ ',' := by rcases hclose with rfl | rfl <;> decide
  induction h generalizing bs with
  | nil s =>
      have ha' := hs a (.head _)
      cases h' with
      | nil =>
          obtain ⟨rfl, he⟩ := ha' b _ _ _ ha hb hstops hstops
          exact ⟨rfl, (List.cons.inj he).2⟩
      | cons first _ =>
          obtain ⟨-, he⟩ := ha' _ _ _ _ ha first hstops hcomma
          exact absurd (List.cons.inj he).1 hne
  | @cons x as s t v first _ ih =>
      obtain ⟨hx, hrest⟩ := List.forall_mem_cons.mp hs
      cases h' with
      | nil =>
          obtain ⟨-, he⟩ := hx b _ _ _ first hb hcomma hstops
          exact absurd (List.cons.inj he).1.symm hne
      | cons first' more' =>
          obtain ⟨rfl, he⟩ := hx _ _ _ _ first first' hcomma hcomma
          obtain ⟨-, rfl⟩ := List.cons.inj he
          obtain ⟨has, hu⟩ := ih hrest ha more'
          exact ⟨congrArg (x :: ·) has, hu⟩

theorem Enclosed.unique (hclose : close = ']' ∨ close = '\x7d') (hs : ∀ a ∈ as, Single P a)
    (hbegins : ∀ {a s t u}, P a s t → ¬Blanks s (close :: u)) (h : Enclosed close P as s t)
    (h' : Enclosed close P bs s t') : as = bs ∧ t = t' := by
  have hblank : isBlank close = false := by rcases hclose with rfl | rfl <;> rfl
  have hitems {cs : List α} {c : α} {u v w : List Char} (first : Listed P cs s u)
      (last : P c u v) : ¬Blanks s (close :: w) := by
    cases first with
    | nil => exact hbegins last
    | cons first _ => exact hbegins first
  cases h with
  | empty blanks =>
      cases h' with
      | empty blanks' =>
          have he := (blanks.skipBlanks_cons hblank).symm.trans (blanks'.skipBlanks_cons hblank)
          exact ⟨rfl, (List.cons.inj he).2⟩
      | items first last => exact absurd blanks (hitems first last)
  | items first last =>
      cases h' with
      | empty blanks => exact absurd blanks (hitems first last)
      | items first' last' => exact Listed.unique hclose hs first last first' last'

end Sequences

-- Nothing else stands where this document does.
def Document.Alone (document : Document) : Prop :=
  ∀ other s t t', document.Stands s t → other.Stands s t' → EndsNumber t → EndsNumber t' →
    document = other ∧ t = t'

theorem Document.Alone.padded {document other : Document} (ha : document.Alone)
    (h : Padded document.Stands s t) (h' : Padded other.Stands s t') (ht : Stops t)
    (ht' : Stops t') : document = other ∧ t = t' := by
  obtain ⟨u, v, before, stands, after⟩ := h
  obtain ⟨u', v', before', stands', after'⟩ := h'
  obtain ⟨c, rest, rfl, hc⟩ := stands.exists_head
  obtain ⟨c', rest', rfl, hc'⟩ := stands'.exists_head
  have hsame := (before.skipBlanks_cons (isBlank_of_shapeAt? hc).1).symm.trans
    (before'.skipBlanks_cons (isBlank_of_shapeAt? hc').1)
  rw [← hsame] at stands'
  obtain ⟨hd, rfl⟩ := ha _ _ _ _ stands stands'
    (after.endsNumber ht.endsNumber) (after'.endsNumber ht'.endsNumber)
  have hrest := after.skipBlanks_eq.symm.trans after'.skipBlanks_eq
  rw [ht.skipBlanks_eq, ht'.skipBlanks_eq] at hrest
  exact ⟨hd, hrest⟩

theorem Document.Alone.pair {document other : Document} {name name' : String}
    (ha : document.Alone) (h : Pair name document.Stands s t) (h' : Pair name' other.Stands s t')
    (ht : Stops t) (ht' : Stops t') : (name, document) = (name', other) ∧ t = t' := by
  obtain ⟨u, v, w, before, key, colon, hp⟩ := h
  obtain ⟨u', v', w', before', key', colon', hp'⟩ := h'
  have hkey := (before.skipBlanks_cons rfl).symm.trans (before'.skipBlanks_cons rfl)
  obtain rfl := (List.cons.inj hkey).2
  obtain ⟨hname, rfl⟩ := (readContent_gives_spelled key).unique (readContent_gives_spelled key')
  have hcolon := (colon.skipBlanks_cons rfl).symm.trans (colon'.skipBlanks_cons rfl)
  obtain rfl := (List.cons.inj hcolon).2
  obtain ⟨rfl, rfl⟩ := ha.padded hp hp' ht ht'
  exact ⟨by rw [String.toList_inj.mp hname], rfl⟩

-- A list is not at its end where an element begins, nor an object where a member does.
theorem not_blanks_of_padded {document : Document} {u : List Char}
    (h : Padded document.Stands s u) (hb : Blanks s (']' :: t)) : False := by
  obtain ⟨v, w, before, stands, -⟩ := h
  obtain ⟨c, rest, rfl, hc⟩ := stands.exists_head
  obtain ⟨hblank, hclose⟩ := isBlank_of_shapeAt? hc
  have hsame := (before.skipBlanks_cons hblank).symm.trans (hb.skipBlanks_cons rfl)
  exact hclose (List.cons.inj hsame).1

theorem not_blanks_of_pair {name : String} {P : List Char → List Char → Prop} {u : List Char}
    (h : Pair name P s u) (hb : Blanks s ('\x7d' :: t)) : False := by
  obtain ⟨v, w, x, before, -⟩ := h
  have hsame := (before.skipBlanks_cons rfl).symm.trans (hb.skipBlanks_cons rfl)
  exact nomatch (List.cons.inj hsame).1

theorem Document.Stands.shape_eq {document other : Document} (h : document.Stands s t)
    (h' : other.Stands s t') : document.shape = other.shape := by
  obtain ⟨c, rest, rfl, hc⟩ := h.exists_head
  obtain ⟨c', rest', hs, hc'⟩ := h'.exists_head
  obtain ⟨rfl, -⟩ := List.cons.inj hs
  exact Option.some.inj (hc.symm.trans hc')

theorem Document.alone : ∀ document : Document, document.Alone
  | .null => by
      intro other s t t' h h' _ _
      have hshape := h.shape_eq h'
      cases other <;> cases hshape
      rw [Stands] at h h'
      cases h.symm.trans h'
      exact ⟨rfl, rfl⟩
  | .bool b => by
      intro other s t t' h h' _ _
      have hshape := h.shape_eq h'
      cases other <;> cases hshape
      cases b <;> rw [Stands] at h h' <;> cases h.symm.trans h' <;> exact ⟨rfl, rfl⟩
  | .number significand exponent => by
      intro other s t t' h h' ht ht'
      have hshape := h.shape_eq h'
      cases other <;> cases hshape
      rw [Stands] at h h'
      obtain ⟨⟨rfl, rfl⟩, rfl⟩ := h.unique h' ht ht'
      exact ⟨rfl, rfl⟩
  | .string text => by
      intro other s t t' h h' _ _
      have hshape := h.shape_eq h'
      cases other <;> cases hshape
      rw [Stands] at h h'
      obtain ⟨rfl, rfl⟩ := h.unique h'
      exact ⟨rfl, rfl⟩
  | .list elements => by
      intro other s t t' h h' _ _
      have hshape := h.shape_eq h'
      cases other <;> cases hshape
      obtain ⟨u, rfl, hl⟩ := stands_list.mp h
      obtain ⟨u', hu, hl'⟩ := stands_list.mp h'
      obtain ⟨-, rfl⟩ := List.cons.inj hu
      have hs : ∀ element ∈ elements, Single (fun element => Padded element.Stands) element :=
        fun element hm _ _ _ _ => (Document.alone element).padded
      obtain ⟨rfl, rfl⟩ := Enclosed.unique (.inl rfl) hs not_blanks_of_padded hl hl'
      exact ⟨rfl, rfl⟩
  | .object members => by
      intro other s t t' h h' _ _
      have hshape := h.shape_eq h'
      cases other <;> cases hshape
      obtain ⟨u, rfl, hl⟩ := stands_object.mp h
      obtain ⟨u', hu, hl'⟩ := stands_object.mp h'
      obtain ⟨-, rfl⟩ := List.cons.inj hu
      have hs : ∀ member ∈ members, Single (fun member => Pair member.1 member.2.Stands) member :=
        fun member hm _ _ _ _ => (Document.alone member.2).pair
      obtain ⟨rfl, rfl⟩ := Enclosed.unique (.inr rfl) hs not_blanks_of_pair hl hl'
      exact ⟨rfl, rfl⟩
termination_by document => document
decreasing_by
  · exact sizeOf_element_lt hm
  · exact sizeOf_member_lt hm

end Unique

section Texts

variable {document other : Document} {text : String} {s t : List Char}

-- A text says one document at most.
theorem document_unique (h : IsText document.Stands text) (h' : IsText other.Stands text) :
    document = other := by
  have hstops : Stops [] := nofun
  exact (document.alone.padded h h' hstops hstops).1

theorem Spelled.content {chars : List Char} (h : Spelled chars s t) : Content s t := by
  induction h with
  | quote s => exact .quote s
  | char first _ ih =>
      cases first with
      | plain plain => exact .plain plain ih
      | letter known => exact .letter known ih
      | unit unit => exact .unit unit ih
      | pair _ leading trailing => exact .unit leading (.unit trailing ih)

theorem NumberOf.derives {m e : Int} (h : NumberOf m e s t) : Derives .value s t := by
  cases h with
  | unsigned _ number => exact .number number
  | negative _ number => exact .negative number

theorem derives_elements {elements : List Document} {element : Document} {u : List Char}
    (hd : ∀ x ∈ elements ++ [element], ∀ s t, x.Stands s t → Derives .value s t)
    (h : Listed (fun element => Padded element.Stands) elements s t)
    (hl : Padded element.Stands t (']' :: u)) : Derives .elements s u := by
  induction h with
  | nil s =>
      obtain ⟨v, w, before, stands, after⟩ := hl
      exact .lastElement (.padded before (hd _ (.head _) v w stands) after)
  | cons first _ ih =>
      obtain ⟨hx, hrest⟩ := List.forall_mem_cons.mp hd
      obtain ⟨v, w, before, stands, after⟩ := first
      exact .nextElement (.padded before (hx v w stands) after) (ih hrest hl)

theorem Pair.derives {name : String} {u : List Char} (h : Pair name document.Stands s u)
    (hd : ∀ s t, document.Stands s t → Derives .value s t) : Derives .member s u := by
  obtain ⟨v, w, x, before, key, colon, y, z, before', stands, after⟩ := h
  exact .member before key.content colon (.padded before' (hd y z stands) after)

theorem derives_members {members : List (String × Document)} {member : String × Document}
    {u : List Char}
    (hd : ∀ x ∈ members ++ [member], ∀ s t, x.2.Stands s t → Derives .value s t)
    (h : Listed (fun member => Pair member.1 member.2.Stands) members s t)
    (hl : Pair member.1 member.2.Stands t ('\x7d' :: u)) : Derives .members s u := by
  induction h with
  | nil s => exact .lastMember (hl.derives (hd _ (.head _)))
  | cons first _ ih =>
      obtain ⟨hx, hrest⟩ := List.forall_mem_cons.mp hd
      exact .nextMember (first.derives hx) (ih hrest hl)

-- Where a document stands, the grammar derives a value.
theorem Document.derives : ∀ (document : Document) (s t : List Char),
    document.Stands s t → Derives .value s t
  | .null, s, t, h => by
      rw [Stands] at h
      obtain rfl := h
      exact @Derives.word ['n', 'u', 'l', 'l'] (by decide) t
  | .bool true, s, t, h => by
      rw [Stands] at h
      obtain rfl := h
      exact @Derives.word ['t', 'r', 'u', 'e'] (by decide) t
  | .bool false, s, t, h => by
      rw [Stands] at h
      obtain rfl := h
      exact @Derives.word ['f', 'a', 'l', 's', 'e'] (by decide) t
  | .number significand exponent, s, t, h => by
      rw [Stands] at h
      exact h.derives
  | .string text, s, t, h => by
      rw [Stands] at h
      obtain ⟨content, rfl, hspelled⟩ := h
      exact .string hspelled.content
  | .list elements, s, t, h => by
      obtain ⟨u, rfl, hl⟩ := stands_list.mp h
      have hd : ∀ element ∈ elements, ∀ s t, element.Stands s t → Derives .value s t :=
        fun element hm => element.derives
      cases hl with
      | empty blanks => exact .emptyList blanks
      | items first last => exact .list (derives_elements hd first last)
  | .object members, s, t, h => by
      obtain ⟨u, rfl, hl⟩ := stands_object.mp h
      have hd : ∀ member ∈ members, ∀ s t, member.2.Stands s t → Derives .value s t :=
        fun member hm => member.2.derives
      cases hl with
      | empty blanks => exact .emptyObject blanks
      | items first last => exact .object (derives_members hd first last)
termination_by document => document
decreasing_by
  · exact sizeOf_element_lt hm
  · exact sizeOf_member_lt hm

theorem isText_of_stands (h : IsText document.Stands text) : IsText (Derives .value) text := by
  obtain ⟨s, t, before, stands, after⟩ := h
  exact ⟨s, t, before, document.derives s t stands, after⟩

end Texts

end SyntaxHandles.Json
