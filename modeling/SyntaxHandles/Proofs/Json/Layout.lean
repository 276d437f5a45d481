import Mathlib.Data.List.Nodup
import SyntaxHandles.Proofs.Json.Skipping

-- The ways in which a record can be laid out in a text: as an object, with its settings in any
-- order and with members of other names among them, or as a row of its first settings. Each way is
-- read as the same record, and an object that gives a setting twice is refused.

namespace SyntaxHandles.Json

variable {α β σ ρ : Type}

-- How the settings of a record are written: under which name, with which texts as their value, and
-- for which change to the record.
structure Layout (σ ρ : Type) where
  fields : List (Field ρ)
  name : σ → String
  Writes : σ → List Char → List Char → Prop
  change : σ → ρ → ρ

-- What a member of an object is to the record.
inductive Entry (σ : Type)
  | setting (setting : σ)
  | other (name : String)

def Entry.setting? : Entry σ → Option σ
  | .setting a => some a
  | .other _ => none

def settings (entries : List (Entry σ)) : List σ :=
  entries.filterMap Entry.setting?

theorem settings_map_setting (given : List σ) : settings (given.map .setting) = given := by
  induction given with
  | nil => rfl
  | cons a given ih => exact congrArg (a :: ·) ih

-- A name and a value, with blanks around both.
def Pair (name : String) (P : List Char → List Char → Prop) (s w : List Char) : Prop :=
  ∃ t u v, Blanks s ('"' :: t) ∧ Spelled name.toList t u ∧ Blanks u (':' :: v) ∧ Padded P v w

namespace Layout

section Texts

variable (layout : Layout σ ρ)

def Member : Entry σ → List Char → List Char → Prop
  | .setting setting, s, t => Pair (layout.name setting) (layout.Writes setting) s t
  | .other name, s, t =>
    (∀ setting, layout.name setting ≠ name) ∧ Pair name (Derives .value) s t

def Object (entries : List (Entry σ)) (s u : List Char) : Prop :=
  ∃ t, s = '\x7b' :: t ∧ Enclosed '\x7d' layout.Member entries t u

def Row (given : List σ) (s u : List Char) : Prop :=
  ∃ t, s = '[' :: t ∧ Enclosed ']' (fun setting => Padded (layout.Writes setting)) given t u

-- A text in which the name of a setting comes again behind these members. What comes behind it may
-- be anything.
def Repeats (entries : List (Entry σ)) (text : String) : Prop :=
  ∃ setting ∈ settings entries, ∃ s t u v, Blanks text.toList ('\x7b' :: s) ∧
    Listed layout.Member entries s t ∧ Blanks t ('"' :: u) ∧
      Spelled (layout.name setting).toList u v

def ReadBy (field : Field ρ) (setting : σ) : Prop :=
  ∀ {start s t}, Blanks start s → layout.Writes setting s t → EndsNumber t →
    (field.read start).Gives (layout.change setting) t

-- Each setting belongs to the field that is found under its name. Settings of different fields do
-- not touch each other.
structure Lawful : Prop where
  reads : ∀ setting, ∃ field,
    layout.fields.find? (·.name == layout.name setting) = some field ∧ layout.ReadBy field setting
  known : ∀ field ∈ layout.fields, ∃ setting, layout.name setting = field.name
  begins : ∀ {setting s t}, layout.Writes setting s t →
    ∃ c rest, s = c :: rest ∧ isBlank c = false ∧ c ≠ ']'
  commute : ∀ {a b}, layout.name a ≠ layout.name b → ∀ record,
    layout.change a (layout.change b record) = layout.change b (layout.change a record)

def names (entries : List (Entry σ)) : List String :=
  (settings entries).map layout.name

def applyAll (given : List σ) (record : ρ) : ρ :=
  given.foldl (fun record setting => layout.change setting record) record

end Texts

end Layout

section Places

variable {isFirst : Bool} {s t u rest : List Char} {c : Char}

-- Where the text of the next item begins, as seen from behind the one before it.
def NextIs (isFirst : Bool) (s t : List Char) : Prop :=
  if isFirst then s = t else Blanks s (',' :: t)

theorem nextKey_of_nextIs (hn : NextIs isFirst s t) (hb : Blanks t ('"' :: u)) :
    ∃ shorter, nextKey isFirst s = .ok (.key u shorter) := by
  cases isFirst with
  | true =>
      obtain rfl : s = t := hn
      exact nextKey_first (hb.skipBlanks_cons rfl)
  | false =>
      have hcomma : Blanks s (',' :: t) := hn
      exact nextKey_next (hcomma.skipBlanks_cons rfl) (hb.skipBlanks_cons rfl)

theorem nextElement_of_nextIs (hn : NextIs isFirst s t) (hb : skipBlanks t = c :: rest)
    (hc : c ≠ ']') : ∃ shorter, nextElement isFirst s = .ok (.element t shorter) := by
  cases isFirst with
  | true =>
      obtain rfl : s = t := hn
      exact nextElement_first hb hc
  | false =>
      have hcomma : Blanks s (',' :: t) := hn
      exact nextElement_next (hcomma.skipBlanks_cons rfl) hb hc

end Places

section Lists

variable {element : Reader α} {P : α → List Char → List Char → Prop} {as : List α} {a : α}
  {isFirst : Bool} {s t u v : List Char}

-- A reader that takes off what is written for a value, and does not mind blanks before it.
structure ReadsWritten (element : Reader α) (P : α → List Char → List Char → Prop) : Prop where
  reads : ∀ {a start s t}, Blanks start s → P a s t → EndsNumber t → (element start).Gives a t
  begins : ∀ {a s t}, P a s t → ∃ c rest, s = c :: rest ∧ isBlank c = false ∧ c ≠ ']'

theorem ReadsWritten.element_gives (h : ReadsWritten element P) (hn : NextIs isFirst s t)
    (ha : Padded (P a) t u) (he : EndsNumber u) :
    (∃ shorter, nextElement isFirst s = .ok (.element t shorter)) ∧
      ∃ rest, Blanks rest u ∧ (element t).Gives a rest := by
  obtain ⟨value, rest, before, hwritten, after⟩ := ha
  obtain ⟨c, tail, rfl, hblank, hc⟩ := h.begins hwritten
  exact ⟨nextElement_of_nextIs hn (before.skipBlanks_cons hblank) hc, rest, after,
    h.reads before hwritten (after.endsNumber he)⟩

theorem ReadsWritten.readElements_gives (h : ReadsWritten element P) (hn : NextIs isFirst s t)
    (hl : Listed (fun a => Padded (P a)) as t u) (ha : Padded (P a) u (']' :: v)) :
    (readElements element isFirst s).Gives (as ++ [a]) v := by
  induction hl generalizing isFirst s with
  | nil =>
      obtain ⟨hnext, rest, hb, hv⟩ := h.element_gives hn ha (endsNumber_cons (.inr (.inl rfl)) _)
      exact Json.readElements_gives hnext hv
        (readElements_gives_end element false (hb.skipBlanks_cons rfl))
  | cons first _ ih =>
      obtain ⟨hnext, rest, hb, hv⟩ := h.element_gives hn first (endsNumber_cons (.inl rfl) _)
      have hrest : NextIs false rest _ := hb
      exact Json.readElements_gives hnext hv (ih hrest ha)

theorem ReadsWritten.readList_gives {start : List Char} (h : ReadsWritten element P)
    (hb : Blanks start ('[' :: s)) (hs : Enclosed ']' (fun a => Padded (P a)) as s t) :
    (readList element start).Gives as t := by
  refine Json.readList_gives (hb.skipBlanks_cons rfl) ?_
  cases hs with
  | empty blanks => exact readElements_gives_end element true (blanks.skipBlanks_cons rfl)
  | items first last =>
      have hn : NextIs true s s := rfl
      exact h.readElements_gives hn first last

end Lists

section Positions

variable {isFirst : Bool} {s start rest after : List Char} {record result : ρ}
  {field : Field ρ} {fields : List (Field ρ)} {change : ρ → ρ}

theorem closeList_gives (hb : skipBlanks s = ']' :: rest) : (closeList s).Gives () rest := by
  unfold closeList
  split
  · next hn => cases hb.symm.trans hn
  · next hd =>
    obtain ⟨rfl, rfl⟩ := List.cons.inj (hb.symm.trans hd)
    exact ⟨length_lt_of_skipBlanks hb, rfl⟩

-- The last fields may be missing.
theorem readPositional_gives_end (fields : List (Field ρ)) (isFirst : Bool) (record : ρ)
    (hb : skipBlanks s = ']' :: rest) :
    (readPositional fields isFirst record s).Gives record rest := by
  cases fields with
  | nil =>
      rw [readPositional]
      exact (closeList_gives hb).map fun () => record
  | cons field fields =>
      obtain ⟨shorter, h⟩ := nextElement_finish isFirst hb
      rw [readPositional]
      simp only [h]
      exact ⟨shorter, rfl⟩

theorem readPositional_gives
    (hn : ∃ shorter, nextElement isFirst s = .ok (.element start shorter))
    (hv : (field.read start).Gives change rest)
    (hr : (readPositional fields false (change record) rest).Gives result after) :
    (readPositional (field :: fields) isFirst record s).Gives result after := by
  obtain ⟨_, hn⟩ := hn
  obtain ⟨_, hv⟩ := hv
  rw [readPositional]
  simp only [hn, hv]
  exact hr.within _

theorem readRecord_gives_row {name : String} {defaults : ρ} (hb : skipBlanks s = '[' :: rest)
    (h : (readPositional fields true defaults rest).Gives record after) :
    (readRecord name fields defaults s).Gives record after := by
  unfold readRecord
  split
  · next hn => cases hb.symm.trans hn
  · next hd =>
    obtain ⟨rfl, rfl⟩ := List.cons.inj (hb.symm.trans hd)
    exact h.within _

end Positions

namespace Layout

variable {layout : Layout σ ρ} {isFirst : Bool} {seen : List String} {record defaults : ρ}
  {entry : Entry σ} {entries : List (Entry σ)} {given : List σ}
  {s t u v w : List Char} {name : String} {text : String}

section Rows

theorem readPositional_setting (lawful : layout.Lawful) {setting : σ} {field : Field ρ}
    {fields : List (Field ρ)} {result : ρ} (hn : NextIs isFirst s t)
    (ha : Padded (layout.Writes setting) t u) (he : EndsNumber u)
    (hf : layout.ReadBy field setting)
    (hr : ∀ rest, Blanks rest u →
      (readPositional fields false (layout.change setting record) rest).Gives result v) :
    (readPositional (field :: fields) isFirst record s).Gives result v := by
  obtain ⟨value, rest, before, hwritten, after⟩ := ha
  obtain ⟨c, tail, rfl, hblank, hc⟩ := lawful.begins hwritten
  have hnext := nextElement_of_nextIs hn (before.skipBlanks_cons hblank) hc
  exact readPositional_gives hnext (hf before hwritten (after.endsNumber he)) (hr rest after)

-- The fields that the row does not reach are left as they are.
theorem readPositional_gives_listed (lawful : layout.Lawful) {setting : σ}
    {used left : List (Field ρ)} (hn : NextIs isFirst s t)
    (hl : Listed (fun setting => Padded (layout.Writes setting)) given t u)
    (ha : Padded (layout.Writes setting) u (']' :: v))
    (hu : List.Forall₂ layout.ReadBy used (given ++ [setting])) :
    (readPositional (used ++ left) isFirst record s).Gives
      (layout.applyAll (given ++ [setting]) record) v := by
  induction hl generalizing isFirst s record used with
  | nil =>
      obtain _ | ⟨hread, hnone⟩ := hu
      cases hnone
      refine readPositional_setting lawful hn ha (endsNumber_cons (.inr (.inl rfl)) v) hread ?_
      intro rest hb
      exact readPositional_gives_end left false _ (hb.skipBlanks_cons rfl)
  | cons first _ ih =>
      obtain _ | ⟨hread, hmore⟩ := hu
      refine readPositional_setting lawful hn first (endsNumber_cons (.inl rfl) _) hread ?_
      intro rest hb
      have hrest : NextIs false rest _ := hb
      exact ih hrest ha hmore

theorem readRecord_row (lawful : layout.Lawful) {used left : List (Field ρ)}
    (hf : layout.fields = used ++ left) (hu : List.Forall₂ layout.ReadBy used given)
    (hb : Blanks s t) (ht : layout.Row given t u) :
    (readRecord name layout.fields defaults s).Gives (layout.applyAll given defaults) u := by
  obtain ⟨t, rfl, hrow⟩ := ht
  refine readRecord_gives_row (hb.skipBlanks_cons rfl) ?_
  rw [hf]
  cases hrow with
  | empty blanks =>
      exact readPositional_gives_end _ true defaults (blanks.skipBlanks_cons rfl)
  | items first last =>
      have hn : NextIs true t t := rfl
      exact readPositional_gives_listed lawful hn first last hu

-- In a row of two fields the second one may be missing, and the first one if the second one is.
theorem exists_used {first second : Field ρ} (hfields : layout.fields = [first, second])
    {f : α → σ} {g : β → σ} (hf : ∀ value, layout.ReadBy first (f value))
    (hg : ∀ value, layout.ReadBy second (g value)) {a : Option α} {b : Option β}
    (hlast : a = none → b = none) :
    ∃ used left, layout.fields = used ++ left ∧
      List.Forall₂ layout.ReadBy used ((a.map f).toList ++ (b.map g).toList) := by
  cases a with
  | none =>
      obtain rfl := hlast rfl
      exact ⟨[], layout.fields, rfl, .nil⟩
  | some a =>
      cases b with
      | none => exact ⟨[first], [second], hfields, .cons (hf a) .nil⟩
      | some b => exact ⟨[first, second], [], hfields, .cons (hf a) (.cons (hg b) .nil)⟩

end Rows

section Objects

theorem names_cons (entry : Entry σ) (entries : List (Entry σ)) :
    layout.names (entry :: entries) = layout.names [entry] ++ layout.names entries := by
  cases entry <;> rfl

theorem applyAll_cons (entry : Entry σ) (entries : List (Entry σ)) (record : ρ) :
    layout.applyAll (settings (entry :: entries)) record =
      layout.applyAll (settings entries) (layout.applyAll (settings [entry]) record) := by
  cases entry <;> rfl

-- One member is read as its change, and its name counts as seen from there on.
theorem readMembers_member (lawful : layout.Lawful) (record : ρ) (hn : NextIs isFirst s t)
    (hm : layout.Member entry t u) (he : EndsNumber u)
    (unseen : ∀ name ∈ layout.names [entry], name ∉ seen) :
    ∃ rest, Blanks rest u ∧ ∃ hle, readMembers layout.fields isFirst seen record s =
      (readMembers layout.fields false (layout.names [entry] ++ seen)
        (layout.applyAll (settings [entry]) record) rest).within hle := by
  cases entry with
  | setting setting =>
      obtain ⟨_, _, _, before, hname, after, value, rest, padding, hwritten, hrest⟩ := hm
      obtain ⟨field, hf, hread⟩ := lawful.reads setting
      have hkey := readContent_gives_spelled hname
      have hstring : String.ofList (layout.name setting).toList = layout.name setting :=
        String.ofList_toList
      have hunseen := unseen (layout.name setting) List.mem_cons_self
      rw [← hstring] at hf hunseen
      have hstep := readMembers_known record (nextKey_of_nextIs hn before) hkey
        (after.skipBlanks_cons rfl) hf hunseen (hread padding hwritten (hrest.endsNumber he))
      rw [hstring] at hstep
      exact ⟨rest, hrest, hstep⟩
  | other name =>
      obtain ⟨hother, _, _, _, before, hname, after, value, rest, padding, hvalue, hrest⟩ := hm
      have hf : layout.fields.find? (·.name == String.ofList name.toList) = none := by
        rw [String.ofList_toList, List.find?_eq_none]
        intro field hmem hfound
        obtain ⟨setting, hsetting⟩ := lawful.known field hmem
        exact hother setting (hsetting.trans (beq_iff_eq.mp hfound))
      exact ⟨rest, hrest, readMembers_other record (nextKey_of_nextIs hn before)
        (readContent_gives_spelled hname) (after.skipBlanks_cons rfl) hf
        (skipValue_gives padding hvalue (hrest.endsNumber he))⟩

theorem readMembers_gives_listed (lawful : layout.Lawful) (hn : NextIs isFirst s t)
    (hl : Listed layout.Member entries t u) (ha : layout.Member entry u ('\x7d' :: v))
    (distinct : (layout.names (entries ++ [entry]) ++ seen).Nodup) :
    (readMembers layout.fields isFirst seen record s).Gives
      (layout.applyAll (settings (entries ++ [entry])) record) v := by
  induction hl generalizing isFirst s record seen with
  | nil =>
      have hfresh : ∀ name ∈ layout.names [entry], name ∉ seen := fun name hname hin =>
        (List.nodup_append.mp distinct).2.2 name hname name hin rfl
      obtain ⟨rest, hb, hle, h⟩ := readMembers_member lawful record hn ha
        (endsNumber_cons (.inr (.inr rfl)) v) hfresh
      rw [h]
      exact (readMembers_gives_end _ false _ _ (hb.skipBlanks_cons rfl)).within hle
  | @cons first entries _ _ _ hfirst _ ih =>
      rw [List.cons_append, names_cons, List.append_assoc] at distinct
      have hfresh : ∀ name ∈ layout.names [first], name ∉ seen := fun name hname hin =>
        (List.nodup_append.mp distinct).2.2 name hname name (List.mem_append_right _ hin) rfl
      obtain ⟨rest, hb, hle, h⟩ := readMembers_member lawful record hn hfirst
        (endsNumber_cons (.inl rfl) _) hfresh
      have hrest : NextIs false rest _ := hb
      have hperm := List.perm_append_comm_assoc (layout.names [first])
        (layout.names (entries ++ [entry])) seen
      rw [List.cons_append, applyAll_cons first (entries ++ [entry]), h]
      exact (ih hrest ha (hperm.nodup_iff.mp distinct)).within hle

theorem readRecord_object (lawful : layout.Lawful) (hb : Blanks s t)
    (ht : layout.Object entries t u) (distinct : (layout.names entries).Nodup) :
    (readRecord name layout.fields defaults s).Gives (layout.applyAll (settings entries) defaults)
      u := by
  obtain ⟨t, rfl, hentries⟩ := ht
  refine readRecord_gives (hb.skipBlanks_cons rfl) ?_
  cases hentries with
  | empty blanks =>
      exact readMembers_gives_end _ true [] defaults (blanks.skipBlanks_cons rfl)
  | items first last =>
      have hn : NextIs true t t := rfl
      rw [← List.append_nil (layout.names _)] at distinct
      exact readMembers_gives_listed lawful hn first last distinct

theorem exists_repeated (name : String) (afterKey : List Char) :
    ∃ unread, repeated name afterKey = .at (.duplicateField name) unread := by
  unfold repeated
  split <;> exact ⟨_, rfl⟩

theorem readMembers_again (lawful : layout.Lawful) {setting : σ} (hn : NextIs isFirst s t)
    (hb : Blanks t ('"' :: u)) (hk : Spelled (layout.name setting).toList u v)
    (hs : layout.name setting ∈ seen) :
    ∃ unread, readMembers layout.fields isFirst seen record s =
      .error (.at (.duplicateField (layout.name setting)) unread) := by
  obtain ⟨field, hf, -⟩ := lawful.reads setting
  obtain ⟨unread, hunread⟩ := exists_repeated (layout.name setting) v
  have hstring : String.ofList (layout.name setting).toList = layout.name setting :=
    String.ofList_toList
  rw [← hstring] at hf hs
  have h := readMembers_repeated record (nextKey_of_nextIs hn hb)
    (readContent_gives_spelled hk) hf hs
  rw [hstring, hunread] at h
  exact ⟨unread, h⟩

theorem readRecord_error {failure : Failure} (hb : skipBlanks s = '\x7b' :: t)
    (h : readMembers layout.fields true [] defaults t = .error failure) :
    readRecord name layout.fields defaults s = .error failure := by
  unfold readRecord
  split
  · next hn => cases hb.symm.trans hn
  · next hd =>
    obtain ⟨rfl, rfl⟩ := List.cons.inj (hb.symm.trans hd)
    exact congrArg (Attempt.within · _) h

-- However far apart the two members stand, the second one is refused.
theorem readMembers_repeats (lawful : layout.Lawful) {setting : σ} (hn : NextIs isFirst s t)
    (hl : Listed layout.Member entries t u) (hb : Blanks u ('"' :: v))
    (hk : Spelled (layout.name setting).toList v w)
    (hs : layout.name setting ∈ layout.names entries ++ seen) :
    ∃ again unread, readMembers layout.fields isFirst seen record s =
      .error (.at (.duplicateField (layout.name again)) unread) := by
  induction hl generalizing isFirst s record seen with
  | nil => exact ⟨setting, readMembers_again lawful hn hb hk hs⟩
  | @cons first entries _ _ _ hfirst _ ih =>
      by_cases hfresh : ∀ name ∈ layout.names [first], name ∉ seen
      · obtain ⟨rest, hafter, hle, h⟩ := readMembers_member lawful record hn hfirst
          (endsNumber_cons (.inl rfl) _) hfresh
        have hrest : NextIs false rest _ := hafter
        have hlater : layout.name setting ∈
            layout.names entries ++ (layout.names [first] ++ seen) := by
          rw [names_cons] at hs
          simp only [List.mem_append] at hs ⊢
          tauto
        obtain ⟨again, unread, hagain⟩ := ih hrest hb hlater
        exact ⟨again, unread, by rw [h, hagain]; rfl⟩
      · cases first with
        | other name => exact absurd nofun hfresh
        | setting earlier =>
            obtain ⟨_, _, _, before, hname, -⟩ := hfirst
            have hseen : layout.name earlier ∈ seen := by
              by_contra hne
              exact hfresh (List.forall_mem_singleton.mpr hne)
            exact ⟨earlier, readMembers_again lawful hn before hname hseen⟩

end Objects

section Whole

-- Settings with names of their own can be made in any order.
theorem applyAll_perm (lawful : layout.Lawful) {other : List σ} (hp : given.Perm other)
    (distinct : (given.map layout.name).Nodup) (record : ρ) :
    layout.applyAll given record = layout.applyAll other record := by
  refine hp.foldl_eq' ?_ record
  intro a ha b hb record
  by_cases hname : layout.name a = layout.name b
  · rw [List.inj_on_of_nodup_map distinct ha hb hname]
  · exact (lawful.commute hname record).symm

theorem readText_object (lawful : layout.Lawful) (hp : (settings entries).Perm given)
    (distinct : (given.map layout.name).Nodup) (ht : IsText (layout.Object entries) text) :
    readText (readRecord name layout.fields defaults) text =
      .ok (layout.applyAll given defaults) := by
  obtain ⟨s, t, before, hobject, after⟩ := ht
  have hnames : (layout.names entries).Nodup := (hp.map layout.name).nodup_iff.mpr distinct
  refine readText_eq ?_ after.skipBlanks_eq
  rw [← applyAll_perm lawful hp hnames]
  exact readRecord_object lawful before hobject hnames

theorem readText_row (lawful : layout.Lawful) {used left : List (Field ρ)}
    (hf : layout.fields = used ++ left) (hu : List.Forall₂ layout.ReadBy used given)
    (ht : IsText (layout.Row given) text) :
    readText (readRecord name layout.fields defaults) text =
      .ok (layout.applyAll given defaults) := by
  obtain ⟨s, t, before, hrow, after⟩ := ht
  exact readText_eq (readRecord_row lawful hf hu before hrow) after.skipBlanks_eq

theorem readText_repeats (lawful : layout.Lawful) (ht : layout.Repeats entries text) :
    ∃ setting unread, readText (readRecord name layout.fields defaults) text =
      .error ((Failure.at (.duplicateField (layout.name setting)) unread).message text.toList) := by
  obtain ⟨setting, hmem, s, t, u, v, before, hentries, hb, hk⟩ := ht
  have hn : NextIs true s s := rfl
  have hs : layout.name setting ∈ layout.names entries ++ [] :=
    List.mem_append_left [] (List.mem_map_of_mem hmem)
  obtain ⟨again, unread, h⟩ : ∃ again unread,
      readMembers layout.fields true [] defaults s =
        .error (.at (.duplicateField (layout.name again)) unread) :=
    readMembers_repeats lawful hn hentries hb hk hs
  have hrecord : readRecord name layout.fields defaults text.toList = .error _ :=
    readRecord_error (before.skipBlanks_cons rfl) h
  exact ⟨again, unread, by simp only [readText, hrecord]⟩

end Whole

end Layout

end SyntaxHandles.Json
