import SyntaxHandles.Thread
import SyntaxHandles.Proofs.Native.Order
import Mathlib.Data.List.Nodup

-- What the log of the native library says about the resources that are held: they are what is
-- alive, and an index is shared by as many as hold it.

namespace SyntaxHandles

namespace Resource

-- Whether a resource holds an index: its own, or the one that it was parsed with.
def holds (index : Nat) : Resource → Bool
  | .index n => n = index
  | .unit _ _ n => n = index

def unitNumber? : Resource → Option Nat
  | .index _ => none
  | .unit parsed _ _ => some parsed.number

end Resource

namespace Native

-- What a unit consists of, as far as the library hands it out.
inductive Subject
  | node (raw : Cursor)
  | type (raw : TypeValue)

-- Calls that only ask about a unit, and about nothing in it but one subject.
def Call.About (unit : Option Nat) (subject : Option Subject) : Call → Prop
  | rootCursor n => unit = some n
  | children raw u | askCursor _ raw u | fileName raw u => u = unit ∧ subject = some (.node raw)
  | askType _ raw u => u = unit ∧ subject = some (.type raw)
  | _ => False

theorem Call.About.quiet {unit : Option Nat} {subject : Option Subject} {call : Call}
    (h : call.About unit subject) : call.Quiet := by
  cases call <;> trivial

theorem Call.About.allowed {unit : Nat} {subject : Option Subject} {call : Call} {log : List Call}
    (h : call.About (some unit) subject) (hu : UnitAlive log unit) : call.Allowed log := by
  cases call with
  | rootCursor n =>
      obtain rfl := Option.some.inj h
      exact hu
  | children | askCursor | askType | fileName => exact ⟨unit, h.1, hu⟩
  | _ => exact h.elim

namespace State

-- What the release of a resource changes.
def release (state : State) : Resource → State
  | .index index => state.unshare index
  | .unit parsed _ index => (state.note (.disposeUnit parsed.number)).unshare index

-- A new index, held once.
def makeIndex (state : State) (exclude display : Bool) : State :=
  (({ state with indices := state.indices + 1 } : State).note
    (.createIndex exclude display (some (state.indices + 1)))).share (state.indices + 1)

-- A new unit, made with an index.
def makeUnit (state : State) (index : Nat) (filename : String) (args : Option (List String))
    (count : Int32) (flags : UInt32) (code : Int32) : State :=
  ({ state with units := state.units + 1 } : State).note
    (.parse index filename args count flags (some (state.units + 1)) code)

-- A string is read once, at once, and given back.
def useString (state : State) : State :=
  let string := state.strings
  (((({ state with strings := string + 1 } : State).note (.makeString string)).note
    (.readString string)).note (.disposeString string))

-- The library is asked about a unit, and strings that it answers with are read.
inductive Asks (unit : Option Nat) (subject : Option Subject) (before : State) : State → Prop
  | nothing : Asks unit subject before before
  | call {call : Call} {state : State} (about : call.About unit subject)
      (asks : Asks unit subject before state) : Asks unit subject before (state.note call)
  | string {state : State} (asks : Asks unit subject before state) :
      Asks unit subject before state.useString

section Growth

variable (state : State)

@[simp] theorem share_units (index : Nat) : (state.share index).units = state.units := rfl

@[simp] theorem share_log (index : Nat) : (state.share index).log = state.log := rfl

theorem note_log_suffix (call : Call) : state.log <:+ (state.note call).log :=
  List.suffix_cons call state.log

theorem unshare_log_suffix (index : Nat) : state.log <:+ (state.unshare index).log := by
  simp only [unshare]
  split
  · exact List.suffix_cons ..
  · exact List.suffix_rfl

theorem release_log_suffix (resource : Resource) : state.log <:+ (state.release resource).log := by
  cases resource with
  | index index => exact state.unshare_log_suffix index
  | unit parsed filename index =>
      exact (state.note_log_suffix _).trans (unshare_log_suffix _ index)

theorem disposeUnit_mem_release {resource : Resource} {unit : Nat}
    (hu : resource.unitNumber? = some unit) : .disposeUnit unit ∈ (state.release resource).log := by
  cases resource with
  | index index => simp [Resource.unitNumber?] at hu
  | unit parsed filename index =>
      obtain rfl := Option.some.inj hu
      exact ((state.note (.disposeUnit _)).unshare_log_suffix index).mem (.head _)

theorem Asks.log_suffix {unit : Option Nat} {subject : Option Subject} {after : State}
    (h : state.Asks unit subject after) : state.log <:+ after.log := by
  induction h with
  | nothing => exact List.suffix_rfl
  | call _ _ ih => exact ih.trans (note_log_suffix _ _)
  | string _ ih => exact ih.trans ⟨[_, _, _], rfl⟩

theorem makeIndex_log_suffix (exclude display : Bool) :
    state.log <:+ (state.makeIndex exclude display).log :=
  ⟨[_], rfl⟩

theorem makeUnit_log_suffix (index : Nat) (filename : String) (args : Option (List String))
    (count : Int32) (flags : UInt32) (code : Int32) :
    state.log <:+ (state.makeUnit index filename args count flags code).log :=
  ⟨[_], rfl⟩

end Growth

-- A parse that is under way holds its index like one more handle of it.
structure Accounts (state : State) (held : List Resource) : Prop where
  orderly : Orderly state.log
  shares : ∀ index, state.shares index = held.countP (Resource.holds index)
  indices : ∀ index, IndexMade state.log index → index ≤ state.indices
  units : ∀ unit index, UnitMade state.log unit index → unit ≤ state.units
  strings : ∀ string, .makeString string ∈ state.log →
    string < state.strings ∧ .disposeString string ∈ state.log
  indexAlive : ∀ index, IndexAlive state.log index ↔ 0 < state.shares index
  unitAlive : ∀ unit, UnitAlive state.log unit ↔ unit ∈ held.filterMap Resource.unitNumber?
  parsed : ∀ parsed filename index, .unit parsed filename index ∈ held →
    UnitMade state.log parsed.number index
  distinct : (held.filterMap Resource.unitNumber?).Nodup

namespace Accounts

variable {state : State} {held : List Resource}

theorem empty : Accounts {} [] where
  orderly := trivial
  shares _ := rfl
  indices _ h := by obtain ⟨_, _, h⟩ := h; cases h
  units _ _ h := by obtain ⟨_, _, _, _, _, h⟩ := h; cases h
  strings _ h := nomatch h
  indexAlive _ := by simp [IndexAlive, IndexMade]
  unitAlive _ := by simp [UnitAlive, UnitMade]
  parsed _ _ _ h := nomatch h
  distinct := List.nodup_nil

theorem perm {held' : List Resource} (h : Accounts state held) (hp : held.Perm held') :
    Accounts state held' where
  orderly := h.orderly
  shares index := (h.shares index).trans (hp.countP_eq _)
  indices := h.indices
  units := h.units
  strings := h.strings
  indexAlive := h.indexAlive
  unitAlive unit := (h.unitAlive unit).trans (hp.filterMap _).mem_iff
  parsed p f i hm := h.parsed p f i (hp.mem_iff.mpr hm)
  distinct := (hp.filterMap _).nodup_iff.mp h.distinct

theorem indexAlive_of_mem (h : Accounts state held) {resource : Resource} (hm : resource ∈ held)
    {index : Nat} (hi : resource.holds index = true) : IndexAlive state.log index := by
  rw [h.indexAlive, h.shares]
  exact List.countP_pos_iff.mpr ⟨resource, hm, hi⟩

theorem unitAlive_of_mem (h : Accounts state held) {parsed : ParsedUnit} {filename : String}
    {index : Nat} (hm : .unit parsed filename index ∈ held) : UnitAlive state.log parsed.number :=
  (h.unitAlive parsed.number).mpr (List.mem_filterMap.mpr ⟨_, hm, rfl⟩)

theorem note (h : Accounts state held) {call : Call} (ha : call.Allowed state.log)
    (hq : call.Quiet) : Accounts (state.note call) held where
  orderly := ⟨ha, h.orderly⟩
  shares := h.shares
  indices index hm := h.indices index (hq.indexMade_iff.mp hm)
  units unit index hm := h.units unit index (hq.unitMade_iff.mp hm)
  strings string hm :=
    have hs := h.strings string ((hq.mem_iff (by simp [Call.Quiet])).mp hm)
    ⟨hs.1, .tail _ hs.2⟩
  indexAlive index := by
    rw [IndexAlive, State.note, hq.indexMade_iff, hq.mem_iff (by simp [Call.Quiet])]
    exact h.indexAlive index
  unitAlive unit := by
    rw [UnitAlive, State.note, hq.mem_iff (by simp [Call.Quiet]), ← h.unitAlive, UnitAlive]
    simp only [hq.unitMade_iff]
  parsed p f i hm := hq.unitMade_iff.mpr (h.parsed p f i hm)
  distinct := h.distinct

theorem useString (h : Accounts state held) : Accounts state.useString held where
  orderly := by
    have hnew : Call.makeString state.strings ∉ state.log := fun hm =>
      Nat.lt_irrefl _ (h.strings _ hm).1
    have hnot : Call.disposeString state.strings ∉ state.log := fun hm =>
      hnew (h.orderly.stringMade_of_disposed hm)
    have hmade : StringAlive (.makeString state.strings :: state.log) state.strings :=
      ⟨.head _, by simpa using hnot⟩
    have hread : StringAlive (.readString state.strings :: .makeString state.strings :: state.log)
        state.strings := ⟨.tail _ (.head _), by simpa using hnot⟩
    exact ⟨hread, hmade, hnew, h.orderly⟩
  shares := h.shares
  indices index hm := h.indices index (by simpa [State.useString, State.note, IndexMade] using hm)
  units unit index hm :=
    h.units unit index (by simpa [State.useString, State.note, UnitMade] using hm)
  strings string hm := by
    simp only [State.useString, State.note, List.mem_cons, reduceCtorEq, Call.makeString.injEq,
      false_or] at hm ⊢
    rcases hm with rfl | hm
    · exact ⟨Nat.lt_succ_self _, .inl rfl⟩
    · exact ⟨Nat.lt_succ_of_lt (h.strings string hm).1, .inr (h.strings string hm).2⟩
  indexAlive index := by
    simpa [State.useString, State.note, IndexAlive, IndexMade] using h.indexAlive index
  unitAlive unit := by
    simpa [State.useString, State.note, UnitAlive, UnitMade] using h.unitAlive unit
  parsed p f i hm := by
    simpa [State.useString, State.note, UnitMade] using h.parsed p f i hm
  distinct := h.distinct

theorem asks {after : State} (h : Accounts state held) {unit : Nat} {subject : Option Subject}
    (hu : unit ∈ held.filterMap Resource.unitNumber?)
    (asks : state.Asks (some unit) subject after) : Accounts after held := by
  induction asks with
  | nothing => exact h
  | call about _ ih => exact ih.note (about.allowed ((ih.unitAlive unit).mpr hu)) about.quiet
  | string _ ih => exact ih.useString

-- An index is made with one handle of it.
theorem create (h : Accounts state held) (exclude display : Bool) :
    Accounts (state.makeIndex exclude display) (.index (state.indices + 1) :: held) where
  orderly := by
    refine ⟨fun n hn hm => ?_, h.orderly⟩
    obtain rfl := Option.some.inj hn
    exact absurd (h.indices _ hm) (by omega)
  shares index := by
    simp only [State.makeIndex, State.share, State.note, List.countP_cons, Resource.holds,
      decide_eq_true_eq, h.shares]
    by_cases hi : index = state.indices + 1
    · simp [hi]
    · simp [hi, Ne.symm hi]
  indices index hm := by
    obtain ⟨e, d, hm⟩ := hm
    rcases List.mem_cons.mp hm with he | hm
    · injection he with _ _ he
      injection he with he
      exact Nat.le_of_eq he
    · exact Nat.le_succ_of_le (h.indices index ⟨e, d, hm⟩)
  units unit index hm :=
    h.units unit index (by simpa [State.makeIndex, State.share, State.note, UnitMade] using hm)
  strings string hm := by
    have hs := h.strings string (by simpa [State.makeIndex, State.share, State.note] using hm)
    simpa [State.makeIndex, State.share, State.note] using hs
  indexAlive index := by
    have hs := h.indexAlive index
    by_cases hi : index = state.indices + 1
    · have hnot : Call.disposeIndex index ∉ state.log := fun hm => by
        have := h.indices index (h.orderly.indexMade_of_disposed hm)
        omega
      subst hi
      exact iff_of_true
        ⟨⟨exclude, display, .head _⟩,
          by simpa [State.makeIndex, State.share, State.note] using hnot⟩
        (by simp [State.makeIndex, State.share])
    · simpa [State.makeIndex, State.share, State.note, IndexAlive, IndexMade, hi] using hs
  unitAlive unit := by
    simpa [State.makeIndex, State.share, State.note, UnitAlive, UnitMade, Resource.unitNumber?]
      using h.unitAlive unit
  parsed p f i hm := by
    have hm : Resource.unit p f i ∈ held := by simpa using hm
    simpa [State.makeIndex, State.share, State.note, UnitMade] using h.parsed p f i hm
  distinct := h.distinct

theorem share (h : Accounts state held) {index : Nat} (hi : IndexAlive state.log index) :
    Accounts (state.share index) (.index index :: held) where
  orderly := h.orderly
  shares other := by
    simp only [State.share, List.countP_cons, Resource.holds, decide_eq_true_eq, h.shares]
    by_cases ho : other = index
    · simp [ho]
    · simp [ho, Ne.symm ho]
  indices := h.indices
  units := h.units
  strings := h.strings
  indexAlive other := by
    have hs := h.indexAlive other
    by_cases ho : other = index
    · simpa [State.share, ho] using hi
    · simpa [State.share, ho] using hs
  unitAlive := h.unitAlive
  parsed p f i hm := h.parsed p f i (by simpa using hm)
  distinct := h.distinct

-- A unit takes over the share of the parse that makes it.
theorem parse {index : Nat} (h : Accounts state (.index index :: held)) (root : Cursor)
    (filename : String) (args : Option (List String)) (count : Int32) (flags : UInt32)
    (code : Int32) :
    Accounts (state.makeUnit index filename args count flags code)
      (.unit ⟨state.units + 1, root⟩ filename index :: held) where
  orderly := by
    refine ⟨⟨h.indexAlive_of_mem (.head _) (by simp [Resource.holds]), fun n hn i hm => ?_⟩,
      h.orderly⟩
    obtain rfl := Option.some.inj hn
    exact absurd (h.units _ _ hm) (by omega)
  shares other := by
    rw [List.countP_cons]
    exact (h.shares other).trans (List.countP_cons ..)
  indices other hm := h.indices other (by simpa [State.makeUnit, State.note, IndexMade] using hm)
  units unit i hm := by
    obtain ⟨f, a, n, g, c, hm⟩ := hm
    rcases List.mem_cons.mp hm with he | hm
    · injection he with _ _ _ _ _ he
      injection he with he
      exact Nat.le_of_eq he
    · exact Nat.le_succ_of_le (h.units unit i ⟨f, a, n, g, c, hm⟩)
  strings string hm := by
    have hold := h.strings string (by simpa [State.makeUnit, State.note] using hm)
    simpa [State.makeUnit, State.note] using hold
  indexAlive other := by
    simpa [State.makeUnit, State.note, IndexAlive, IndexMade] using h.indexAlive other
  unitAlive unit := by
    have hu := h.unitAlive unit
    by_cases hn : unit = state.units + 1
    · have hnot : Call.disposeUnit unit ∉ state.log := fun hm => by
        obtain ⟨i, hm⟩ := h.orderly.unitMade_of_disposed hm
        have := h.units unit i hm
        omega
      simp [State.makeUnit, State.note, UnitAlive, UnitMade, Resource.unitNumber?, hn] at hnot ⊢
      exact ⟨⟨index, filename, args, count, flags, code, by simp⟩, hnot⟩
    · simpa [State.makeUnit, State.note, UnitAlive, UnitMade, Resource.unitNumber?, hn] using hu
  parsed p f i hm := by
    rcases List.mem_cons.mp hm with he | hm
    · injection he with hp _ hi
      obtain rfl := hp
      obtain rfl := hi
      exact ⟨filename, args, count, flags, code, .head _⟩
    · obtain ⟨f', a, n, g, c, hm⟩ := h.parsed p f i (.tail _ hm)
      exact ⟨f', a, n, g, c, .tail _ hm⟩
  distinct := by
    refine List.nodup_cons.mpr ⟨fun hm => ?_, h.distinct⟩
    obtain ⟨i, hm⟩ := ((h.unitAlive (state.units + 1)).mpr hm).1
    exact absurd (h.units _ i hm) (by omega)

theorem countP_holds_eq_zero {index : Nat} (hz : held.countP (Resource.holds index) = 0)
    {parsed : ParsedUnit} {filename : String} {i : Nat} (hm : .unit parsed filename i ∈ held) :
    i ≠ index := by
  have hn := List.countP_eq_zero.mp hz _ hm
  simpa [Resource.holds] using hn

-- The last handle of an index gives it back. All units that were parsed with it are gone by then,
-- as each of them would hold it.
section Unshare

variable {index : Nat}

theorem shares_beside (h : Accounts state (.index index :: held)) (other : Nat) :
    state.shares other =
      held.countP (Resource.holds other) + if index = other then 1 else 0 := by
  simpa [List.countP_cons, Resource.holds] using h.shares other

-- A unit that is still there holds the index that it was parsed with.
theorem disposed_of_unheld (h : Accounts state (.index index :: held))
    (hz : held.countP (Resource.holds index) = 0) {unit : Nat}
    (hu : UnitMade state.log unit index) : .disposeUnit unit ∈ state.log := by
  by_contra hn
  obtain ⟨resource, hm, hr⟩ := List.mem_filterMap.mp ((h.unitAlive unit).mp ⟨⟨index, hu⟩, hn⟩)
  cases resource with
  | index n => simp [Resource.unitNumber?] at hr
  | unit parsed filename i =>
      have hm : .unit parsed filename i ∈ held := by simpa using hm
      have hi := h.parsed parsed filename i (.tail _ hm)
      obtain rfl : parsed.number = unit := by simpa [Resource.unitNumber?] using hr
      exact countP_holds_eq_zero hz hm (h.orderly.unitMade_unique hi hu)

-- The last share of an index gives it back.
theorem unshare_last (h : Accounts state (.index index :: held))
    (hz : held.countP (Resource.holds index) = 0) :
    Accounts (({ state with
      shares := fun n => if n = index then 0 else state.shares n } : State).note
        (.disposeIndex index)) held where
  orderly := ⟨⟨h.indexAlive_of_mem (.head _) (by simp [Resource.holds]),
    fun _ hu => h.disposed_of_unheld hz hu⟩, h.orderly⟩
  shares other := by
    have ho := h.shares_beside other
    by_cases he : other = index
    · simp [State.note, he, hz]
    · simpa [State.note, he, Ne.symm he] using ho
  indices other hm := h.indices other (by simpa [State.note, IndexMade] using hm)
  units unit i hm := h.units unit i (by simpa [State.note, UnitMade] using hm)
  strings string hm := by
    simpa [State.note] using h.strings string (by simpa [State.note] using hm)
  indexAlive other := by
    have ho := h.indexAlive other
    by_cases he : other = index
    · simp [State.note, IndexAlive, he]
    · simpa [State.note, IndexAlive, IndexMade, he] using ho
  unitAlive unit := by
    have hu : UnitAlive state.log unit ↔ unit ∈ held.filterMap Resource.unitNumber? :=
      h.unitAlive unit
    simpa [State.note, UnitAlive, UnitMade] using hu
  parsed p f i hm := by simpa [State.note, UnitMade] using h.parsed p f i (.tail _ hm)
  distinct := h.distinct

theorem unshare_shared (h : Accounts state (.index index :: held))
    (hz : held.countP (Resource.holds index) ≠ 0) :
    Accounts { state with
      shares := fun n => if n = index then held.countP (Resource.holds index)
        else state.shares n } held where
  orderly := h.orderly
  shares other := by
    have ho := h.shares_beside other
    by_cases he : other = index
    · simp [he]
    · simpa [he, Ne.symm he] using ho
  indices := h.indices
  units := h.units
  strings := h.strings
  indexAlive other := by
    have ho := h.indexAlive other
    have halive := h.indexAlive_of_mem (.head _) (by simp [Resource.holds] : Resource.holds index _)
    by_cases he : other = index
    · simpa [he, Nat.pos_of_ne_zero hz] using halive
    · simpa [he] using ho
  unitAlive := h.unitAlive
  parsed p f i hm := h.parsed p f i (.tail _ hm)
  distinct := h.distinct

theorem unshare (h : Accounts state (.index index :: held)) :
    Accounts (state.unshare index) held := by
  have hleft : state.shares index - 1 = held.countP (Resource.holds index) := by
    rw [h.shares_beside index, if_pos rfl, Nat.add_sub_cancel]
  by_cases hz : held.countP (Resource.holds index) = 0
  · simp only [State.unshare, hleft, hz, if_true]
    exact h.unshare_last hz
  · simp only [State.unshare, hleft, hz, if_false]
    exact h.unshare_shared hz

end Unshare

-- A unit is given back before its share of the index.
theorem disposeUnit {parsed : ParsedUnit} {filename : String} {index : Nat}
    (h : Accounts state (.unit parsed filename index :: held)) :
    Accounts (state.note (.disposeUnit parsed.number)) (.index index :: held) where
  orderly := ⟨h.unitAlive_of_mem (.head _), h.orderly⟩
  shares other := by
    rw [List.countP_cons]
    exact (h.shares other).trans (List.countP_cons ..)
  indices other hm := h.indices other (by simpa [State.note, IndexMade] using hm)
  units unit i hm := h.units unit i (by simpa [State.note, UnitMade] using hm)
  strings string hm := by
    simpa [State.note] using h.strings string (by simpa [State.note] using hm)
  indexAlive other := by
    simpa [State.note, IndexAlive, IndexMade] using h.indexAlive other
  unitAlive unit := by
    have hu := h.unitAlive unit
    have hd := List.nodup_cons.mp h.distinct
    by_cases hn : unit = parsed.number
    · simpa [State.note, UnitAlive, hn, Resource.unitNumber?] using hd.1
    · simpa [State.note, UnitAlive, UnitMade, Resource.unitNumber?, hn] using hu
  parsed p f i hm := by
    have hm : .unit p f i ∈ held := by simpa using hm
    simpa [State.note, UnitMade] using h.parsed p f i (.tail _ hm)
  distinct := (List.nodup_cons.mp h.distinct).2

theorem release {resource : Resource} (h : Accounts state (resource :: held)) :
    Accounts (state.release resource) held := by
  cases resource with
  | index index => exact h.unshare
  | unit parsed filename index => exact h.disposeUnit.unshare

theorem count_disposeIndex (h : Accounts state []) {index : Nat}
    (hm : IndexMade state.log index) : state.log.count (.disposeIndex index) = 1 := by
  have hd : .disposeIndex index ∈ state.log := by
    by_contra hn
    have hs := (h.indexAlive index).mp ⟨hm, hn⟩
    simp [h.shares] at hs
  have hle := h.orderly.count_disposeIndex_le index
  have hpos := List.count_pos_iff.mpr hd
  omega

theorem count_disposeUnit (h : Accounts state []) {unit index : Nat}
    (hm : UnitMade state.log unit index) : state.log.count (.disposeUnit unit) = 1 := by
  have hd : .disposeUnit unit ∈ state.log := by
    by_contra hn
    have hu := (h.unitAlive unit).mp ⟨⟨index, hm⟩, hn⟩
    simp at hu
  have hle := h.orderly.count_disposeUnit_le unit
  have hpos := List.count_pos_iff.mpr hd
  omega

-- Strings are never kept.
theorem count_disposeString (h : Accounts state held) {string : Nat}
    (hm : .makeString string ∈ state.log) : state.log.count (.disposeString string) = 1 := by
  have hle := h.orderly.count_disposeString_le string
  have hpos := List.count_pos_iff.mpr (h.strings string hm).2
  omega

theorem settled (h : Accounts state []) : Settled state.log where
  indices _ := h.count_disposeIndex
  units _ _ := h.count_disposeUnit
  strings _ := h.count_disposeString
  indexMade _ := h.orderly.indexMade_of_disposed
  unitMade _ := h.orderly.unitMade_of_disposed
  stringMade _ := h.orderly.stringMade_of_disposed

end Accounts

end State

end Native

end SyntaxHandles
