import SyntaxHandles.Native.Log
import SyntaxHandles.Proofs.History

-- In which order the native library may be called. What the library has handed out is alive until
-- it is given back; only what is alive may be used, and an index is given back after its units.

namespace SyntaxHandles.Native

def IndexMade (log : List Call) (index : Nat) : Prop :=
  ∃ exclude display, .createIndex exclude display (some index) ∈ log

def UnitMade (log : List Call) (unit index : Nat) : Prop :=
  ∃ filename args count flags code,
    .parse index filename args count flags (some unit) code ∈ log

def IndexAlive (log : List Call) (index : Nat) : Prop :=
  IndexMade log index ∧ .disposeIndex index ∉ log

def UnitAlive (log : List Call) (unit : Nat) : Prop :=
  (∃ index, UnitMade log unit index) ∧ .disposeUnit unit ∉ log

def StringAlive (log : List Call) (string : Nat) : Prop :=
  .makeString string ∈ log ∧ .disposeString string ∉ log

-- Whether a call may follow earlier ones. The library hands out nothing twice.
def Call.Allowed (earlier : List Call) : Call → Prop
  | createIndex _ _ index => ∀ n, index = some n → ¬IndexMade earlier n
  | parse index _ _ _ _ unit _ =>
    IndexAlive earlier index ∧ ∀ n, unit = some n → ∀ index, ¬UnitMade earlier n index
  | disposeUnit unit => UnitAlive earlier unit
  | disposeIndex index =>
    IndexAlive earlier index ∧ ∀ unit, UnitMade earlier unit index → .disposeUnit unit ∈ earlier
  | rootCursor unit => UnitAlive earlier unit
  | children _ unit | askCursor _ _ unit | askType _ _ unit | fileName _ unit =>
    ∃ n, unit = some n ∧ UnitAlive earlier n
  | makeString string => .makeString string ∉ earlier
  | readString string | disposeString string => StringAlive earlier string

-- Each call of a log, newest first, is allowed after those before it.
abbrev Orderly : List Call → Prop :=
  Ordered fun earlier call => call.Allowed earlier

-- All that was handed out was given back, once, and nothing else was.
structure Settled (log : List Call) : Prop where
  indices : ∀ index, IndexMade log index → log.count (.disposeIndex index) = 1
  units : ∀ unit index, UnitMade log unit index → log.count (.disposeUnit unit) = 1
  strings : ∀ string, .makeString string ∈ log → log.count (.disposeString string) = 1
  indexMade : ∀ index, .disposeIndex index ∈ log → IndexMade log index
  unitMade : ∀ unit, .disposeUnit unit ∈ log → ∃ index, UnitMade log unit index
  stringMade : ∀ string, .disposeString string ∈ log → .makeString string ∈ log

-- A call that neither hands anything out nor takes anything back.
def Call.Quiet : Call → Prop
  | createIndex _ _ index => index = none
  | parse _ _ _ _ _ unit _ => unit = none
  | disposeUnit _ | disposeIndex _ | makeString _ | disposeString _ => False
  | _ => True

section Quiet

variable {log : List Call} {call : Call}

theorem Call.Quiet.indexMade_iff (hq : call.Quiet) {index : Nat} :
    IndexMade (call :: log) index ↔ IndexMade log index := by
  have hne : ∀ exclude display, .createIndex exclude display (some index) ≠ call := by
    rintro exclude display rfl
    simp [Quiet] at hq
  simp only [IndexMade, List.mem_cons, hne, false_or]

theorem Call.Quiet.unitMade_iff (hq : call.Quiet) {unit index : Nat} :
    UnitMade (call :: log) unit index ↔ UnitMade log unit index := by
  have hne : ∀ f a n g c, .parse index f a n g (some unit) c ≠ call := by
    rintro f a n g c rfl
    simp [Quiet] at hq
  simp only [UnitMade, List.mem_cons, hne, false_or]

theorem Call.Quiet.mem_iff (hq : call.Quiet) {other : Call} (ho : ¬other.Quiet) :
    other ∈ call :: log ↔ other ∈ log := by
  have hne : other ≠ call := by
    rintro rfl
    exact ho hq
  simp only [List.mem_cons, hne, false_or]

end Quiet

section Orderly

variable {log earlier : List Call}

-- Only what was handed out is given back.
theorem Orderly.indexMade_of_disposed (h : Orderly log) {index : Nat}
    (hm : .disposeIndex index ∈ log) : IndexMade log index := by
  obtain ⟨earlier, hs, ha⟩ := h.exists_allowed hm
  obtain ⟨exclude, display, hm⟩ := ha.1.1
  exact ⟨exclude, display, hs.mem hm⟩

theorem Orderly.unitMade_of_disposed (h : Orderly log) {unit : Nat}
    (hm : .disposeUnit unit ∈ log) : ∃ index, UnitMade log unit index := by
  obtain ⟨earlier, hs, ha⟩ := h.exists_allowed hm
  obtain ⟨index, f, a, n, g, c, hm⟩ := ha.1
  exact ⟨index, f, a, n, g, c, hs.mem hm⟩

theorem Orderly.stringMade_of_disposed (h : Orderly log) {string : Nat}
    (hm : .disposeString string ∈ log) : .makeString string ∈ log := by
  obtain ⟨earlier, hs, ha⟩ := h.exists_allowed hm
  exact hs.mem ha.1

theorem Orderly.count_disposeIndex_le (h : Orderly log) (index : Nat) :
    log.count (.disposeIndex index) ≤ 1 :=
  h.count_le_one fun _ ha => ha.1.2

theorem Orderly.count_disposeUnit_le (h : Orderly log) (unit : Nat) :
    log.count (.disposeUnit unit) ≤ 1 :=
  h.count_le_one fun _ ha => ha.2

theorem Orderly.count_disposeString_le (h : Orderly log) (string : Nat) :
    log.count (.disposeString string) ≤ 1 :=
  h.count_le_one fun _ ha => ha.2

-- A unit comes from one index.
theorem Orderly.unitMade_unique (h : Orderly log) {unit index other : Nat}
    (hi : UnitMade log unit index) (ho : UnitMade log unit other) : index = other := by
  obtain ⟨f, a, n, g, c, hi⟩ := hi
  obtain ⟨f', a', n', g', c', ho⟩ := ho
  rcases h.earlier_or hi ho with he | ⟨earlier, -, hm, ha⟩ | ⟨earlier, -, hm, ha⟩
  · injection he
  · exact absurd ⟨f, a, n, g, c, hm⟩ (ha.2 unit rfl index)
  · exact absurd ⟨f', a', n', g', c', hm⟩ (ha.2 unit rfl other)

end Orderly

end SyntaxHandles.Native
