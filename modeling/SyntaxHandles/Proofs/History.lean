import Mathlib.Data.List.Basic

-- Histories, newest first, in which each entry is allowed after those before it.

namespace SyntaxHandles

variable {α : Type} {Allowed : List α → α → Prop} {history earlier : List α}

def Ordered (Allowed : List α → α → Prop) : List α → Prop
  | [] => True
  | entry :: earlier => Allowed earlier entry ∧ Ordered Allowed earlier

namespace Ordered

theorem of_suffix (h : Ordered Allowed history) (hs : earlier <:+ history) :
    Ordered Allowed earlier := by
  induction history with
  | nil => exact List.suffix_nil.mp hs ▸ h
  | cons entry rest ih =>
      rcases List.suffix_cons_iff.mp hs with rfl | hs
      · exact h
      · exact ih h.2 hs

theorem exists_allowed (h : Ordered Allowed history) {entry : α} (hm : entry ∈ history) :
    ∃ earlier, earlier <:+ history ∧ Allowed earlier entry := by
  obtain ⟨later, earlier, rfl⟩ := List.append_of_mem hm
  have hs : earlier <:+ later ++ entry :: earlier := ⟨later ++ [entry], by simp⟩
  exact ⟨earlier, hs, (h.of_suffix (List.suffix_append later _)).1⟩

-- An entry is allowed after everything that was there already at some earlier point.
theorem allowed_after {later : List α} (h : Ordered Allowed (later ++ earlier)) {entry : α}
    (hm : entry ∈ later) :
    ∃ middle, middle ++ earlier <:+ later ++ earlier ∧ Allowed (middle ++ earlier) entry := by
  obtain ⟨latest, middle, rfl⟩ := List.append_of_mem hm
  have hs : middle ++ earlier <:+ (latest ++ entry :: middle) ++ earlier :=
    ⟨latest ++ [entry], by simp⟩
  refine ⟨middle, hs, ?_⟩
  have hentry : entry :: (middle ++ earlier) <:+ (latest ++ entry :: middle) ++ earlier :=
    ⟨latest, by simp⟩
  exact (h.of_suffix hentry).1

-- Of two entries one was there before the other.
theorem earlier_or (h : Ordered Allowed history) {a b : α} (ha : a ∈ history) (hb : b ∈ history) :
    a = b ∨ (∃ earlier, earlier <:+ history ∧ a ∈ earlier ∧ Allowed earlier b) ∨
      ∃ earlier, earlier <:+ history ∧ b ∈ earlier ∧ Allowed earlier a := by
  induction history with
  | nil => exact absurd ha List.not_mem_nil
  | cons entry rest ih =>
      have hrest : rest <:+ entry :: rest := List.suffix_cons entry rest
      rcases List.mem_cons.mp ha with rfl | ha'
      · rcases List.mem_cons.mp hb with rfl | hb'
        · exact .inl rfl
        · exact .inr (.inr ⟨rest, hrest, hb', h.1⟩)
      · rcases List.mem_cons.mp hb with rfl | hb'
        · exact .inr (.inl ⟨rest, hrest, ha', h.1⟩)
        · rcases ih h.2 ha' hb' with he | ⟨earlier, hs, hm⟩ | ⟨earlier, hs, hm⟩
          · exact .inl he
          · exact .inr (.inl ⟨earlier, hs.trans hrest, hm⟩)
          · exact .inr (.inr ⟨earlier, hs.trans hrest, hm⟩)

-- What is allowed only once happens once at most.
theorem count_le_one [BEq α] [LawfulBEq α] (h : Ordered Allowed history) {entry : α}
    (once : ∀ earlier, Allowed earlier entry → entry ∉ earlier) : history.count entry ≤ 1 := by
  induction history with
  | nil => exact Nat.zero_le 1
  | cons other rest ih =>
      rw [List.count_cons]
      split
      · next he =>
        obtain rfl := beq_iff_eq.mp he
        have hz := List.count_eq_zero_of_not_mem (once rest h.1)
        omega
      · exact ih h.2

end Ordered

end SyntaxHandles
