import SyntaxHandles.Registry.Basic
import Mathlib.Data.List.Basic
import Mathlib.Tactic.Common

-- What a registry keeps however many identities it gives out: its entries stand in descending
-- order, one for each serial. What is registered replaces the entry of its serial, if there is one.

namespace SyntaxHandles.Registry

variable {ρ : Type}

abbrev Descending (live : List (Entry ρ)) : Prop :=
  live.Pairwise fun newer older => older.serial < newer.serial

section Entries

variable {registry : Registry ρ} {live : List (Entry ρ)} {entry other : Entry ρ}

theorem Descending.eq_of_serial (h : Descending live) {a b : Entry ρ} (ha : a ∈ live)
    (hb : b ∈ live) (hs : a.serial = b.serial) : a = b := by
  have hne : live.Pairwise fun a b => a.serial = b.serial → a = b :=
    h.imp fun hlt he => absurd he (UInt32.ne_of_lt hlt).symm
  have hne' : live.Pairwise (flip fun a b => a.serial = b.serial → a = b) :=
    h.imp fun hlt he => absurd he (UInt32.ne_of_lt hlt)
  exact hne.forall_of_forall_of_flip (fun _ _ _ => rfl) hne' ha hb hs

theorem Descending.nodup (h : Descending live) : live.Nodup :=
  h.imp fun hlt he => absurd (congrArg Entry.serial he) (UInt32.ne_of_lt hlt).symm

theorem find?_of_unique (hm : entry ∈ registry.live)
    (hu : ∀ other ∈ registry.live, other.serial = entry.serial → other = entry) :
    registry.find? entry.serial = some entry := by
  rcases hf : registry.find? entry.serial with _ | other
  · have hn := List.find?_eq_none.mp hf entry hm
    simp at hn
  · have hs : other.serial = entry.serial := by simpa using List.find?_some hf
    rw [hu other (List.mem_of_find?_eq_some hf) hs]

theorem Descending.find?_eq_some_iff (h : Descending registry.live) {serial : UInt32} :
    registry.find? serial = some entry ↔ entry ∈ registry.live ∧ entry.serial = serial := by
  constructor
  · intro hf
    exact ⟨List.mem_of_find?_eq_some hf, by simpa using List.find?_some hf⟩
  · rintro ⟨hm, rfl⟩
    exact find?_of_unique hm fun other ho hs => h.eq_of_serial ho hm hs

theorem find?_eq_none_or (registry : Registry ρ) (serial : UInt32) :
    registry.find? serial = none ∨
      ∃ entry ∈ registry.live, entry.serial = serial ∧ registry.find? serial = some entry := by
  rcases hf : registry.find? serial with _ | entry
  · exact .inl rfl
  · exact .inr ⟨entry, List.mem_of_find?_eq_some hf, by simpa using List.find?_some hf, rfl⟩

theorem mem_of_mem_insert (hm : other ∈ insert entry live) : other = entry ∨ other ∈ live := by
  induction live with
  | nil => exact .inl (List.mem_singleton.mp hm)
  | cons first rest ih =>
      simp only [insert] at hm
      split at hm
      · exact List.mem_cons.mp hm
      · split at hm
        · exact (List.mem_cons.mp hm).imp_right (.tail _)
        · rcases List.mem_cons.mp hm with rfl | hm
          · exact .inr (.head _)
          · exact (ih hm).imp_right (.tail _)

-- The entry that has the serial already goes, and all others stay.
theorem Descending.mem_insert_iff (h : Descending live) :
    other ∈ insert entry live ↔ other = entry ∨ other ∈ live ∧ other.serial ≠ entry.serial := by
  induction live with
  | nil => simp [insert]
  | cons first rest ih =>
      obtain ⟨hfirst, hrest⟩ := List.pairwise_cons.mp h
      have below {e : Entry ρ} (hlt : first.serial ≤ entry.serial) (hm : e ∈ rest) :
          e.serial ≠ entry.serial :=
        UInt32.ne_of_lt (UInt32.lt_of_lt_of_le (hfirst e hm) hlt)
      simp only [insert]
      split
      · next hlt =>
        have hall : ∀ e ∈ first :: rest, e.serial ≠ entry.serial :=
          List.forall_mem_cons.mpr
            ⟨UInt32.ne_of_lt hlt, fun e => below (UInt32.le_of_lt hlt)⟩
        rw [List.mem_cons]
        exact or_congr_right ⟨fun hm => ⟨hm, hall other hm⟩, And.left⟩
      · split
        · next he =>
          rw [List.mem_cons, List.mem_cons]
          refine or_congr_right ⟨fun hm => ⟨.inr hm, below (UInt32.le_of_eq he) hm⟩, ?_⟩
          rintro ⟨rfl | hm, hne⟩
          · exact absurd he hne
          · exact hm
        · next hne =>
          rw [List.mem_cons, ih hrest, List.mem_cons]
          constructor
          · rintro (rfl | rfl | ⟨hm, hs⟩)
            · exact .inr ⟨.inl rfl, hne⟩
            · exact .inl rfl
            · exact .inr ⟨.inr hm, hs⟩
          · rintro (rfl | ⟨rfl | hm, hs⟩)
            · exact .inr (.inl rfl)
            · exact .inl rfl
            · exact .inr (.inr ⟨hm, hs⟩)

theorem Descending.insert (h : Descending live) (entry : Entry ρ) :
    Descending (Registry.insert entry live) := by
  induction live with
  | nil => exact List.pairwise_singleton ..
  | cons first rest ih =>
      obtain ⟨hfirst, hrest⟩ := List.pairwise_cons.mp h
      simp only [Registry.insert]
      split
      · next hlt =>
        refine List.pairwise_cons.mpr ⟨List.forall_mem_cons.mpr ⟨hlt, fun e hm => ?_⟩, h⟩
        exact UInt32.lt_trans (hfirst e hm) hlt
      · next hnot =>
        split
        · next he => exact List.pairwise_cons.mpr ⟨fun e hm => he ▸ hfirst e hm, hrest⟩
        · next hne =>
          have hlt : entry.serial < first.serial :=
            UInt32.lt_of_le_of_ne (UInt32.not_lt.mp hnot) (Ne.symm hne)
          refine List.pairwise_cons.mpr ⟨fun e hm => ?_, ih hrest⟩
          rcases (mem_insert_iff hrest).mp hm with rfl | ⟨hm, -⟩
          · exact hlt
          · exact hfirst e hm

-- An entry that is put in and taken out again leaves no trace.
theorem filter_insert (hn : ∀ other ∈ live, other.serial ≠ entry.serial) :
    (insert entry live).filter (·.serial ≠ entry.serial) = live := by
  have hkeep {rest : List (Entry ρ)} (hn : ∀ other ∈ rest, other.serial ≠ entry.serial) :
      rest.filter (·.serial ≠ entry.serial) = rest :=
    List.filter_eq_self.mpr fun other ho => decide_eq_true (hn other ho)
  induction live with
  | nil => simp [insert]
  | cons first rest ih =>
      obtain ⟨hne, hrest⟩ := List.forall_mem_cons.mp hn
      simp only [insert, if_neg hne]
      split
      · rw [List.filter_cons_of_neg (by simp), hkeep hn]
      · rw [List.filter_cons_of_pos (by simpa using hne), ih hrest]

end Entries

section Registration

variable {registry after : Registry ρ} {kind : ResourceKind} {resource : ρ} {id : ResourceId}
  {displaced : Option ρ}

theorem register_of_free (hb : registry.borrow = .free) (kind : ResourceKind) (resource : ρ) :
    registry.register kind resource = .ok (⟨registry.id, registry.nextSerial, kind⟩,
      (registry.find? registry.nextSerial).map (·.resource),
      { registry with
        nextSerial := registry.nextSerial + 1
        live := insert ⟨registry.nextSerial, kind, resource⟩ registry.live }) := by
  have hw : registry.toWrite .register = .ok () := if_pos hb
  simp only [register, hw, bind, Except.bind, pure, Except.pure]

theorem borrow_of_register (hr : registry.register kind resource = .ok (id, displaced, after)) :
    registry.borrow = .free := by
  by_contra hb
  simp [register, toWrite, hb, bind, Except.bind] at hr

-- What is displaced was there, and so were all entries but the new one.
theorem mem_of_register (hr : registry.register kind resource = .ok (id, displaced, after)) :
    (∀ old, displaced = some old → ∃ entry ∈ registry.live, entry.resource = old) ∧
      ∀ entry ∈ after.live, entry.resource = resource ∨ entry ∈ registry.live := by
  rw [register_of_free (borrow_of_register hr)] at hr
  simp only [Except.ok.injEq, Prod.mk.injEq] at hr
  obtain ⟨-, rfl, rfl⟩ := hr
  refine ⟨fun old ho => ?_, fun entry hm => ?_⟩
  · obtain ⟨entry, hf, he⟩ := Option.map_eq_some_iff.mp ho
    exact ⟨entry, List.mem_of_find?_eq_some hf, he⟩
  · exact (mem_of_mem_insert hm).imp_left fun he => congrArg Entry.resource he

-- An entry goes only if its serial comes again, and then its resource is handed out.
theorem Descending.register (h : Descending registry.live)
    (hr : registry.register kind resource = .ok (id, displaced, after)) :
    Descending after.live ∧
      (∀ entry ∈ registry.live, entry ∈ after.live ∨ displaced = some entry.resource) ∧
      ∀ entry ∈ after.live,
        entry ∈ registry.live ∨ entry = ⟨registry.nextSerial, kind, resource⟩ := by
  rw [register_of_free (borrow_of_register hr)] at hr
  simp only [Except.ok.injEq, Prod.mk.injEq] at hr
  obtain ⟨-, rfl, rfl⟩ := hr
  refine ⟨h.insert _, fun entry hm => ?_, fun entry hm => ?_⟩
  · by_cases hs : entry.serial = registry.nextSerial
    · rw [h.find?_eq_some_iff.mpr ⟨hm, hs⟩]
      exact .inr rfl
    · exact .inl (h.mem_insert_iff.mpr (.inr ⟨hm, hs⟩))
  · rcases h.mem_insert_iff.mp hm with rfl | ⟨hm, -⟩
    · exact .inr rfl
    · exact .inl hm

end Registration

end SyntaxHandles.Registry
