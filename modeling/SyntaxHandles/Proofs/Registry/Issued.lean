import SyntaxHandles.Proofs.Registry.Descending

-- Registries that have not run out of serials. Their entries stand in descending order of serials
-- that were given out, so an identity stands for one entry at most, and a new entry displaces no
-- other.

namespace SyntaxHandles.Registry

variable {ρ α : Type}

-- The identity under which an entry was given out.
def identity (registry : Registry ρ) (entry : Entry ρ) : ResourceId :=
  ⟨registry.id, entry.serial, entry.kind⟩

-- As many identities were given out as `count` says, and their serials were never reused.
structure Issued (registry : Registry ρ) (count : Nat) : Prop where
  next : registry.nextSerial = UInt32.ofNat (count + 1)
  descending : registry.live.Pairwise fun newer older => older.serial < newer.serial
  given : ∀ entry ∈ registry.live, 0 < entry.serial.toNat ∧ entry.serial.toNat ≤ count

section Serials

variable {registry : Registry ρ} {count : Nat}

theorem Issued.fresh (id : UInt32) : Issued ({ id := id } : Registry ρ) 0 where
  next := rfl
  descending := .nil
  given _ h := nomatch h

theorem Issued.eq_of_serial (h : Issued registry count) {a b : Entry ρ} (ha : a ∈ registry.live)
    (hb : b ∈ registry.live) (hs : a.serial = b.serial) : a = b :=
  Descending.eq_of_serial h.descending ha hb hs

theorem Issued.eq_of_identity (h : Issued registry count) {a b : Entry ρ} (ha : a ∈ registry.live)
    (hb : b ∈ registry.live) (hi : registry.identity a = registry.identity b) : a = b :=
  h.eq_of_serial ha hb (congrArg ResourceId.serial hi)

theorem Issued.of_sublist (h : Issued registry count) {live : List (Entry ρ)}
    (hs : live.Sublist registry.live) : Issued { registry with live } count where
  next := h.next
  descending := h.descending.sublist hs
  given entry hm := h.given entry (hs.subset hm)

-- Taking an entry out by its serial leaves all others.
theorem Issued.perm_filter (h : Issued registry count) {entry : Entry ρ}
    (hm : entry ∈ registry.live) :
    registry.live.Perm (entry :: registry.live.filter (·.serial ≠ entry.serial)) := by
  obtain ⟨newer, older, hl⟩ := List.append_of_mem hm
  have hp := h.descending
  rw [hl] at hp ⊢
  obtain ⟨-, hold, hnew⟩ := List.pairwise_append.mp hp
  have keepNewer : newer.filter (·.serial ≠ entry.serial) = newer :=
    List.filter_eq_self.mpr fun other ho => by
      simpa using (UInt32.ne_of_lt (hnew other ho entry (.head _))).symm
  have keepOlder : older.filter (·.serial ≠ entry.serial) = older :=
    List.filter_eq_self.mpr fun other ho => by
      simpa using UInt32.ne_of_lt ((List.pairwise_cons.mp hold).1 other ho)
  rw [List.filter_append, keepNewer, List.filter_cons_of_neg (by simp), keepOlder]
  exact List.perm_middle

theorem Issued.find?_eq_some_iff (h : Issued registry count) {serial : UInt32} {entry : Entry ρ} :
    registry.find? serial = some entry ↔ entry ∈ registry.live ∧ entry.serial = serial :=
  Descending.find?_eq_some_iff h.descending

end Serials

-- An identity that no entry was given out under any more, or ever.
def Dead (registry : Registry ρ) (id : ResourceId) : Prop :=
  ∀ entry ∈ registry.live, registry.identity entry ≠ id

section Operations

variable {registry : Registry ρ} {count : Nat} {id : ResourceId} {entry : Entry ρ}

theorem dead_or (registry : Registry ρ) (id : ResourceId) :
    registry.Dead id ∨ ∃ entry ∈ registry.live, registry.identity entry = id := by
  by_cases h : ∃ entry ∈ registry.live, registry.identity entry = id
  · exact .inr h
  · exact .inl fun entry hm hi => h ⟨entry, hm, hi⟩

theorem isAlive_eq_true (ha : registry.isAlive id = .ok true) :
    id.registry = registry.id ∧
      ∃ entry, registry.find? id.serial = some entry ∧ entry.kind = id.kind := by
  by_cases hr : id.registry = registry.id
  · rcases ht : registry.toRead with _ | _
    · simp [isAlive, hr, ht, bind, Except.bind] at ha
    · rcases hf : registry.find? id.serial with _ | entry
      · simp [isAlive, hr, ht, hf, bind, Except.bind, pure, Except.pure] at ha
      · exact ⟨hr, entry, rfl,
          by simpa [isAlive, hr, ht, hf, bind, Except.bind, pure, Except.pure] using ha⟩
  · simp [isAlive, hr, pure, Except.pure] at ha

-- What is looked at has an entry.
theorem look_eq_ok {view : ρ → Option α} {a : α} (hl : registry.look id view = .ok (.ok a)) :
    id.registry = registry.id ∧ ∃ entry, registry.find? id.serial = some entry ∧
      entry.kind = id.kind ∧ view entry.resource = some a := by
  by_cases hr : id.registry = registry.id
  · rcases ht : registry.toRead with _ | _
    · simp [look, hr, ht, bind, Except.bind] at hl
    · rcases hf : registry.find? id.serial with _ | entry
      · simp [look, hr, ht, hf, bind, Except.bind, pure, Except.pure] at hl
      · by_cases hk : entry.kind = id.kind
        · cases hv : view entry.resource <;>
            simp [look, hr, ht, hf, hk, hv, bind, Except.bind, pure, Except.pure] at hl
          exact ⟨hr, entry, rfl, hk, hl ▸ hv⟩
        · simp [look, hr, ht, hf, hk, bind, Except.bind, pure, Except.pure] at hl
  · simp [look, hr, pure, Except.pure] at hl

-- Nothing is taken out only if nothing changes.
theorem take_eq_none {after : Registry ρ} (ht : registry.take id = .ok (none, after)) :
    after = registry := by
  rcases ha : registry.isAlive id with _ | alive
  · simp [take, ha, bind, Except.bind] at ht
  · cases alive with
    | false => simpa [take, ha, bind, Except.bind, pure, Except.pure] using ht.symm
    | true =>
        obtain ⟨-, entry, hf, -⟩ := isAlive_eq_true ha
        rcases hw : registry.toWrite .take with _ | _
        · simp [take, ha, hw, bind, Except.bind] at ht
        · simp [take, ha, hw, hf, bind, Except.bind, pure, Except.pure] at ht

theorem takeNewest_eq_none {after : Registry ρ} (ht : registry.takeNewest = .ok (none, after)) :
    after = registry := by
  rcases hw : registry.toWrite .drain with _ | _
  · simp [takeNewest, hw, bind, Except.bind] at ht
  · cases hl : registry.live <;>
      simp [takeNewest, hw, hl, bind, Except.bind, pure, Except.pure] at ht
    exact ht.symm

theorem take_eq_ok {resource? : Option ρ} {after : Registry ρ}
    (ht : registry.take id = .ok (resource?, after)) :
    after.id = registry.id ∧ after.borrow = registry.borrow := by
  rcases ha : registry.isAlive id with _ | _ | _
  · simp [take, ha, bind, Except.bind] at ht
  · simp [take, ha, bind, Except.bind, pure, Except.pure] at ht
    rw [ht.2]
    exact ⟨rfl, rfl⟩
  · rcases hw : registry.toWrite .take with _ | _
    · simp [take, ha, hw, bind, Except.bind] at ht
    · simp [take, ha, hw, bind, Except.bind, pure, Except.pure] at ht
      rw [← ht.2]
      exact ⟨rfl, rfl⟩

theorem takeNewest_eq_ok {resource? : Option ρ} {after : Registry ρ}
    (ht : registry.takeNewest = .ok (resource?, after)) :
    after.id = registry.id ∧ after.borrow = registry.borrow := by
  rcases hw : registry.toWrite .drain with _ | _
  · simp [takeNewest, hw, bind, Except.bind] at ht
  · cases hl : registry.live <;>
      simp [takeNewest, hw, hl, bind, Except.bind, pure, Except.pure] at ht
    all_goals
      rw [← ht.2]
      exact ⟨rfl, rfl⟩

-- Entries are lost, but no serial is given out again.
theorem take_sublist {resource? : Option ρ} {after : Registry ρ}
    (ht : registry.take id = .ok (resource?, after)) :
    after.nextSerial = registry.nextSerial ∧ after.live.Sublist registry.live := by
  rcases ha : registry.isAlive id with _ | _ | _
  · simp [take, ha, bind, Except.bind] at ht
  · simp [take, ha, bind, Except.bind, pure, Except.pure] at ht
    rw [ht.2]
    exact ⟨rfl, .refl _⟩
  · rcases hw : registry.toWrite .take with _ | _
    · simp [take, ha, hw, bind, Except.bind] at ht
    · simp [take, ha, hw, bind, Except.bind, pure, Except.pure] at ht
      rw [← ht.2]
      exact ⟨rfl, List.filter_sublist⟩

theorem takeNewest_sublist {resource? : Option ρ} {after : Registry ρ}
    (ht : registry.takeNewest = .ok (resource?, after)) :
    after.nextSerial = registry.nextSerial ∧ after.live.Sublist registry.live := by
  rcases hw : registry.toWrite .drain with _ | _
  · simp [takeNewest, hw, bind, Except.bind] at ht
  · cases hl : registry.live <;>
      simp [takeNewest, hw, hl, bind, Except.bind, pure, Except.pure] at ht
    · rw [← ht.2, hl]
      exact ⟨rfl, .refl _⟩
    · rw [← ht.2]
      exact ⟨rfl, List.sublist_cons_self ..⟩

-- What is taken out of a registry is the entry that is missing from it afterwards.
theorem mem_or_taken (h : Descending registry.live) {resource : ρ} {after : Registry ρ}
    (ht : registry.take id = .ok (some resource, after)) {entry : Entry ρ}
    (hm : entry ∈ registry.live) : entry ∈ after.live ∨ entry.resource = resource := by
  rcases ha : registry.isAlive id with _ | alive
  · simp [take, ha, bind, Except.bind] at ht
  · cases alive with
    | false => simp [take, ha, bind, Except.bind, pure, Except.pure] at ht
    | true =>
        obtain ⟨-, taken, hf, -⟩ := isAlive_eq_true ha
        rcases hw : registry.toWrite .take with _ | _
        · simp [take, ha, hw, bind, Except.bind] at ht
        · simp [take, ha, hw, hf, bind, Except.bind, pure, Except.pure] at ht
          obtain ⟨rfl, rfl⟩ := ht
          by_cases hs : entry.serial = id.serial
          · rw [h.find?_eq_some_iff.mpr ⟨hm, hs⟩] at hf
            exact .inr (congrArg Entry.resource (Option.some.inj hf))
          · exact .inl (List.mem_filter.mpr ⟨hm, by simpa using hs⟩)

theorem mem_or_takenNewest {resource : ρ} {after : Registry ρ}
    (ht : registry.takeNewest = .ok (some resource, after)) {entry : Entry ρ}
    (hm : entry ∈ registry.live) :
    entry ∈ after.live ∨ entry.resource = resource := by
  rcases hw : registry.toWrite .drain with _ | _
  · simp [takeNewest, hw, bind, Except.bind] at ht
  · cases hl : registry.live with
    | nil => simp [takeNewest, hw, hl, bind, Except.bind, pure, Except.pure] at ht
    | cons newest older =>
        simp [takeNewest, hw, hl, bind, Except.bind, pure, Except.pure] at ht
        obtain ⟨rfl, rfl⟩ := ht
        rcases List.mem_cons.mp (hl ▸ hm) with rfl | hm
        · exact .inr rfl
        · exact .inl hm

theorem register_eq_ok {kind : ResourceKind} {resource : ρ} {displaced : Option ρ}
    {after : Registry ρ} (hr : registry.register kind resource = .ok (id, displaced, after)) :
    after.id = registry.id ∧ after.borrow = registry.borrow := by
  rcases hw : registry.toWrite .register with _ | _
  · simp [register, hw, bind, Except.bind] at hr
  · simp [register, hw, bind, Except.bind, pure, Except.pure] at hr
    rw [← hr.2.2]
    exact ⟨rfl, rfl⟩

theorem exists_register (hb : registry.borrow = .free) (kind : ResourceKind) (resource : ρ) :
    ∃ id displaced after, registry.register kind resource = .ok (id, displaced, after) := by
  have hw : registry.toWrite .register = .ok () := if_pos hb
  simp [register, hw, bind, Except.bind, pure, Except.pure]

theorem isAlive_of_find? (hb : registry.borrow ≠ .exclusive)
    (hf : registry.find? entry.serial = some entry) :
    registry.isAlive (registry.identity entry) = .ok true := by
  simp [isAlive, identity, toRead, hb, hf, bind, Except.bind, pure, Except.pure]

theorem Issued.isAlive_of_mem (h : Issued registry count) (hb : registry.borrow ≠ .exclusive)
    (hm : entry ∈ registry.live) : registry.isAlive (registry.identity entry) = .ok true :=
  isAlive_of_find? hb (h.find?_eq_some_iff.mpr ⟨hm, rfl⟩)

theorem isAlive_of_dead (hb : registry.borrow ≠ .exclusive) (hd : registry.Dead id) :
    registry.isAlive id = .ok false := by
  by_cases hr : id.registry = registry.id
  · rcases registry.find?_eq_none_or id.serial with hf | ⟨entry, hm, hs, hf⟩
    · simp [isAlive, toRead, hr, hb, hf, bind, Except.bind, pure, Except.pure]
    · have hk : entry.kind ≠ id.kind := fun hk =>
        hd entry hm (by simp only [identity, hs, hk, ← hr])
      simp [isAlive, toRead, hr, hb, hf, hk, bind, Except.bind, pure, Except.pure]
  · simp [isAlive, hr, pure, Except.pure]

theorem Issued.isAlive_iff (h : Issued registry count) (hb : registry.borrow ≠ .exclusive) :
    registry.isAlive id = .ok true ↔ ∃ entry ∈ registry.live, registry.identity entry = id := by
  rcases registry.dead_or id with hd | ⟨entry, hm, rfl⟩
  · rw [isAlive_of_dead hb hd]
    exact iff_of_false (by simp) fun ⟨entry, hm, hi⟩ => hd entry hm hi
  · exact iff_of_true (h.isAlive_of_mem hb hm) ⟨entry, hm, rfl⟩

theorem take_of_find? (hb : registry.borrow = .free)
    (hf : registry.find? entry.serial = some entry) : registry.take (registry.identity entry) =
      .ok (some entry.resource,
        { registry with live := registry.live.filter (·.serial ≠ entry.serial) }) := by
  have ha := isAlive_of_find? (by simp [hb]) hf
  have hw : registry.toWrite .take = .ok () := if_pos hb
  simp only [take, ha, hw, bind, Except.bind, pure, Except.pure]
  simp only [identity, hf, Option.map_some, Bool.not_true, Bool.false_eq_true, if_false]
  rfl

theorem Issued.take_of_mem (h : Issued registry count) (hb : registry.borrow = .free)
    (hm : entry ∈ registry.live) : registry.take (registry.identity entry) =
      .ok (some entry.resource,
        { registry with live := registry.live.filter (·.serial ≠ entry.serial) }) :=
  take_of_find? hb (h.find?_eq_some_iff.mpr ⟨hm, rfl⟩)

theorem take_of_dead (hb : registry.borrow ≠ .exclusive) (hd : registry.Dead id) :
    registry.take id = .ok (none, registry) := by
  simp [take, isAlive_of_dead hb hd, bind, Except.bind, pure, Except.pure]

theorem Issued.take_of_borrowed (h : Issued registry count) {others : Nat}
    (hb : registry.borrow = .shared others) (hm : entry ∈ registry.live) :
    registry.take (registry.identity entry) = .error ⟨.take, .shared others⟩ := by
  have ha := h.isAlive_of_mem (by simp [hb]) hm
  simp only [take, ha, toWrite, hb]
  simp [bind, Except.bind]

theorem look_of_find? (hb : registry.borrow ≠ .exclusive)
    (hf : registry.find? entry.serial = some entry) (view : ρ → Option α) :
    registry.look (registry.identity entry) view = .ok (match view entry.resource with
      | some a => .ok a
      | none => .error (.invalidHandle (registry.identity entry) Refusal.typeMismatch)) := by
  have ht : registry.toRead = .ok () := if_neg hb
  cases hv : view entry.resource <;>
    simp [look, identity, ht, hf, hv, bind, Except.bind, pure, Except.pure]

theorem Issued.look_of_mem (h : Issued registry count) (hb : registry.borrow ≠ .exclusive)
    (hm : entry ∈ registry.live) (view : ρ → Option α) :
    registry.look (registry.identity entry) view = .ok (match view entry.resource with
      | some a => .ok a
      | none => .error (.invalidHandle (registry.identity entry) Refusal.typeMismatch)) :=
  look_of_find? hb (h.find?_eq_some_iff.mpr ⟨hm, rfl⟩) view

-- Nothing was given out under this serial, or it is gone.
theorem look_of_gone (hb : registry.borrow ≠ .exclusive) (hr : id.registry = registry.id)
    (hg : ∀ entry ∈ registry.live, entry.serial ≠ id.serial) (view : ρ → Option α) :
    registry.look id view = .ok (.error (.invalidHandle id Refusal.disposed)) := by
  have ht : registry.toRead = .ok () := if_neg hb
  rcases registry.find?_eq_none_or id.serial with hf | ⟨entry, hm, hs, -⟩
  · simp [look, hr, ht, hf, bind, Except.bind, pure, Except.pure]
  · exact absurd hs (hg entry hm)

theorem exists_refusal_of_dead (hb : registry.borrow ≠ .exclusive) (hd : registry.Dead id)
    (view : ρ → Option α) :
    ∃ reason, registry.look id view = .ok (.error (.invalidHandle id reason)) := by
  have ht : registry.toRead = .ok () := if_neg hb
  by_cases hr : id.registry = registry.id
  · rcases registry.find?_eq_none_or id.serial with hf | ⟨entry, hm, hs, hf⟩
    · exact ⟨_, by simp [look, hr, ht, hf, bind, Except.bind, pure, Except.pure]; rfl⟩
    · have hk : entry.kind ≠ id.kind := fun hk =>
        hd entry hm (by simp only [identity, hs, hk, ← hr])
      exact ⟨_, by simp [look, hr, ht, hf, hk, bind, Except.bind, pure, Except.pure]; rfl⟩
  · exact ⟨_, by simp [look, hr, pure, Except.pure]; rfl⟩

-- The entries are not even looked at.
theorem look_of_foreign (hr : id.registry ≠ registry.id) (view : ρ → Option α) :
    registry.look id view = .ok (.error (.invalidHandle id Refusal.otherSession)) := by
  simp [look, hr, pure, Except.pure]

-- One entry is lost, and the resource behind it is handed out.
structure Loses (registry : Registry ρ) (resource : ρ) (after : Registry ρ) : Prop where
  same : after = { registry with live := after.live }
  sublist : after.live.Sublist registry.live
  perm : ∃ entry, entry.resource = resource ∧ registry.live.Perm (entry :: after.live)

theorem Issued.loses_of_take (h : Issued registry count) {resource : ρ} {after : Registry ρ}
    (hb : registry.borrow = .free) (ht : registry.take id = .ok (some resource, after)) :
    registry.Loses resource after := by
  rcases registry.dead_or id with hd | ⟨entry, hm, rfl⟩
  · rw [take_of_dead (by simp [hb]) hd] at ht
    simp at ht
  · rw [h.take_of_mem hb hm] at ht
    simp only [Except.ok.injEq, Prod.mk.injEq, Option.some.injEq] at ht
    obtain ⟨hr, rfl⟩ := ht
    exact ⟨rfl, List.filter_sublist, entry, hr, h.perm_filter hm⟩

theorem loses_of_takeNewest {resource : ρ} {after : Registry ρ}
    (ht : registry.takeNewest = .ok (some resource, after)) : registry.Loses resource after := by
  rcases hw : registry.toWrite .drain with _ | _
  · simp [takeNewest, hw, bind, Except.bind] at ht
  · cases hl : registry.live with
    | nil => simp [takeNewest, hw, hl, bind, Except.bind, pure, Except.pure] at ht
    | cons entry older =>
        simp [takeNewest, hw, hl, bind, Except.bind, pure, Except.pure] at ht
        obtain ⟨hr, rfl⟩ := ht
        exact ⟨rfl, hl ▸ List.sublist_cons_self entry older, entry, hr, hl ▸ .refl _⟩

theorem takeNewest_nil (hb : registry.borrow = .free) (hl : registry.live = []) :
    registry.takeNewest = .ok (none, registry) := by
  simp [takeNewest, toWrite, hb, hl, bind, Except.bind, pure, Except.pure]

theorem takeNewest_cons (hb : registry.borrow = .free) {older : List (Entry ρ)}
    (hl : registry.live = entry :: older) :
    registry.takeNewest = .ok (some entry.resource, { registry with live := older }) := by
  simp [takeNewest, toWrite, hb, hl, bind, Except.bind, pure, Except.pure]

theorem takeNewest_of_borrowed (hb : registry.borrow ≠ .free) :
    registry.takeNewest = .error ⟨.drain, registry.borrow⟩ := by
  simp [takeNewest, toWrite, hb, bind, Except.bind]

theorem exists_takeNewest (hb : registry.borrow = .free) :
    ∃ resource? after, registry.takeNewest = .ok (resource?, after) := by
  cases hl : registry.live with
  | nil => exact ⟨_, _, takeNewest_nil hb hl⟩
  | cons entry older => exact ⟨_, _, takeNewest_cons hb hl⟩

theorem exists_isAlive (hb : registry.borrow ≠ .exclusive) (id : ResourceId) :
    ∃ alive, registry.isAlive id = .ok alive := by
  have ht : registry.toRead = .ok () := if_neg hb
  by_cases hr : id.registry = registry.id
  · exact ⟨_, by simp [isAlive, hr, ht, bind, Except.bind, pure, Except.pure]; rfl⟩
  · exact ⟨false, by simp [isAlive, hr, pure, Except.pure]⟩

theorem exists_take (hb : registry.borrow = .free) (id : ResourceId) :
    ∃ resource? after, registry.take id = .ok (resource?, after) := by
  have hne : registry.borrow ≠ .exclusive := by simp [hb]
  obtain ⟨alive, ha⟩ := exists_isAlive hne id
  have hw : registry.toWrite .take = .ok () := if_pos hb
  cases alive <;> simp [take, ha, hw, bind, Except.bind, pure, Except.pure]

-- Whether or not anything is taken out, the identity is dead afterwards.
theorem isAlive_of_take (hb : registry.borrow = .free) {resource? : Option ρ} {after : Registry ρ}
    (ht : registry.take id = .ok (resource?, after)) : after.isAlive id = .ok false := by
  have hne : registry.borrow ≠ .exclusive := by simp [hb]
  have hw : registry.toWrite .take = .ok () := if_pos hb
  obtain ⟨alive, ha⟩ := exists_isAlive hne id
  cases alive with
  | false =>
      simp only [take, ha, bind, Except.bind, pure, Except.pure, Bool.not_false, if_true,
        Except.ok.injEq, Prod.mk.injEq] at ht
      exact ht.2 ▸ ha
  | true =>
      simp only [take, ha, hw, bind, Except.bind, pure, Except.pure, Bool.not_true,
        Bool.false_eq_true, if_false, Except.ok.injEq, Prod.mk.injEq] at ht
      obtain ⟨-, rfl⟩ := ht
      refine isAlive_of_dead hne fun entry hm hi => ?_
      obtain ⟨-, hs⟩ := List.mem_filter.mp hm
      exact of_decide_eq_true hs (congrArg ResourceId.serial hi)

theorem exists_look (hb : registry.borrow ≠ .exclusive) (id : ResourceId) (view : ρ → Option α) :
    ∃ answer, registry.look id view = .ok answer := by
  have ht : registry.toRead = .ok () := if_neg hb
  by_cases hr : id.registry = registry.id
  · rcases hf : registry.find? id.serial with _ | entry
    · exact ⟨_, by simp [look, hr, ht, hf, bind, Except.bind, pure, Except.pure]; rfl⟩
    · by_cases hk : entry.kind = id.kind
      · rcases hv : view entry.resource with _ | a
        · exact ⟨_, by simp [look, hr, ht, hf, hk, hv, bind, Except.bind, pure, Except.pure]; rfl⟩
        · exact ⟨_, by simp [look, hr, ht, hf, hk, hv, bind, Except.bind, pure, Except.pure]; rfl⟩
      · exact ⟨_, by simp [look, hr, ht, hf, hk, bind, Except.bind, pure, Except.pure]; rfl⟩
  · exact ⟨_, by simp [look, hr, pure, Except.pure]; rfl⟩

-- The registry after one more identity was given out.
def grown (registry : Registry ρ) (count : Nat) (kind : ResourceKind) (resource : ρ) :
    Registry ρ :=
  { registry with
    nextSerial := UInt32.ofNat (count + 2)
    live := ⟨UInt32.ofNat (count + 1), kind, resource⟩ :: registry.live }

theorem toNat_ofNat_of_lt {n : Nat} (hn : n < UInt32.size) : (UInt32.ofNat n).toNat = n :=
  Nat.mod_eq_of_lt hn

theorem eq_of_ofNat {m n : Nat} (hm : m < UInt32.size) (hn : n < UInt32.size)
    (he : UInt32.ofNat m = UInt32.ofNat n) : m = n := by
  rw [← toNat_ofNat_of_lt hm, he, toNat_ofNat_of_lt hn]

theorem Issued.serial_lt (h : Issued registry count) (hc : count + 1 < UInt32.size)
    (hm : entry ∈ registry.live) : entry.serial < UInt32.ofNat (count + 1) := by
  rw [UInt32.lt_iff_toNat_lt, toNat_ofNat_of_lt hc]
  exact Nat.lt_succ_of_le (h.given entry hm).2

theorem Issued.grown (h : Issued registry count) (hc : count + 1 < UInt32.size)
    (kind : ResourceKind) (resource : ρ) :
    Issued (registry.grown count kind resource) (count + 1) where
  next := rfl
  descending := List.pairwise_cons.mpr ⟨fun _ hm => h.serial_lt hc hm, h.descending⟩
  given other hm := by
    rcases List.mem_cons.mp hm with rfl | hm
    · simp only [toNat_ofNat_of_lt hc]
      omega
    · have hg := h.given other hm
      omega

theorem Issued.register_eq (h : Issued registry count) (hc : count + 1 < UInt32.size)
    (hb : registry.borrow = .free) (kind : ResourceKind) (resource : ρ) :
    registry.register kind resource =
      .ok (⟨registry.id, UInt32.ofNat (count + 1), kind⟩, none,
        registry.grown count kind resource) := by
  have hnone : registry.find? registry.nextSerial = none := by
    rcases registry.find?_eq_none_or registry.nextSerial with hf | ⟨entry, hm, hs, -⟩
    · exact hf
    · exact absurd (hs.trans h.next) (UInt32.ne_of_lt (h.serial_lt hc hm))
  have hinsert : insert ⟨registry.nextSerial, kind, resource⟩ registry.live =
      ⟨registry.nextSerial, kind, resource⟩ :: registry.live := by
    rcases hl : registry.live with _ | ⟨newest, older⟩
    · rfl
    · have hlt := h.serial_lt hc (hl ▸ .head _ : newest ∈ registry.live)
      simp only [insert, h.next, hlt, if_true]
  have hnext : registry.nextSerial + 1 = UInt32.ofNat (count + 2) := by
    rw [h.next]
    exact (UInt32.ofNat_add (count + 1) 1).symm
  simp only [register, toWrite, hnone, hinsert, hnext]
  simp [Registry.grown, h.next, hb, bind, Except.bind, pure, Except.pure]

-- The next serial is a new one even if it is the one after the last, which is zero.
theorem Issued.serial_ne (h : Issued registry count) {later : Nat} (hc : count ≤ later)
    (hl : later < UInt32.size) (hm : entry ∈ registry.live) :
    entry.serial ≠ UInt32.ofNat (later + 1) := by
  obtain ⟨hpos, hle⟩ := h.given entry hm
  intro he
  by_cases hn : later + 1 < UInt32.size
  · rw [he, toNat_ofNat_of_lt hn] at hle
    omega
  · have hz : (UInt32.ofNat (later + 1)).toNat = 0 := by
      rw [show later + 1 = UInt32.size by omega]
      rfl
    rw [he, hz] at hpos
    exact Nat.lt_irrefl 0 hpos

theorem insert_perm {live : List (Entry ρ)} (hn : ∀ other ∈ live, other.serial ≠ entry.serial) :
    (insert entry live).Perm (entry :: live) := by
  induction live with
  | nil => exact .refl _
  | cons other rest ih =>
      obtain ⟨hne, hrest⟩ := List.forall_mem_cons.mp hn
      simp only [insert, if_neg hne]
      split
      · exact .refl _
      · exact ((ih hrest).cons other).trans (.swap ..)

-- What is registered joins the others under a serial that none of them has.
theorem Issued.exists_joined (h : Issued registry count) (hc : count < UInt32.size)
    (hb : registry.borrow = .free) (kind : ResourceKind) (resource : ρ) :
    ∃ live, registry.register kind resource = .ok (⟨registry.id, UInt32.ofNat (count + 1), kind⟩,
        none, { registry with nextSerial := UInt32.ofNat (count + 1) + 1, live }) ∧
      live.Perm (⟨UInt32.ofNat (count + 1), kind, resource⟩ :: registry.live) := by
  have hw : registry.toWrite .register = .ok () := if_pos hb
  have hnone : registry.find? (UInt32.ofNat (count + 1)) = none := by
    rcases registry.find?_eq_none_or (UInt32.ofNat (count + 1)) with hf | ⟨entry, hm, hs, -⟩
    · exact hf
    · exact absurd hs (h.serial_ne (Nat.le_refl _) hc hm)
  refine ⟨insert ⟨UInt32.ofNat (count + 1), kind, resource⟩ registry.live, ?_,
    insert_perm fun other ho => h.serial_ne (Nat.le_refl _) hc ho⟩
  simp only [register, h.next, hw, hnone, bind, Except.bind, pure, Except.pure, Option.map_none]

theorem register_of_borrowed (hb : registry.borrow ≠ .free) (kind : ResourceKind) (resource : ρ) :
    registry.register kind resource = .error ⟨.register, registry.borrow⟩ := by
  simp [register, toWrite, hb, bind, Except.bind]

end Operations

end SyntaxHandles.Registry
