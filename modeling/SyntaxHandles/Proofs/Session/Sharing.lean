import SyntaxHandles.Proofs.Session.Moments

-- Who holds an index: the entry of its handle, and units in the same session, all of which were
-- acquired after it.

namespace SyntaxHandles

namespace Native.State

variable {state : State}

theorem unshare_indices (index : Nat) : (state.unshare index).indices = state.indices := by
  simp only [unshare]
  split <;> rfl

theorem release_indices (resource : Resource) :
    (state.release resource).indices = state.indices := by
  cases resource with
  | index index => exact unshare_indices index
  | unit parsed filename index => exact unshare_indices index

theorem Asks.indices {unit : Option Nat} {subject : Option Subject} {after : State}
    (h : state.Asks unit subject after) : after.indices = state.indices := by
  induction h with
  | nothing => rfl
  | call _ _ ih => exact ih
  | string _ ih => exact ih

end Native.State

namespace Thread

variable {key k : Nat} {index : Nat} {serial : UInt32} {s t : Thread}

-- An index was made for a session, with a handle under this serial.
structure Homed (thread : Thread) (key : Nat) (serial : UInt32) (index : Nat) : Prop where
  made : index ≤ thread.native.indices
  given : serial.toNat ≤ thread.tracked key
  holders : ∀ k, ∀ entry ∈ (thread.sessions k).live, entry.resource.holds index = true →
    k = key ∧ (entry = ⟨serial, .index, .index index⟩ ∨
      entry.resource.kind = .translationUnit ∧ serial < entry.serial)

def Housed (thread : Thread) : Prop :=
  ∀ index, index ≤ thread.native.indices → ∃ key serial, thread.Homed key serial index

section Holders

theorem Sound.started_of_mem (hs : s.Sound) {entry : Entry Resource}
    (hm : entry ∈ (s.sessions k).live) : k ≤ s.started := by
  by_contra hn
  rw [hs.unstarted k (Nat.lt_of_not_le hn)] at hm
  exact List.not_mem_nil hm

theorem Sound.mem_held (hs : s.Sound) {entry : Entry Resource}
    (hm : entry ∈ (s.sessions k).live) : entry.resource ∈ s.held :=
  (held_perm (hs.started_of_mem hm)).mem_iff.mpr
    (List.mem_append_left _ (List.mem_map_of_mem hm))

theorem exists_entry_of_mem_held {resource : Resource} (hm : resource ∈ s.held) :
    ∃ k, ∃ entry ∈ (s.sessions k).live, entry.resource = resource := by
  obtain ⟨k, -, hm⟩ := List.mem_flatMap.mp hm
  obtain ⟨entry, hm, he⟩ := List.mem_map.mp hm
  exact ⟨k, entry, hm, he⟩

theorem Sound.indexAlive_iff (hs : s.Sound) : Native.IndexAlive s.native.log index ↔
    ∃ k, ∃ entry ∈ (s.sessions k).live, entry.resource.holds index = true := by
  rw [hs.accounts.indexAlive, hs.accounts.shares, List.countP_pos_iff]
  constructor
  · rintro ⟨resource, hheld, hh⟩
    obtain ⟨k, entry, hm, rfl⟩ := exists_entry_of_mem_held hheld
    exact ⟨k, entry, hm, hh⟩
  · rintro ⟨k, entry, hm, hh⟩
    exact ⟨entry.resource, hs.mem_held hm, hh⟩

theorem Sound.index_le (hs : s.Sound) {entry : Entry Resource}
    (hm : entry ∈ (s.sessions k).live) (hh : entry.resource.holds index = true) :
    index ≤ s.native.indices :=
  hs.accounts.indices index (hs.indexAlive_iff.mpr ⟨k, entry, hm, hh⟩).1

end Holders

section Changes

variable {native : Native.State} {registry : Registry Resource}

-- While serials last, a new resource displaces no other.
theorem Sound.grown_of_register (hs : s.Sound) (hr : s.Ready) {kind : ResourceKind}
    {resource : Resource} {id : ResourceId} {displaced : Option Resource}
    (few : ((s.withNative native).owning k registry displaced).Few)
    (register : (s.sessions k).register kind resource = .ok (id, displaced, registry)) :
    s.tracked k + 1 < UInt32.size ∧
      id = ⟨(s.sessions k).id, UInt32.ofNat (s.tracked k + 1), kind⟩ ∧ displaced = none ∧
      registry = (s.sessions k).grown (s.tracked k) kind resource := by
  have hk := few k
  rw [owning_tracked] at hk
  rw [(hs.issued k).register_eq hk (hr.free k)] at register
  simp only [Except.ok.injEq, Prod.mk.injEq] at register
  obtain ⟨hid, hdisplaced, hregistry⟩ := register
  exact ⟨hk, hid.symm, hdisplaced.symm, hregistry.symm⟩

theorem Homed.of_native (h : s.Homed key serial index) (hi : native.indices = s.native.indices) :
    (s.withNative native).Homed key serial index :=
  ⟨hi.symm ▸ h.made, h.given, h.holders⟩

theorem Homed.of_sublist (h : s.Homed key serial index)
    (hl : registry.live.Sublist (s.sessions k).live) (hi : native.indices = s.native.indices) :
    ((s.withSession k registry).withNative native).Homed key serial index where
  made := hi.symm ▸ h.made
  given := h.given
  holders k' entry hm hh := by
    by_cases hk : k' = k
    · subst hk
      rw [withNative_sessions, withSession_sessions] at hm
      exact h.holders k' entry (hl.subset hm) hh
    · rw [withNative_sessions, withSession_sessions_of_ne hk] at hm
      exact h.holders k' entry hm hh

-- A new resource that holds the index is a unit in the session of the index.
theorem Homed.of_grown (h : s.Homed key serial index) {kind : ResourceKind} {resource : Resource}
    (few : s.tracked k + 1 < UInt32.size) (hi : s.native.indices ≤ native.indices)
    (hnew : resource.holds index = true → k = key ∧ resource.kind = .translationUnit) :
    ((s.withNative native).owning k ((s.sessions k).grown (s.tracked k) kind resource)
      none).Homed key serial index where
  made := Nat.le_trans h.made hi
  given := by
    by_cases hk : key = k
    · rw [hk, owning_tracked]
      exact Nat.le_succ_of_le (hk ▸ h.given)
    · rw [owning_tracked_of_ne hk]
      exact h.given
  holders k' entry hm hh := by
    by_cases hk : k' = k
    · subst hk
      rw [owning_sessions] at hm
      rcases List.mem_cons.mp hm with rfl | hm
      · obtain ⟨rfl, hkind⟩ := hnew hh
        refine ⟨rfl, .inr ⟨hkind, ?_⟩⟩
        rw [UInt32.lt_iff_toNat_lt, Registry.toNat_ofNat_of_lt few]
        exact Nat.lt_succ_of_le h.given
      · exact h.holders k' entry hm hh
    · rw [owning_sessions_of_ne hk] at hm
      exact h.holders k' entry hm hh

theorem Homed.changes (hs : s.Sound) (hr : s.Ready) (few : t.Few)
    (hc : Session.Changes k s t) (h : s.Homed key serial index) : t.Homed key serial index := by
  cases hc with
  | nothing => exact h
  | asked mem unit asks => exact h.of_native asks.indices
  | noIndex exclude display => exact h.of_native rfl
  | notParsed mem is => exact h.of_native (Native.State.unshare_indices _)
  | noUnit mem is filename args count flags code =>
      exact h.of_native (Native.State.unshare_indices _)
  | madeIndex register =>
      obtain ⟨hk, -, rfl, rfl⟩ := hs.grown_of_register hr few register
      refine h.of_grown hk (Nat.le_succ _) fun hh => ?_
      have hi : s.native.indices + 1 = index := by simpa [Resource.holds] using hh
      have hmade := h.made
      omega
  | @madeUnit entry other root filename args count flags code id displaced registry mem is register =>
      obtain ⟨hk, -, rfl, rfl⟩ := hs.grown_of_register hr few register
      refine h.of_grown hk (Nat.le_refl _) fun hh => ⟨?_, rfl⟩
      -- the index that it was parsed with has its entry in this session
      refine (h.holders k entry mem ?_).1
      rw [is]
      exact hh
  | disposed take =>
      exact h.of_sublist ((hs.issued k).loses_of_take (hr.free k) take).sublist
        (Native.State.release_indices _)
  | drained take =>
      exact h.of_sublist (Registry.loses_of_takeNewest take).sublist
        (Native.State.release_indices _)

-- The index that was made last is held by its handle alone.
theorem Sound.homed_made (hs : s.Sound) (few : s.tracked k + 1 < UInt32.size)
    (exclude display : Bool) :
    ((s.withNative (s.native.makeIndex exclude display)).owning k
      ((s.sessions k).grown (s.tracked k) .index (.index (s.native.indices + 1))) none).Homed k
        (UInt32.ofNat (s.tracked k + 1)) (s.native.indices + 1) where
  made := Nat.le_refl _
  given := by rw [owning_tracked, Registry.toNat_ofNat_of_lt few]; exact Nat.le_refl _
  holders k' entry hm hh := by
    have hnone : entry ∉ (s.sessions k').live := fun hm => by
      have hle := hs.index_le hm hh
      omega
    by_cases hk : k' = k
    · subst hk
      rw [owning_sessions] at hm
      exact ⟨rfl, .inl ((List.mem_cons.mp hm).resolve_right hnone)⟩
    · rw [owning_sessions_of_ne hk] at hm
      exact absurd hm hnone

theorem Housed.changes (hs : s.Sound) (hr : s.Ready) (few : t.Few)
    (hc : Session.Changes k s t) (h : s.Housed) : t.Housed := by
  intro index hi
  by_cases hold : index ≤ s.native.indices
  · obtain ⟨key, serial, hh⟩ := h index hold
    exact ⟨key, serial, hh.changes hs hr few hc⟩
  · cases hc with
    | nothing => exact absurd hi hold
    | asked _ _ asks => exact absurd (asks.indices ▸ hi) hold
    | noIndex => exact absurd hi hold
    | notParsed | noUnit =>
        rw [withNative_native, Native.State.unshare_indices] at hi
        exact absurd hi hold
    | @madeIndex exclude display id displaced registry register =>
        obtain ⟨hk, -, rfl, rfl⟩ := hs.grown_of_register hr few register
        have hle : index ≤ s.native.indices + 1 := hi
        obtain rfl : index = s.native.indices + 1 := by omega
        exact ⟨k, _, hs.homed_made hk exclude display⟩
    | madeUnit mem is register =>
        obtain ⟨hk, -, rfl, rfl⟩ := hs.grown_of_register hr few register
        exact absurd hi hold
    | disposed | drained =>
        rw [withNative_native, Native.State.release_indices] at hi
        exact absurd hi hold

-- Neither depends on who holds which sessions.
theorem Homed.of_same (hsessions : t.sessions = s.sessions) (htracked : t.tracked = s.tracked)
    (hnative : t.native = s.native) (h : s.Homed key serial index) : t.Homed key serial index :=
  ⟨hnative ▸ h.made, htracked ▸ h.given, hsessions ▸ h.holders⟩

theorem Housed.of_same (hsessions : t.sessions = s.sessions) (htracked : t.tracked = s.tracked)
    (hnative : t.native = s.native) (h : s.Housed) : t.Housed := fun index hi => by
  obtain ⟨key, serial, hh⟩ := h index (hnative ▸ hi)
  exact ⟨key, serial, hh.of_same hsessions htracked hnative⟩

theorem Homed.reaches (hr : s.Ready) (hs : s.Sound) (h : Reaches s t) (few : t.Few)
    (hh : s.Homed key serial index) : t.Homed key serial index :=
  h.keeps (P := fun thread => thread.Homed key serial index)
    (fun hs hr few hc => Homed.changes hs hr few hc) Homed.of_same hr hs few hh

theorem Housed.reaches (h : Reaches {} t) (few : t.Few) : t.Housed := by
  refine h.keeps (P := Housed) (fun hs hr few hc => Housed.changes hs hr few hc) Housed.of_same
    ready_new sound_new few fun index hi => ?_
  exact ⟨0, 0, hi, Nat.le_refl 0, fun k entry hm => nomatch hm⟩

end Changes

end Thread

end SyntaxHandles
