import SyntaxHandles.Registry.Run
import SyntaxHandles.Proofs.Registry.Issued
import SyntaxHandles.Proofs.Registry.Lawful

-- What the history of a store tells about its registries: which entries they have, and what has
-- become of everything that was built.

namespace SyntaxHandles.RegistryScript

namespace Store

def noted (store : Store) (event : Event) : Store :=
  { store with history := event :: store.history }

def withRegistry (store : Store) (key : Nat) (registry : Registry Resource) : Store :=
  { store with registries := fun k => if k = key then registry else store.registries k }

@[simp] theorem noted_history (store : Store) (event : Event) :
    (store.noted event).history = event :: store.history := rfl

@[simp] theorem noted_registries (store : Store) (event : Event) :
    (store.noted event).registries = store.registries := rfl

@[simp] theorem noted_built (store : Store) (event : Event) :
    (store.noted event).built = store.built := rfl

@[simp] theorem withRegistry_history (store : Store) (key : Nat) (registry : Registry Resource) :
    (store.withRegistry key registry).history = store.history := rfl

@[simp] theorem withRegistry_built (store : Store) (key : Nat) (registry : Registry Resource) :
    (store.withRegistry key registry).built = store.built := rfl

theorem withRegistry_same (store : Store) (key : Nat) (registry : Registry Resource) :
    (store.withRegistry key registry).registries key = registry :=
  if_pos rfl

theorem withRegistry_of_ne {store : Store} {key k : Nat} {registry : Registry Resource}
    (hk : k ≠ key) : (store.withRegistry key registry).registries k = store.registries k :=
  if_neg hk

end Store

-- One resource may be on its way: built but not registered yet, or without its entry but not
-- released yet. All others are told by the history.
structure Recorded (onWay : Option Nat) (store : Store) : Prop where
  lawful : Lawful store.history
  issued : ∀ key, (store.registries key).Issued (registrations store.history key)
  serials : ∀ key n id, .registered key n id ∈ store.history →
    id.serial.toNat ≤ registrations store.history key
  stored : ∀ key n id, Alive store.history key n id ↔
    ∃ entry ∈ (store.registries key).live,
      entry.resource.number = n ∧ (store.registries key).identity entry = id
  built : ∀ n, .built n ∈ store.history ↔ n < store.built
  settled : ∀ n, .built n ∈ store.history → .released n ∈ store.history ∨
    (∃ key id, Alive store.history key n id) ∨ onWay = some n

namespace Recorded

variable {onWay : Option Nat} {store : Store} {key : Nat} {entry : Entry Resource}

theorem congr (h : Recorded onWay store) {after : Store} (hh : after.history = store.history)
    (hr : after.registries = store.registries) (hb : after.built = store.built) :
    Recorded onWay after where
  lawful := hh ▸ h.lawful
  issued := by
    rw [hh, hr]
    exact h.issued
  serials := by
    rw [hh]
    exact h.serials
  stored := by
    rw [hh, hr]
    exact h.stored
  built := by
    rw [hh, hb]
    exact h.built
  settled := by
    rw [hh]
    exact h.settled

-- Which accesses are under way tells nothing about the entries.
theorem borrowed (h : Recorded onWay store) (key : Nat) (borrow : Borrow) :
    Recorded onWay (store.withRegistry key { store.registries key with borrow }) where
  lawful := h.lawful
  issued k := by
    by_cases hk : k = key
    · subst hk
      rw [store.withRegistry_same]
      exact ⟨(h.issued k).next, (h.issued k).descending, (h.issued k).given⟩
    · rw [Store.withRegistry_of_ne hk]
      exact h.issued k
  serials := h.serials
  stored k n id := by
    by_cases hk : k = key
    · subst hk
      rw [store.withRegistry_same]
      exact h.stored k n id
    · rw [Store.withRegistry_of_ne hk]
      exact h.stored k n id
  built := h.built
  settled := h.settled

theorem alive_of_mem (h : Recorded onWay store) (hm : entry ∈ (store.registries key).live) :
    Alive store.history key entry.resource.number ((store.registries key).identity entry) :=
  (h.stored key _ _).mpr ⟨entry, hm, rfl, rfl⟩

theorem eq_of_number (h : Recorded onWay store) {other : Entry Resource}
    (hm : entry ∈ (store.registries key).live) (ho : other ∈ (store.registries key).live)
    (hn : other.resource.number = entry.resource.number) : other = entry := by
  have ha := (h.alive_of_mem ho).1
  rw [hn] at ha
  exact (h.issued key).eq_of_identity ho hm (h.lawful.registered_unique ha (h.alive_of_mem hm).1).2

theorem dead_iff (h : Recorded onWay store) {id : ResourceId} :
    (store.registries key).Dead id ↔ ∀ n, ¬Alive store.history key n id := by
  constructor
  · intro hd n ha
    obtain ⟨entry, hm, -, hi⟩ := (h.stored key n id).mp ha
    exact hd entry hm hi
  · intro hn entry hm hi
    exact hn _ (hi ▸ h.alive_of_mem hm)

-- A registry says of an identity what the history says of it.
theorem isAlive_iff (h : Recorded onWay store)
    (hb : (store.registries key).borrow ≠ .exclusive) (id : ResourceId) :
    (store.registries key).isAlive id = .ok true ↔ ∃ n, Alive store.history key n id := by
  rw [(h.issued key).isAlive_iff hb]
  constructor
  · rintro ⟨entry, hm, rfl⟩
    exact ⟨_, h.alive_of_mem hm⟩
  · rintro ⟨n, ha⟩
    obtain ⟨entry, hm, -, hi⟩ := (h.stored key n id).mp ha
    exact ⟨entry, hm, hi⟩

theorem note_mute (h : Recorded onWay store) {event : Event} (hm : event.Mute)
    (ha : event.Allowed store.history) : Recorded onWay (store.noted event) where
  lawful := ⟨ha, h.lawful⟩
  issued key := hm.registrations_eq.symm ▸ h.issued key
  serials key n id hr := by
    rw [Store.noted_history, hm.registrations_eq]
    exact h.serials key n id ((hm.mem_iff (by simp [Event.Mute])).mp hr)
  stored key n id := hm.alive_iff.trans (h.stored key n id)
  built n := (hm.mem_iff (by simp [Event.Mute])).trans (h.built n)
  settled n hb := by
    have hr : .released n ∈ event :: store.history ↔ .released n ∈ store.history :=
      hm.mem_iff (by simp [Event.Mute])
    simp only [Store.noted_history, hm.alive_iff, hr]
    exact h.settled n ((hm.mem_iff (by simp [Event.Mute])).mp hb)

theorem not_built (h : Recorded onWay store) : .built store.built ∉ store.history := fun hb =>
  Nat.lt_irrefl _ ((h.built _).mp hb)

theorem build (h : Recorded none store) :
    Recorded (some store.built)
      (({ store with built := store.built + 1 } : Store).noted (.built store.built)) where
  lawful := ⟨h.not_built, h.lawful⟩
  issued := h.issued
  serials key n id hr := h.serials key n id (by simpa using hr)
  stored key n id := by simpa [Alive] using h.stored key n id
  built n := by
    have hb := h.built n
    simp only [Store.noted_history, Store.noted_built, List.mem_cons, Event.built.injEq, hb]
    omega
  settled n hb := by
    by_cases hn : n = store.built
    · exact .inr (.inr (congrArg some hn.symm))
    · have hb : .built n ∈ store.history := by simpa [hn] using hb
      rcases h.settled n hb with hr | ⟨key, id, ha⟩ | hnone
      · exact .inl (.tail _ hr)
      · exact .inr (.inl ⟨key, id, by simpa [Alive] using ha⟩)
      · exact absurd hnone.symm (Option.some_ne_none n)

theorem release {n : Nat} (h : Recorded (some n) store) (hl : Loose store.history n) :
    Recorded none (store.noted (.released n)) where
  lawful := ⟨hl, h.lawful⟩
  issued := h.issued
  serials key m id hr := h.serials key m id (by simpa using hr)
  stored key m id := by simpa [Alive] using h.stored key m id
  built m := by simpa using h.built m
  settled m hb := by
    rcases h.settled m (by simpa using hb) with hr | ⟨key, id, ha⟩ | hway
    · exact .inl (.tail _ hr)
    · exact .inr (.inl ⟨key, id, by simpa [Alive] using ha⟩)
    · obtain rfl := Option.some.inj hway
      exact .inl (.head _)

theorem lose (h : Recorded none store) {after : Registry Resource}
    (hm : entry ∈ (store.registries key).live)
    (hp : (store.registries key).live.Perm (entry :: after.live))
    (hs : after.live.Sublist (store.registries key).live)
    (he : after = { store.registries key with live := after.live }) :
    Recorded (some entry.resource.number)
      ((store.withRegistry key after).noted (.taken key entry.resource.number)) where
  lawful := ⟨⟨_, h.alive_of_mem hm⟩, h.lawful⟩
  issued k := by
    by_cases hk : k = key
    · subst hk
      simp only [Store.noted_registries, Store.withRegistry_same]
      rw [he]
      exact (h.issued k).of_sublist hs
    · simp only [Store.noted_registries, Store.withRegistry_of_ne hk]
      exact h.issued k
  serials k n id hr := h.serials k n id (by simpa using hr)
  stored k n id := by
    simp only [Store.noted_history, Store.withRegistry_history, Store.noted_registries, alive_taken]
    by_cases hk : k = key
    · subst hk
      have hnodup := hp.nodup_iff.mp (Registry.Descending.nodup (h.issued k).descending)
      have hnot : entry ∉ after.live := (List.nodup_cons.mp hnodup).1
      have hid (other : Entry Resource) :
          after.identity other = (store.registries k).identity other := by
        rw [he]
        rfl
      simp only [Store.withRegistry_same, hid, true_and]
      constructor
      · rintro ⟨ha, hn⟩
        obtain ⟨other, ho, rfl, hi⟩ := (h.stored k n id).mp ha
        rcases List.mem_cons.mp (hp.mem_iff.mp ho) with rfl | ho
        · exact absurd rfl hn
        · exact ⟨other, ho, rfl, hi⟩
      · rintro ⟨other, ho, rfl, rfl⟩
        refine ⟨h.alive_of_mem (hs.subset ho), fun hn => ?_⟩
        exact hnot (h.eq_of_number hm (hs.subset ho) hn ▸ ho)
    · simp only [Store.withRegistry_of_ne hk, hk, false_and, not_false_eq_true, and_true]
      exact h.stored k n id
  built n := by simpa using h.built n
  settled n hb := by
    simp only [Store.noted_history, Store.withRegistry_history, alive_taken]
    rcases h.settled n (by simpa using hb) with hr | ⟨k, id, ha⟩ | hnone
    · exact .inl (.tail _ hr)
    · by_cases hn : k = key ∧ n = entry.resource.number
      · exact .inr (.inr (congrArg some hn.2.symm))
      · exact .inr (.inl ⟨k, id, ha, hn⟩)
    · exact nomatch hnone

-- A resource is registered under an identity that was never given out before.
theorem register {resource : Resource} {count : Nat} (kind : ResourceKind)
    (h : Recorded (some resource.number) store) (hl : Loose store.history resource.number)
    (hnew : ∀ k i, .registered k resource.number i ∉ store.history)
    (hcount : count = registrations store.history key) (hc : count + 1 < UInt32.size) :
    Recorded none
      ((store.withRegistry key ((store.registries key).grown count kind resource)).noted
        (.registered key resource.number
          ⟨(store.registries key).id, UInt32.ofNat (count + 1), kind⟩)) where
  lawful := by
    refine ⟨⟨hl, hnew, fun n hr => ?_⟩, h.lawful⟩
    have hs := h.serials key n _ hr
    rw [Registry.toNat_ofNat_of_lt hc] at hs
    omega
  issued k := by
    simp only [Store.noted_history, Store.withRegistry_history, registrations_registered,
      Store.noted_registries]
    by_cases hk : k = key
    · subst hk
      rw [Store.withRegistry_same, if_pos rfl, ← hcount]
      exact (hcount ▸ h.issued k).grown hc kind resource
    · rw [Store.withRegistry_of_ne hk, if_neg (Ne.symm hk)]
      exact h.issued k
  serials k n id hr := by
    simp only [Store.noted_history, Store.withRegistry_history, registrations_registered]
    rcases List.mem_cons.mp hr with he | hr
    · injection he with hk _ hi
      rw [hk, hi, Registry.toNat_ofNat_of_lt hc, if_pos rfl]
      omega
    · exact Nat.le_add_right_of_le (h.serials k n id hr)
  stored k n id := by
    have hfresh : ∀ k, .taken k resource.number ∉ store.history := fun k ht => by
      obtain ⟨i, hr⟩ := h.lawful.registered_of_taken ht
      exact hnew k i hr
    simp only [Store.noted_history, Store.withRegistry_history, Store.noted_registries,
      alive_registered, h.stored]
    by_cases hk : k = key
    · subst hk
      simp only [Store.withRegistry_same, Registry.grown, List.mem_cons, exists_eq_or_imp]
      refine or_congr ?_ Iff.rfl
      constructor
      · rintro ⟨⟨-, rfl, rfl⟩, -⟩
        exact ⟨rfl, rfl⟩
      · rintro ⟨rfl, rfl⟩
        exact ⟨⟨trivial, rfl, rfl⟩, hfresh k⟩
    · simp only [Store.withRegistry_of_ne hk, hk, false_and, false_or]
  built n := by simpa using h.built n
  settled n hb := by
    simp only [Store.noted_history, Store.withRegistry_history, alive_registered]
    rcases h.settled n (by simpa using hb) with hr | ⟨k, id, ha⟩ | hway
    · exact .inl (.tail _ hr)
    · exact .inr (.inl ⟨k, id, .inr ha⟩)
    · obtain rfl := Option.some.inj hway
      have hfresh : .taken key resource.number ∉ store.history := fun ht => by
        obtain ⟨i, hr⟩ := h.lawful.registered_of_taken ht
        exact hnew key i hr
      exact .inr (.inl ⟨key, _, .inl ⟨⟨rfl, rfl, rfl⟩, hfresh⟩⟩)

end Recorded

end SyntaxHandles.RegistryScript
