import SyntaxHandles.Proofs.History
import SyntaxHandles.Registry.Script

-- What may happen to resources and registries, and in which order. A resource has its entry from
-- when it is registered until it is taken, and is released when it has none.

namespace SyntaxHandles.RegistryScript

-- A resource has its entry in a registry, under an identity.
def Alive (history : List Event) (registry resource : Nat) (id : ResourceId) : Prop :=
  .registered registry resource id ∈ history ∧ .taken registry resource ∉ history

-- A resource was built and not released yet, and has no entry.
def Loose (history : List Event) (resource : Nat) : Prop :=
  .built resource ∈ history ∧ .released resource ∉ history ∧
    ∀ registry id, .registered registry resource id ∈ history → .taken registry resource ∈ history

-- Whether an event may follow earlier ones. No resource and no identity is registered twice.
def Event.Allowed (earlier : List Event) : Event → Prop
  | built resource => .built resource ∉ earlier
  | registered registry resource id =>
    Loose earlier resource ∧ (∀ k i, .registered k resource i ∉ earlier) ∧
      ∀ n, .registered registry n id ∉ earlier
  | taken registry resource => ∃ id, Alive earlier registry resource id
  | released resource => Loose earlier resource
  | asked registry id alive => alive = true ↔ ∃ n, Alive earlier registry n id
  | disposed registry id (some resource) =>
    ∃ older, earlier = .taken registry resource :: older ∧ Alive older registry resource id
  | disposed registry id none => ∀ n, ¬Alive earlier registry n id
  | entered .. => True

abbrev Lawful : List Event → Prop :=
  Ordered fun earlier event => event.Allowed earlier

-- An event that neither makes anything nor changes where a resource is.
def Event.Mute : Event → Prop
  | asked .. | disposed .. | entered .. => True
  | _ => False

def Event.registers (key : Nat) : Event → Bool
  | registered registry _ _ => registry = key
  | _ => false

-- How many identities a registry has given out.
def registrations (history : List Event) (key : Nat) : Nat :=
  history.countP (Event.registers key)

section Lawful

variable {history earlier : List Event} {key key' n n' : Nat} {id id' : ResourceId}

theorem Lawful.registered_unique (h : Lawful history) (hr : .registered key n id ∈ history)
    (hr' : .registered key' n id' ∈ history) : key = key' ∧ id = id' := by
  rcases h.earlier_or hr hr' with he | ⟨earlier, -, hm, ha⟩ | ⟨earlier, -, hm, ha⟩
  · injection he with hk _ hi
    exact ⟨hk, hi⟩
  · exact absurd hm (ha.2.1 key id)
  · exact absurd hm (ha.2.1 key' id')

theorem Lawful.identity_unique (h : Lawful history) (hr : .registered key n id ∈ history)
    (hr' : .registered key n' id ∈ history) : n = n' := by
  rcases h.earlier_or hr hr' with he | ⟨earlier, -, hm, ha⟩ | ⟨earlier, -, hm, ha⟩
  · injection he
  · exact absurd hm (ha.2.2 n)
  · exact absurd hm (ha.2.2 n')

theorem Lawful.built_of_registered (h : Lawful history) (hr : .registered key n id ∈ history) :
    .built n ∈ history := by
  obtain ⟨earlier, hs, ha⟩ := h.exists_allowed hr
  exact hs.mem ha.1.1

theorem Lawful.built_of_released (h : Lawful history) (hr : .released n ∈ history) :
    .built n ∈ history := by
  obtain ⟨earlier, hs, ha⟩ := h.exists_allowed hr
  exact hs.mem ha.1

theorem Lawful.registered_of_taken (h : Lawful history) (ht : .taken key n ∈ history) :
    ∃ id, .registered key n id ∈ history := by
  obtain ⟨earlier, hs, id, ha⟩ := h.exists_allowed ht
  exact ⟨id, hs.mem ha.1⟩

-- A resource is released only after its entry is gone.
theorem Lawful.not_released_of_alive (h : Lawful history) (ha : Alive history key n id) :
    .released n ∉ history := by
  intro hr
  rcases h.earlier_or ha.1 hr with he | ⟨earlier, hs, hm, hl⟩ | ⟨earlier, hs, hm, hl⟩
  · exact nomatch he
  · exact ha.2 (hs.mem (hl.2.2 key id hm))
  · exact hl.1.2.1 hm

-- What has just lost its entry may be released.
theorem Lawful.loose_of_taken (h : Lawful history) (ha : Alive history key n id) :
    Loose (.taken key n :: history) n := by
  refine ⟨.tail _ (h.built_of_registered ha.1), ?_, fun k i hr => ?_⟩
  · have hn := h.not_released_of_alive ha
    simpa using hn
  · have hr : .registered k n i ∈ history := by simpa using hr
    rw [(h.registered_unique hr ha.1).1]
    exact .head _

-- What has just been built may be released, or registered.
theorem Lawful.loose_of_built (h : Lawful history) (hb : .built n ∉ history) :
    Loose (.built n :: history) n := by
  refine ⟨.head _, ?_, fun k i hr => ?_⟩
  · have hn : .released n ∉ history := fun hr => hb (h.built_of_released hr)
    simpa using hn
  · have hr : .registered k n i ∈ history := by simpa using hr
    exact absurd (h.built_of_registered hr) hb

-- A resource that was registered loses its entry before it is released. From then on its identity
-- is dead: every question about it is answered so, and nothing is left to dispose of.
theorem Lawful.dead_of_released {later : List Event}
    (h : Lawful (later ++ .released n :: earlier))
    (hr : .registered key n id ∈ later ++ .released n :: earlier) :
    .taken key n ∈ earlier ∧ (∀ alive, .asked key id alive ∈ later → alive = false) ∧
      ∀ taken?, .disposed key id taken? ∈ later → taken? = none := by
  have hloose : Loose earlier n := (h.of_suffix (List.suffix_append later _)).1
  have ht : .taken key n ∈ earlier := by
    rcases List.mem_append.mp hr with hl | he
    · -- nothing is registered after it was released
      obtain ⟨middle, -, hm⟩ := h.allowed_after hl
      have hreleased : .released n ∈ middle ++ .released n :: earlier := by simp
      exact absurd hreleased hm.1.2.1
    · exact hloose.2.2 key id (by simpa using he)
  have hdead {middle : List Event}
      (hs : middle ++ .released n :: earlier <:+ later ++ .released n :: earlier) (m : Nat) :
      ¬Alive (middle ++ .released n :: earlier) key m id := by
    intro ha
    obtain rfl := h.identity_unique (hs.mem ha.1) hr
    exact ha.2 (by simp [ht])
  refine ⟨ht, fun alive hl => ?_, fun taken? hl => ?_⟩
  · obtain ⟨middle, hs, hm⟩ := h.allowed_after hl
    by_contra hn
    obtain ⟨m, ha⟩ := hm.mp (by simpa using hn)
    exact hdead hs m ha
  · obtain ⟨middle, hs, hm⟩ := h.allowed_after hl
    cases taken? with
    | none => rfl
    | some m =>
        obtain ⟨older, he, ha⟩ := hm
        cases middle with
        | nil => exact nomatch he
        | cons newest middle =>
            obtain ⟨rfl, rfl⟩ := List.cons.inj he
            exact absurd ha (hdead ((List.suffix_cons _ _).trans hs) m)

theorem Lawful.count_released_le (h : Lawful history) (n : Nat) :
    history.count (.released n) ≤ 1 :=
  h.count_le_one fun _ ha => ha.2.1

end Lawful

section Mute

variable {history : List Event} {event : Event} {key n : Nat} {id : ResourceId}

theorem Event.Mute.mem_iff (hm : event.Mute) {other : Event} (ho : ¬other.Mute) :
    other ∈ event :: history ↔ other ∈ history := by
  have hne : other ≠ event := by
    rintro rfl
    exact ho hm
  simp only [List.mem_cons, hne, false_or]

theorem Event.Mute.alive_iff (hm : event.Mute) :
    Alive (event :: history) key n id ↔ Alive history key n id := by
  rw [Alive, hm.mem_iff (by simp [Event.Mute]), hm.mem_iff (by simp [Event.Mute]), Alive]

theorem Event.Mute.loose_iff (hm : event.Mute) :
    Loose (event :: history) n ↔ Loose history n := by
  have hr (k : Nat) (i : ResourceId) :
      .registered k n i ∈ event :: history ↔ .registered k n i ∈ history :=
    hm.mem_iff (by simp [Event.Mute])
  have ht (k : Nat) : .taken k n ∈ event :: history ↔ .taken k n ∈ history :=
    hm.mem_iff (by simp [Event.Mute])
  simp only [Loose, hr, ht]
  rw [hm.mem_iff (by simp [Event.Mute]), hm.mem_iff (by simp [Event.Mute])]

theorem Event.Mute.registrations_eq (hm : event.Mute) :
    registrations (event :: history) key = registrations history key := by
  cases event <;> first | rfl | exact hm.elim

end Mute

theorem alive_taken {history : List Event} {key n k m : Nat} {id : ResourceId} :
    Alive (.taken key n :: history) k m id ↔ Alive history k m id ∧ ¬(k = key ∧ m = n) := by
  simp only [Alive, List.mem_cons, reduceCtorEq, false_or, Event.taken.injEq, not_or]
  rw [and_assoc, and_comm (a := ¬(k = key ∧ m = n))]

theorem alive_registered {history : List Event} {key n k m : Nat} {id i : ResourceId} :
    Alive (.registered key n i :: history) k m id ↔
      (k = key ∧ m = n ∧ id = i) ∧ .taken k m ∉ history ∨ Alive history k m id := by
  simp only [Alive, List.mem_cons, reduceCtorEq, false_or, Event.registered.injEq, or_and_right]

theorem registrations_registered (history : List Event) (key n : Nat) (id : ResourceId) (k : Nat) :
    registrations (.registered key n id :: history) k =
      registrations history k + if key = k then 1 else 0 := by
  simp [registrations, List.countP_cons, Event.registers]

-- Registrations are never undone.
theorem registrations_le {earlier history : List Event} (hs : earlier <:+ history) (key : Nat) :
    registrations earlier key ≤ registrations history key :=
  hs.sublist.countP_le

end SyntaxHandles.RegistryScript
