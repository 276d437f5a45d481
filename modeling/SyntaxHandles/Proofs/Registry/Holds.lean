import SyntaxHandles.Proofs.Registry.Growth
import SyntaxHandles.Proofs.Registry.Kept

-- What a part of a run comes to, as long as no registry runs out of identities and no body of a
-- look changes the entries that it looks at.

namespace SyntaxHandles.RegistryScript

open Effect

-- No registry has given out all its identities.
def Few (history : List Event) : Prop :=
  ∀ key, registrations history key < UInt32.size

-- A body of a look changes the entries of the registry that it looks into.
def Stop.Breach (stop : Stop) : Prop :=
  ∃ access others, access ≠ .read ∧ stop = .conflict ⟨access, .shared others⟩

theorem Few.of_suffix {earlier history : List Event} (h : Few history)
    (hs : earlier <:+ history) : Few earlier := fun key =>
  Nat.lt_of_le_of_lt (registrations_le hs key) (h key)

-- A part comes to its end with what `Q` says, or there is a breach.
def Holds {α : Type} (x : Run α) (store : Store) (Q : α → Store → Prop) : Prop :=
  Few (x.run store).2.history →
    match x.run store with
    | (.ok a, after) => Q a after
    | (.error stop, _) => stop.Breach

namespace Holds

variable {α β : Type} {x : Run α} {f : α → Run β} {store after : Store} {a : α}
  {Q : α → Store → Prop} {R : β → Store → Prop}

theorem of_run (hr : x.run store = (.ok a, after)) (hq : Few after.history → Q a after) :
    Holds x store Q := by
  rw [Holds, hr]
  exact hq

theorem pure (hq : Q a store) : Holds (pure a) store Q := of_run (run_pure a store) fun _ => hq

theorem mono {Q' : α → Store → Prop} (h : Holds x store Q)
    (hq : ∀ a after, Q a after → Q' a after) : Holds x store Q' := by
  intro hf
  have hx := h hf
  rcases hr : x.run store with ⟨_ | a, after⟩ <;> rw [hr] at hx
  · exact hx
  · exact hq a after hx

theorem bind (h : Holds x store fun a after => Holds (f a) after R) (hg : ∀ a, Grows (f a)) :
    Holds (x >>= f) store R := by
  rw [Holds, run_bind]
  intro hf
  rcases hr : x.run store with ⟨stop | a, after⟩ <;> rw [Holds, hr] at h
  · rw [hr] at hf
    exact h hf
  · rw [hr] at hf
    exact h (hf.of_suffix (hg a after)) hf

-- A last part that only puts results together.
theorem map {g : α → β} (h : Holds x store fun a after => R (g a) after) :
    Holds (x >>= fun a => Pure.pure (g a)) store R :=
  (h.mono fun _ _ hq => Holds.pure hq).bind fun _ => .pure _

-- A first part of which it is known what it does.
theorem next (hr : x.run store = (.ok a, after)) (h : Holds (f a) after R) :
    Holds (x >>= f) store R := by
  rw [Holds, run_bind, hr]
  exact h

-- As before, where it matters that there are still identities left.
theorem next_few (hr : x.run store = (.ok a, after)) (hg : Grows (f a))
    (h : Few after.history → Holds (f a) after R) : Holds (x >>= f) store R := by
  refine next hr fun hf => ?_
  exact h (hf.of_suffix (hg after)) hf

theorem breach {stop : Stop} (hr : x.run store = (.error stop, after)) (hb : stop.Breach) :
    Holds (x >>= f) store R := by
  rw [Holds, run_bind, hr]
  exact fun _ => hb

theorem ends_or_breach (h : Holds x store Q) (hf : Few (x.run store).2.history) :
    (∃ a after, x.run store = (.ok a, after) ∧ Q a after) ∨
      ∃ stop after, x.run store = (.error stop, after) ∧ stop.Breach := by
  have hx := h hf
  rcases hr : x.run store with ⟨stop | a, after⟩ <;> rw [hr] at hx
  · exact .inr ⟨stop, after, rfl, hx⟩
  · exact .inl ⟨a, after, rfl, hx⟩

end Holds

section Parts

variable {context : Context} {budget : Nat} {store : Store} {key : Nat}

-- A part of a step works on a registry that the step holds.
theorem holds_within {label : String} {letGo : Nat → Run (List Release)}
    {part : Nat → Run Report} {more : Nat} (h : Kept context none budget store)
    (hb : budget ≤ more) (hg : ∀ key, Grows (letGo key))
    (hp : ∀ key before, Kept (context.entering key) none budget before →
      Holds (part key) before fun _ after => Kept (context.entering key) none more after)
    (hl : ∀ key before, Kept (context.entering key) none more before →
      Holds (letGo key) before fun _ after => Kept context none more after) :
    Holds (within label letGo part) store fun _ after => Kept context none more after := by
  refine .next (run_keyOf? label store) ?_
  cases hk : store.labels.lookup label with
  | none => exact .pure (h.mono hb)
  | some key =>
      have hr : (hold key).run store = (.ok (), store.holding key) := rfl
      refine .next hr ?_
      refine .bind ((hp key _ (h.hold_of_lookup hk)).mono fun report after ha => ?_) fun ⟨_, _, _⟩ =>
        (hg key).bind fun _ => .pure _
      obtain ⟨outcome, inner, released⟩ := report
      exact .map (hl key after ha)

theorem holds_withName {name : String} {part : ResourceId → Run Report}
    {Q : Report → Store → Prop} (hn : Q (report .noName) store)
    (hp : ∀ id, Holds (part id) store Q) : Holds (withName name part) store Q := by
  refine .next (run_get store) ?_
  split
  · exact .pure hn
  · exact hp _

end Parts

end SyntaxHandles.RegistryScript
