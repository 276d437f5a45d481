import SyntaxHandles.Proofs.Registry.Collection
import SyntaxHandles.Proofs.Registry.Frame

-- Registries have nothing to do with one another. Serials are the same in all of them, so an
-- identity is told from that of another registry by its number, before anything else is asked.

namespace SyntaxHandles

-- An identity is refused without a look at the entries, whatever is under way, and nothing changes.
structure Registry.Rejects {ρ : Type} (registry : Registry ρ) (id : ResourceId) : Prop where
  isAlive : registry.isAlive id = .ok false
  take : registry.take id = .ok (none, registry)
  look : ∀ (α : Type) (view : ρ → Option α),
    registry.look id view = .ok (.error (.invalidHandle id Refusal.otherSession))
  unwrap : ∀ (ν : Type) (raw : ν), (Token.wrap raw id).unwrap registry =
    .ok (.error (.invalidHandle id
      (if id.kind = .translationUnit then Refusal.unitGone else Refusal.notOwnedByUnit)))

theorem Registry.rejects_of_foreign {ρ : Type} {registry : Registry ρ} {id : ResourceId}
    (h : id.registry ≠ registry.id) : registry.Rejects id := by
  have ha : registry.isAlive id = .ok false := by simp [isAlive, h, pure, Except.pure]
  refine ⟨ha, ?_, fun α view => look_of_foreign h view, fun ν raw => ?_⟩
  · simp [take, ha, bind, Except.bind, pure, Except.pure]
  · rw [Collection.unwrap_eq ha]
    split <;> rfl

namespace RegistryScript

open Effect Relation

section Steps

variable {store : Store} {key : Nat} {name : String} {id : ResourceId}

theorem run_withName {part : ResourceId → Run Report} (hn : store.names.lookup name = some id) :
    (withName name part).run store = (part id).run store := by
  rw [withName, run_bind, run_get]
  simp only [hn]

theorem run_isAlive_of_rejects (h : (store.registries key).Rejects id)
    (hn : store.names.lookup name = some id) (fuel : Nat) :
    (Work.run fuel key (.isAlive name)).run store =
      (.ok (report (.flag false)), store.noted (.asked key id false)) := by
  rw [Work.run, run_withName hn, run_bind, run_ask_ok (·.isAlive id) h.isAlive]
  rfl

theorem run_dispose_of_rejects (h : (store.registries key).Rejects id)
    (hn : store.names.lookup name = some id) (fuel : Nat) :
    (Work.run fuel key (.dispose name)).run store =
      (.ok (report (.flag false)), store.noted (.disposed key id none)) := by
  rw [Work.run, run_withName hn, run_bind, run_takeOut_none (·.take id) h.take, withRegistry_self]
  rfl

-- The body does not run.
theorem run_look_of_rejects (h : (store.registries key).Rejects id)
    (hn : store.names.lookup name = some id) (fuel : Nat) (asText : Bool) (body : List Step) :
    (Work.run fuel key (.look name asText body)).run store =
      (.ok (report (.fault (.invalidHandle id Refusal.otherSession))), store) := by
  rw [Work.run, run_withName hn, run_bind,
    run_ask_ok (·.look id (Resource.isOfType asText)) (h.look _ _)]
  rfl

end Steps

-- Every store in the course of a script is one that the first one led to.
theorem Within.frames {first : String} {steps : List Step} {call : Call}
    (h : Within first steps call) : call.Placed ∧ Frames (fun _ => True) {} call.store := by
  induction h with
  | refl => exact ⟨⟨nofun, nofun⟩, .refl _ _⟩
  | tail _ last ih =>
      obtain ⟨hp, hf⟩ := ih
      have hstep := last.frames hp fun inner _ hi => hi.stays _ fun _ _ _ _ => trivial
      exact ⟨last.placed hp hstep, hf.trans hstep⟩

section Course

variable {first : String} {steps : List Step} {call : Call} {key issuer n : Nat} {id : ResourceId}

theorem Within.id_eq (h : Within first steps call) (key : Nat) :
    (call.store.registries key).id = UInt32.ofNat key :=
  h.frames.2.ids key

theorem Within.registry_eq (h : Within first steps call)
    (hr : .registered issuer n id ∈ call.store.history) :
    issuer ≤ call.store.created ∧ id.registry = UInt32.ofNat issuer :=
  (h.frames.2.issued issuer n id hr).resolve_left nofun

theorem Within.foreign (h : Within first steps call) (made : call.store.created < UInt32.size)
    (hr : .registered issuer n id ∈ call.store.history) (hk : key ≤ call.store.created)
    (hne : issuer ≠ key) : id.registry ≠ UInt32.ofNat key := by
  obtain ⟨hle, hid⟩ := h.registry_eq hr
  rw [hid]
  exact fun he => hne (Registry.eq_of_ofNat (Nat.lt_of_le_of_lt hle made)
    (Nat.lt_of_le_of_lt hk made) he)

end Course

-- At any point of a script, at any depth: the registries that were made have numbers of their own,
-- and no two of them give out the same identity or the same token. Each rejects what another one
-- gave out, and neither of them changes. A part changes no registry that neither it nor anything
-- inside it works on, whether the part comes to its end or not.
theorem registries_are_isolated {first : String} {steps : List Step} {call : Call}
    (within : Within first steps call) (made : call.store.created < UInt32.size) :
    (∀ j k, j ≤ call.store.created → k ≤ call.store.created →
      (call.store.registries j).id = (call.store.registries k).id → j = k) ∧
    (∀ j k m n id id', .registered j m id ∈ call.store.history →
      .registered k n id' ∈ call.store.history → j ≠ k →
      id ≠ id' ∧ ∀ (ν : Type) (raw raw' : ν), Token.wrap raw id ≠ Token.wrap raw' id') ∧
    (∀ key issuer n id, key ≤ call.store.created →
      .registered issuer n id ∈ call.store.history → issuer ≠ key →
      (call.store.registries key).Rejects id ∧
      ∀ name fuel, call.store.names.lookup name = some id →
        (Work.run fuel key (.isAlive name)).run call.store =
          (.ok (report (.flag false)), call.store.noted (.asked key id false)) ∧
        (Work.run fuel key (.dispose name)).run call.store =
          (.ok (report (.flag false)), call.store.noted (.disposed key id none)) ∧
        ∀ asText body, (Work.run fuel key (.look name asText body)).run call.store =
          (.ok (report (.fault (.invalidHandle id Refusal.otherSession))), call.store)) ∧
    (∀ label key, call.store.labels.lookup label = some key → key ≤ call.store.created) ∧
    ∀ key, (∀ inner, ReflTransGen Calls call inner → inner.part.key? ≠ some key) →
      call.ending.2.registries key = call.store.registries key := by
  obtain ⟨placed, -⟩ := within.frames
  refine ⟨fun j k hj hk he => ?_, fun j k m n id id' hj hk hne => ?_,
    fun key issuer n id hk hr hne => ?_, fun label key => placed.of_lookup, fun key hk => ?_⟩
  · rw [within.id_eq, within.id_eq] at he
    exact Registry.eq_of_ofNat (Nat.lt_of_le_of_lt hj made) (Nat.lt_of_le_of_lt hk made) he
  · obtain ⟨hle, hid⟩ := within.registry_eq hk
    have hids : id ≠ id' := by
      rintro rfl
      exact within.foreign made hj hle hne hid
    exact ⟨hids, fun ν raw raw' he => hids (congrArg Token.owner he)⟩
  · have hforeign := within.foreign made hr hk hne
    rw [← within.id_eq] at hforeign
    have hrejects := Registry.rejects_of_foreign hforeign
    exact ⟨hrejects, fun name fuel hn => ⟨run_isAlive_of_rejects hrejects hn fuel,
      run_dispose_of_rejects hrejects hn fuel, run_look_of_rejects hrejects hn fuel⟩⟩
  · refine (placed.stays (· ≠ key) fun inner hi k hkey => ?_).others key (by simp)
    rintro rfl
    exact hk inner hi hkey

-- Two registries that each gave out their first serial, for resources of one kind.
def twins : List Step := [.acquireText "r" "a" .translationUnit, .create "q",
  .acquireText "q" "b" .translationUnit]

-- Each unit is alive in its own registry only.
theorem registries_are_isolated_of_twins : ∃ call, Within "r" twins call ∧
    call.store.created < UInt32.size ∧
    (call.store.registries 1).isAlive ⟨1, 1, .translationUnit⟩ = .ok true ∧
    (call.store.registries 2).isAlive ⟨2, 1, .translationUnit⟩ = .ok true ∧
    (call.store.registries 1).Rejects ⟨2, 1, .translationUnit⟩ := by
  have hall : (match (runSteps (whole "r" twins).fuel twins).run
      ((({} : Store).unbound "r").making "r") with
    | (.ok _, after) => decide (after.created = 2 ∧
        .registered 2 1 ⟨2, 1, .translationUnit⟩ ∈ after.history ∧
        (after.registries 1).isAlive ⟨1, 1, .translationUnit⟩ = .ok true ∧
        (after.registries 2).isAlive ⟨2, 1, .translationUnit⟩ = .ok true)
    | (.error _, _) => false) = true := by decide +kernel
  rcases hr : (runSteps (whole "r" twins).fuel twins).run
    ((({} : Store).unbound "r").making "r") with ⟨_ | reports, after⟩ <;> rw [hr] at hall
  · exact nomatch hall
  obtain ⟨hcreated, given, alive, alive'⟩ := of_decide_eq_true hall
  have made : after.created < UInt32.size := by rw [hcreated]; decide
  have has : 1 ≤ after.created := by rw [hcreated]; decide
  have within : Within "r" twins _ := .single (.ended hr)
  exact ⟨_, within, made, alive, alive',
    ((registries_are_isolated within made).2.2.1 1 2 1 _ has given (by decide)).1⟩

end RegistryScript

end SyntaxHandles
