import SyntaxHandles.Proofs.Registry.Calls

-- Where conflicts come from. One that ends a run is one of the registry that some part of the run
-- works on, at an access of that part itself.

namespace SyntaxHandles.RegistryScript

open Effect Relation

-- A part comes into conflict by what it does itself, not by what runs inside it.
inductive Call.Conflicts (conflict : Conflict) : Call → Prop
  | register {fuel looks key name kind resource store}
      (refused : (store.registries key).register kind resource = .error conflict) :
      Conflicts conflict ⟨fuel + 1, looks, .track key name kind resource, store⟩
  | takeNewest {fuel looks key store}
      (refused : (store.registries key).takeNewest = .error conflict) :
      Conflicts conflict ⟨fuel + 1, looks, .drain key, store⟩
  | take {fuel looks key name id store} (named : store.names.lookup name = some id)
      (refused : (store.registries key).take id = .error conflict) :
      Conflicts conflict ⟨fuel, looks, .work key (.dispose name), store⟩
  | isAlive {fuel looks key name id store} (named : store.names.lookup name = some id)
      (refused : (store.registries key).isAlive id = .error conflict) :
      Conflicts conflict ⟨fuel, looks, .work key (.isAlive name), store⟩
  | look {fuel looks key name asText body id store} (named : store.names.lookup name = some id)
      (refused : (store.registries key).look id (Resource.isOfType asText) = .error conflict) :
      Conflicts conflict ⟨fuel, looks, .work key (.look name asText body), store⟩
  | toRead {fuel looks key store} (refused : (store.registries key).toRead = .error conflict) :
      Conflicts conflict ⟨fuel, looks, .work key .liveCount, store⟩

section Failure

def Fails {α : Type} (x : Run α) (store : Store) (conflict : Conflict) : Prop :=
  (x.run store).1 = .error (.conflict conflict)

variable {α β : Type} {x : Run α} {f : α → Run β} {store after : Store} {a : α}
  {conflict : Conflict}

theorem Fails.or_next (h : Fails (x >>= f) store conflict) : Fails x store conflict ∨
    ∃ a after, x.run store = (.ok a, after) ∧ Fails (f a) after conflict := by
  rw [Fails, run_bind] at h
  rw [Fails]
  rcases hr : x.run store with ⟨stop | a, after⟩ <;> rw [hr] at h
  · exact .inl (congrArg Except.error (Except.error.inj h))
  · exact .inr ⟨a, after, rfl, h⟩

theorem Fails.next (h : Fails (x >>= f) store conflict) (hr : x.run store = (.ok a, after)) :
    Fails (f a) after conflict := by
  rw [Fails, run_bind, hr] at h
  exact h

-- A last part that only puts results together does not fail.
theorem Fails.first {g : α → β} (h : Fails (x >>= fun a => pure (g a)) store conflict) :
    Fails x store conflict := by
  rcases h.or_next with h | ⟨a, after, -, h⟩
  · exact h
  · exact nomatch h

theorem fails_discard : Fails (Functor.discard x) store conflict ↔ Fails x store conflict := by
  rw [Fails, Fails, run_discard]
  rcases x.run store with ⟨stop | a, after⟩
  · exact ⟨fun h => congrArg Except.error (Except.error.inj h),
      fun h => congrArg Except.error (Except.error.inj h)⟩
  · exact iff_of_false nofun nofun

theorem fails_act {key : Nat}
    {operation : Registry Resource → Except Conflict (α × Registry Resource)}
    (h : Fails (act key operation) store conflict) :
    operation (store.registries key) = .error conflict := by
  rcases ho : operation (store.registries key) with other | ⟨a, registry⟩
  · rw [Fails, run_act_error operation ho] at h
    cases h
    rfl
  · rw [Fails, run_act_ok operation ho] at h
    exact nomatch h

theorem fails_ask {key : Nat} {question : Registry Resource → Except Conflict α}
    (h : Fails (ask key question) store conflict) :
    question (store.registries key) = .error conflict := by
  have ho := fails_act h
  rcases hq : question (store.registries key) with other | a
  · rw [hq] at ho
    cases ho
    rfl
  · rw [hq] at ho
    exact nomatch ho

theorem fails_takeOut {key : Nat}
    {operation : Registry Resource → Except Conflict (Option Resource × Registry Resource)}
    (h : Fails (takeOut key operation) store conflict) :
    operation (store.registries key) = .error conflict := by
  rcases h.or_next with h | ⟨taken?, after, -, h⟩
  · exact fails_act h
  · cases taken? <;> exact nomatch h

end Failure

def Call.Fails (call : Call) (conflict : Conflict) : Prop :=
  RegistryScript.Fails (runPart call.fuel call.part) call.store conflict

-- A conflict in a part is its own, or comes from a part that runs inside it.
def Call.Owes (call : Call) (conflict : Conflict) : Prop :=
  call.Conflicts conflict ∨ ∃ inner, Calls call inner ∧ inner.Fails conflict

section Origin

variable {fuel key : Nat} {looks : Nat → Nat} {store : Store} {conflict : Conflict}

theorem Call.fails_iff {part : Part} {α : Type} {x : Run α}
    (hx : runPart fuel part = Functor.discard x) :
    (⟨fuel, looks, part, store⟩ : Call).Fails conflict ↔
      RegistryScript.Fails x store conflict := by
  rw [Call.Fails, hx]
  exact fails_discard

theorem fails_withName {name : String} {part : ResourceId → Run Report}
    (h : Fails (withName name part) store conflict) :
    ∃ id, store.names.lookup name = some id ∧ Fails (part id) store conflict := by
  have h := h.next (run_get store)
  cases hn : store.names.lookup name with
  | none =>
      rw [hn] at h
      exact nomatch h
  | some id =>
      rw [hn] at h
      exact ⟨id, rfl, h⟩

theorem owes_acquireProbe {name : String} {kind : ResourceKind} {building atRelease : List Step}
    {failure : Option ResourceKind}
    (h : Fails (Work.run fuel key (.acquireProbe name kind building failure atRelease)) store
      conflict) :
    (⟨fuel, looks, .work key (.acquireProbe name kind building failure atRelease), store⟩ :
      Call).Owes conflict := by
  have h := h.next (run_enter key store)
  rcases h.or_next with h | ⟨inner, after, hr, h⟩
  · exact .inr ⟨_, .building, (Call.fails_iff rfl).mpr h⟩
  have hb := run_build name (.probe atRelease) after
  have h := h.next hb
  cases failure with
  | some failed => exact .inr ⟨_, .failed hr hb, (Call.fails_iff rfl).mpr h.first⟩
  | none =>
      rcases h.or_next with h | ⟨⟨_, _, _⟩, after, -, h⟩
      · exact .inr ⟨_, .probe hr hb, (Call.fails_iff rfl).mpr h⟩
      · exact nomatch h

theorem owes_dispose {name : String} (h : Fails (Work.run fuel key (.dispose name)) store conflict) :
    (⟨fuel, looks, .work key (.dispose name), store⟩ : Call).Owes conflict := by
  obtain ⟨id, hn, h⟩ := fails_withName h
  rcases h.or_next with h | ⟨taken?, after, ht, h⟩
  · exact .inl (.take hn (fails_takeOut h))
  have h := h.next (run_note _ after)
  cases taken? with
  | none => exact nomatch h
  | some resource => exact .inr ⟨_, .disposed hn ht, (Call.fails_iff rfl).mpr h.first⟩

theorem owes_isAlive {name : String} (h : Fails (Work.run fuel key (.isAlive name)) store conflict) :
    (⟨fuel, looks, .work key (.isAlive name), store⟩ : Call).Owes conflict := by
  obtain ⟨id, hn, h⟩ := fails_withName h
  rcases h.or_next with h | ⟨alive, after, -, h⟩
  · exact .inl (.isAlive hn (fails_ask h))
  · exact nomatch h

theorem owes_look {name : String} {asText : Bool} {body : List Step}
    (h : Fails (Work.run fuel key (.look name asText body)) store conflict) :
    (⟨fuel, looks, .work key (.look name asText body), store⟩ : Call).Owes conflict := by
  obtain ⟨id, hn, h⟩ := fails_withName h
  rcases ha : (store.registries key).look id (Resource.isOfType asText) with other | answer
  · rcases h.or_next with h | ⟨_, _, hr, -⟩
    · exact .inl (.look hn (fails_ask h))
    · rw [ask, run_act_error _ (by rw [ha]; rfl)] at hr
      cases hr
  · have h := h.next (run_ask_ok (·.look id (Resource.isOfType asText)) ha)
    cases answer with
    | error fault => cases h
    | ok resource =>
        have h := h.next (run_change key (·.share) store)
        rcases h.or_next with h | ⟨inner, after, -, h⟩
        · exact .inr ⟨_, .body hn ha, (Call.fails_iff rfl).mpr h⟩
        · cases h.next (run_change key (·.unshare) after)

theorem owes_work {work : Work} (h : Fails (work.run fuel key) store conflict) :
    (⟨fuel, looks, .work key work, store⟩ : Call).Owes conflict := by
  cases work with
  | acquireProbe name kind building failure atRelease => exact owes_acquireProbe h
  | acquireText name kind =>
      have hb := run_build name .text store
      exact .inr ⟨_, .text hb, (Call.fails_iff rfl).mpr (h.next hb)⟩
  | dispose name => exact owes_dispose h
  | isAlive name => exact owes_isAlive h
  | look name asText body => exact owes_look h
  | liveCount =>
      rcases h.or_next with h | ⟨_, after, -, h⟩
      · exact .inl (.toRead (fails_ask h))
      · exact nomatch h.next (run_get after)
  | disposeAll => exact .inr ⟨_, .all, (Call.fails_iff rfl).mpr h.first⟩

theorem owes_step {step : Step} (h : Fails (runStep (fuel + 1) step) store conflict) :
    (⟨fuel + 1, looks, .step step, store⟩ : Call).Owes conflict := by
  cases hw : step.work? with
  | some labelled =>
      obtain ⟨label, work⟩ := labelled
      rw [runStep_of_work? hw] at h
      have h := h.next (run_keyOf? label store)
      cases hl : store.labels.lookup label with
      | none =>
          rw [hl] at h
          exact nomatch h
      | some key =>
          rw [hl] at h
          have hh : (hold key).run store = (.ok (), store.holding key) := rfl
          have h := h.next hh
          rcases h.or_next with h | ⟨⟨_, _, _⟩, after, hr, h⟩
          · exact .inr ⟨_, .work hw hl, (Call.fails_iff rfl).mpr h⟩
          · exact .inr ⟨_, .worked hw hl hr, (Call.fails_iff rfl).mpr h.first⟩
  | none =>
      cases step with
      | create label =>
          have h := (h.next (run_keyOf? label store)).next (run_create label store)
          cases hl : store.labels.lookup label with
          | none =>
              rw [hl] at h
              exact nomatch h
          | some key =>
              rw [hl] at h
              exact .inr ⟨_, .replaced hl, (Call.fails_iff rfl).mpr h.first⟩
      | drop label =>
          have h := h.next (run_keyOf? label store)
          cases hl : store.labels.lookup label with
          | none =>
              rw [hl] at h
              exact nomatch h
          | some key =>
              rw [hl] at h
              have h := (h.next (run_unbindLabel label store)).first
              exact .inr ⟨_, .dropped hl, (Call.fails_iff rfl).mpr h⟩
      | same name other =>
          obtain ⟨id, -, h⟩ := fails_withName h
          obtain ⟨id', -, h⟩ := fails_withName h
          exact nomatch h
      | _ => exact nomatch hw

theorem owes_steps {steps : List Step} (h : Fails (runSteps (fuel + 1) steps) store conflict) :
    (⟨fuel + 1, looks, .steps steps, store⟩ : Call).Owes conflict := by
  cases steps with
  | nil => exact nomatch h
  | cons step steps =>
      rcases h.or_next with h | ⟨report, after, hr, h⟩
      · exact .inr ⟨_, .first, (Call.fails_iff rfl).mpr h⟩
      · exact .inr ⟨_, .rest hr, (Call.fails_iff rfl).mpr h.first⟩

theorem owes_track {name : String} {kind : ResourceKind} {resource : Resource}
    (h : Fails (track (fuel + 1) key name kind resource) store conflict) :
    (⟨fuel + 1, looks, .track key name kind resource, store⟩ : Call).Owes conflict := by
  rcases hr : (store.registries key).register kind resource with other | ⟨id, displaced, registry⟩
  · rcases h.or_next with h | ⟨_, _, hok, -⟩
    · rw [Fails, run_register_error hr] at h
      cases h
      exact .inl (.register hr)
    · rw [run_register_error hr] at hok
      exact nomatch hok
  · have h := (h.next (run_register_ok hr)).next (run_note _ _)
    cases displaced with
    | none => exact nomatch h
    | some old =>
        have h := h.next (run_note _ _)
        have hc := run_change key (fun registry => { registry with borrow := .exclusive })
          (((store.withRegistry key registry).noted (.registered key resource.number id)).noted
            (.taken key old.number))
        have h := h.next hc
        rcases h.or_next with h | ⟨released, after, -, h⟩
        · exact .inr ⟨_, .displaced hr hc, (Call.fails_iff rfl).mpr h⟩
        · exact nomatch h

theorem owes_release {resource : Resource}
    (h : Fails (release (fuel + 1) key resource) store conflict) :
    (⟨fuel + 1, looks, .release key resource, store⟩ : Call).Owes conflict := by
  have h := h.next (run_note _ store)
  split at h
  · exact nomatch h
  · exact nomatch h
  · next steps hne hc =>
    have h := h.next (run_enter key _)
    exact .inr ⟨_, .handler hc hne, (Call.fails_iff rfl).mpr h.first⟩

theorem owes_drain (h : Fails (drain (fuel + 1) key) store conflict) :
    (⟨fuel + 1, looks, .drain key, store⟩ : Call).Owes conflict := by
  rcases h.or_next with h | ⟨taken?, after, ht, h⟩
  · exact .inl (.takeNewest (fails_takeOut h))
  cases taken? with
  | none => exact nomatch h
  | some resource =>
      rcases h.or_next with h | ⟨released, later, hr, h⟩
      · exact .inr ⟨_, .newest ht, (Call.fails_iff rfl).mpr h⟩
      · exact .inr ⟨_, .older ht hr, (Call.fails_iff rfl).mpr h.first⟩

theorem owes_letGo (h : Fails (letGo (fuel + 1) key) store conflict) :
    (⟨fuel + 1, looks, .letGo key, store⟩ : Call).Owes conflict := by
  have h := h.next (run_unhold key store)
  by_cases hn : store.holders key ≤ 1
  · rw [decide_eq_true hn] at h
    exact .inr ⟨_, .last hn, (Call.fails_iff rfl).mpr h⟩
  · rw [decide_eq_false hn] at h
    exact nomatch h

theorem owes_dropAll {labels : List String} (h : Fails (dropAll fuel labels) store conflict) :
    (⟨fuel, looks, .dropAll labels, store⟩ : Call).Owes conflict := by
  cases labels with
  | nil => exact nomatch h
  | cons label labels =>
      have h := h.next (run_keyOf? label store)
      cases hl : store.labels.lookup label with
      | none =>
          rw [hl] at h
          exact .inr ⟨_, .gone hl, (Call.fails_iff rfl).mpr h⟩
      | some key =>
          rw [hl] at h
          have h := h.next (run_unbindLabel label store)
          rcases h.or_next with h | ⟨released, after, hr, h⟩
          · exact .inr ⟨_, .drop hl, (Call.fails_iff rfl).mpr h⟩
          · exact .inr ⟨_, .others hl hr, (Call.fails_iff rfl).mpr h.first⟩

theorem owes_script {first : String} {steps : List Step}
    (h : Fails (script fuel first steps) store conflict) :
    (⟨fuel, looks, .script first steps, store⟩ : Call).Owes conflict := by
  have h := h.next (run_create first store)
  rcases h.or_next with h | ⟨reports, after, hr, h⟩
  · exact .inr ⟨_, .start, (Call.fails_iff rfl).mpr h⟩
  · have h := (h.next (run_get after)).first
    exact .inr ⟨_, .ended hr, (Call.fails_iff rfl).mpr h⟩

theorem Call.Fails.owes {call : Call} (h : call.Fails conflict) : call.Owes conflict := by
  obtain ⟨fuel, looks, part, store⟩ := call
  cases part with
  | script first steps => exact owes_script ((Call.fails_iff rfl).mp h)
  | work key work => exact owes_work ((Call.fails_iff rfl).mp h)
  | dropAll labels => exact owes_dropAll ((Call.fails_iff rfl).mp h)
  | steps steps =>
      have h := (Call.fails_iff rfl).mp h
      cases fuel with
      | zero => cases steps <;> exact nomatch h
      | succ fuel => exact owes_steps h
  | step step =>
      have h := (Call.fails_iff rfl).mp h
      cases fuel with
      | zero => cases step <;> exact nomatch h
      | succ fuel => exact owes_step h
  | track key name kind resource =>
      have h := (Call.fails_iff rfl).mp h
      cases fuel with
      | zero => exact nomatch h
      | succ fuel => exact owes_track h
  | release key resource =>
      have h := (Call.fails_iff rfl).mp h
      cases fuel with
      | zero => exact nomatch h
      | succ fuel => exact owes_release h
  | drain key =>
      have h := (Call.fails_iff rfl).mp h
      cases fuel with
      | zero => exact nomatch h
      | succ fuel => exact owes_drain h
  | letGo key =>
      have h := (Call.fails_iff rfl).mp h
      cases fuel with
      | zero => exact nomatch h
      | succ fuel => exact owes_letGo h

-- How much a part may run inside itself: first by what it is, then by the fuel that is left.
def Part.stage : Part → Nat
  | script .. => 2
  | dropAll _ => 1
  | _ => 0

def Call.bound (call : Call) : Nat :=
  match call.part with
  | .dropAll labels => labels.length
  | .work .. => 2 * call.fuel + 1
  | _ => 2 * call.fuel

theorem Calls.decreases {p q : Call} (h : Calls p q) :
    q.part.stage < p.part.stage ∨ q.part.stage = p.part.stage ∧ q.bound < p.bound := by
  cases h <;> simp [Part.stage, Call.bound]
  omega

theorem Call.Fails.exists_conflicts {call : Call} (h : call.Fails conflict) :
    ∃ inner, ReflTransGen Calls call inner ∧ inner.Conflicts conflict := by
  rcases h.owes with h | ⟨inner, hc, h⟩
  · exact ⟨call, .refl, h⟩
  · obtain ⟨last, hl, h⟩ := h.exists_conflicts
    exact ⟨last, .head hc hl, h⟩
termination_by (call.part.stage, call.bound)
decreasing_by
  rcases hc.decreases with hs | ⟨hs, hb⟩
  · exact .left _ _ hs
  · exact hs ▸ .right _ hb

end Origin

end SyntaxHandles.RegistryScript
