import SyntaxHandles.Proofs.Registry.Keeps

-- What the answer of a step tells about what has happened meanwhile, wherever the step runs and
-- whatever runs inside it.

namespace SyntaxHandles.RegistryScript

open Effect

def Report.outcome : Report → Outcome
  | mk outcome _ _ => outcome

section Telling

-- `before` is where a step starts, and `history` is what has happened when it has answered.
variable (before : Store) (label name : String) (outcome : Outcome) (history : List Event)

-- What was built last is registered under the identity that is answered, or released at once on a
-- failure.
def Acquires (failure : Option ResourceKind) : Prop :=
  match before.labels.lookup label, failure with
  | none, _ => outcome = .noRegistry
  | some key, none => ∃ id n earlier, outcome = .acquired id ∧ before.history <:+ earlier ∧
      .registered key n id :: .built n :: earlier <:+ history
  | some _, some kind => ∃ n earlier, outcome = .fault (.resourceExhausted kind) ∧
      before.history <:+ earlier ∧ .released n :: .built n :: earlier <:+ history

-- The answer is whether this step has taken a resource out.
def Disposes : Prop :=
  match before.labels.lookup label, before.names.lookup name with
  | none, _ => outcome = .noRegistry
  | some _, none => outcome = .noName
  | some key, some id =>
    outcome = .flag false ∧ .disposed key id none :: before.history <:+ history ∨
      ∃ n, outcome = .flag true ∧
        .disposed key id (some n) :: .taken key n :: before.history <:+ history

def AsksAlive : Prop :=
  match before.labels.lookup label, before.names.lookup name with
  | none, _ => outcome = .noRegistry
  | some _, none => outcome = .noName
  | some key, some id =>
    ∃ alive, outcome = .flag alive ∧ .asked key id alive :: before.history <:+ history

def Step.Tells : Step → Prop
  | acquireProbe label _ _ _ failure _ => Acquires before label outcome history failure
  | acquireText label _ _ => Acquires before label outcome history none
  | dispose label name => Disposes before label name outcome history
  | isAlive label name => AsksAlive before label name outcome history
  | _ => True

end Telling

-- A part comes to an end with what `Q` says, if it comes to its end.
def Ends {α : Type} (x : Run α) (store : Store) (Q : α → Store → Prop) : Prop :=
  ∀ a after, x.run store = (.ok a, after) → Q a after

namespace Ends

variable {α β : Type} {x : Run α} {f : α → Run β} {store after : Store} {a : α}
  {Q : α → Store → Prop} {R : β → Store → Prop}

theorem pure (hq : Q a store) : Ends (pure a) store Q := by
  rintro _ _ ⟨⟩
  exact hq

theorem throw (stop : Stop) : Ends (throw stop : Run α) store Q := nofun

theorem mono {Q' : α → Store → Prop} (h : Ends x store Q)
    (hq : ∀ a after, Q a after → Q' a after) : Ends x store Q' :=
  fun a after hr => hq a after (h a after hr)

theorem bind (h : Ends x store fun a after => Ends (f a) after R) : Ends (x >>= f) store R := by
  intro b last hr
  rw [run_bind] at hr
  rcases hx : x.run store with ⟨stop | a, after⟩ <;> rw [hx] at hr
  · exact nomatch hr
  · exact h a after hx b last hr

theorem next (hr : x.run store = (.ok a, after)) (h : Ends (f a) after R) :
    Ends (x >>= f) store R := by
  refine .bind fun a' after' hr' => ?_
  rw [hr] at hr'
  cases hr'
  exact h

theorem and {Q' : α → Store → Prop} (h : Ends x store Q) (h' : Ends x store Q') :
    Ends x store fun a after => Q a after ∧ Q' a after :=
  fun a after hr => ⟨h a after hr, h' a after hr⟩

theorem of_grows (h : Grows x) : Ends x store fun _ after => store.history <:+ after.history := by
  intro a after hr
  have hs := h store
  rwa [hr] at hs

end Ends

section Mono

variable {before : Store} {label name : String} {outcome : Outcome} {history more : List Event}

theorem Acquires.mono {failure : Option ResourceKind}
    (h : Acquires before label outcome history failure) (hs : history <:+ more) :
    Acquires before label outcome more failure := by
  unfold Acquires at h ⊢
  split at h
  · exact h
  · obtain ⟨id, n, earlier, ho, he, hh⟩ := h
    exact ⟨id, n, earlier, ho, he, hh.trans hs⟩
  · obtain ⟨n, earlier, ho, he, hh⟩ := h
    exact ⟨n, earlier, ho, he, hh.trans hs⟩

theorem Disposes.mono (h : Disposes before label name outcome history) (hs : history <:+ more) :
    Disposes before label name outcome more := by
  unfold Disposes at h ⊢
  split at h
  · exact h
  · exact h
  · rcases h with ⟨ho, hh⟩ | ⟨n, ho, hh⟩
    · exact .inl ⟨ho, hh.trans hs⟩
    · exact .inr ⟨n, ho, hh.trans hs⟩

theorem AsksAlive.mono (h : AsksAlive before label name outcome history)
    (hs : history <:+ more) : AsksAlive before label name outcome more := by
  unfold AsksAlive at h ⊢
  split at h
  · exact h
  · exact h
  · obtain ⟨alive, ho, hh⟩ := h
    exact ⟨alive, ho, hh.trans hs⟩

theorem Step.Tells.mono {step : Step} (h : step.Tells before outcome history)
    (hs : history <:+ more) : step.Tells before outcome more := by
  cases step with
  | acquireProbe | acquireText => exact Acquires.mono h hs
  | dispose => exact Disposes.mono h hs
  | isAlive => exact AsksAlive.mono h hs
  | create | drop | look | liveCount | disposeAll | same => trivial

end Mono

section Steps

variable {fuel : Nat} {store : Store} {key : Nat}

-- What is answered before a step ends its hold is still told when it has.
theorem ends_within {step : Step} {label : String} {letGo : Nat → Run (List Release)}
    {part : Nat → Run Report} (hg : ∀ key, Grows (letGo key))
    (hnone : store.labels.lookup label = none → step.Tells store .noRegistry store.history)
    (hp : ∀ key, store.labels.lookup label = some key → Ends (part key) (store.holding key)
      fun report after => step.Tells store report.outcome after.history) :
    Ends (within label letGo part) store fun report after =>
      step.Tells store report.outcome after.history := by
  refine .next (run_keyOf? label store) ?_
  cases hl : store.labels.lookup label with
  | none => exact .pure (hnone hl)
  | some key =>
      have hr : (hold key).run store = (.ok (), store.holding key) := rfl
      refine .next hr (.bind ((hp key hl).mono fun report after ht => ?_))
      obtain ⟨outcome, inner, released⟩ := report
      exact .bind ((Ends.of_grows (hg key)).mono fun _ _ hs => .pure (ht.mono hs))

theorem ends_withName {step : Step} {name : String} {part : ResourceId → Run Report}
    {before : Store}
    (hnone : store.names.lookup name = none → step.Tells before .noName store.history)
    (hp : ∀ id, store.names.lookup name = some id → Ends (part id) store
      fun report after => step.Tells before report.outcome after.history) :
    Ends (withName name part) store fun report after =>
      step.Tells before report.outcome after.history := by
  refine .next (run_get store) ?_
  cases hn : store.names.lookup name with
  | none => exact .pure (hnone hn)
  | some id => exact hp id hn

theorem act_history {α : Type}
    (operation : Registry Resource → Except Conflict (α × Registry Resource)) :
    Ends (act key operation) store fun _ after => after.history = store.history := by
  intro a after hr
  rcases ho : operation (store.registries key) with _ | ⟨_, _⟩
  · rw [run_act_error operation ho] at hr
    exact nomatch hr
  · rw [run_act_ok operation ho] at hr
    cases hr
    rfl

-- Tracking answers the identity under which it registers, before anything else happens.
theorem track_tells (key : Nat) (name : String) (kind : ResourceKind) (resource : Resource) :
    Ends (track fuel key name kind resource) store fun report after =>
      ∃ id, report.outcome = .acquired id ∧
        .registered key resource.number id :: store.history <:+ after.history := by
  cases fuel with
  | zero => exact .throw _
  | succ fuel =>
      refine .bind ((act_history _).mono fun ⟨id, displaced⟩ after hh => ?_)
      refine .next (run_note _ _) ?_
      have hs : Ends _ (after.noted (.registered key resource.number id)) _ :=
        .of_grows ((growing fuel).displacing key name id displaced)
      refine (hs.and ?_).mono fun report last ht => ⟨id, ht.2, hh ▸ ht.1⟩
      cases displaced with
      | none => exact .bind fun _ _ _ => .bind fun _ _ _ => .pure rfl
      | some other =>
          exact .bind fun _ _ _ => .bind fun _ _ _ => .bind fun _ _ _ => .bind fun _ _ _ =>
            .bind fun _ _ _ => .bind fun _ _ _ => .pure rfl

theorem release_tells (key : Nat) (resource : Resource) :
    Ends (release fuel key resource) store fun _ after =>
      .released resource.number :: store.history <:+ after.history := by
  cases fuel with
  | zero => exact .throw _
  | succ fuel =>
      refine .next (run_note _ _) ?_
      split
      · exact .pure List.suffix_rfl
      · exact .pure List.suffix_rfl
      · exact .of_grows ((grows_enter key).bind fun _ =>
          ((growing fuel).runSteps _).bind fun _ => .pure _)

theorem acquires_of_none {label : String} {failure : Option ResourceKind}
    (hl : store.labels.lookup label = none) :
    Acquires store label .noRegistry store.history failure := by
  simp only [Acquires, hl]

theorem acquireProbe_tells (label name : String) (kind : ResourceKind) (building : List Step)
    (failure : Option ResourceKind) (atRelease : List Step) :
    Ends (runStep (fuel + 1) (.acquireProbe label name kind building failure atRelease)) store
      fun report after => (Step.acquireProbe label name kind building failure atRelease).Tells
        store report.outcome after.history := by
  refine ends_within (growing fuel).letGo acquires_of_none fun key hl => ?_
  refine .next (run_enter key _) ?_
  refine .bind ((Ends.of_grows ((growing fuel).runSteps building)).mono fun inner after hs => ?_)
  have hbefore : store.history <:+ after.history := (List.suffix_cons _ _).trans hs
  refine .next (run_build name (.probe atRelease) after) ?_
  cases failure with
  | none =>
      refine .bind ((track_tells key name kind _).mono fun ⟨outcome, _, _⟩ last ht => .pure ?_)
      obtain ⟨id, ho, hh⟩ := ht
      simp only [Step.Tells, Acquires, hl]
      exact ⟨id, after.built, after.history, ho, hbefore, hh⟩
  | some failed =>
      refine .bind ((release_tells key _).mono fun _ last hh => .pure ?_)
      simp only [Step.Tells, Acquires, hl]
      exact ⟨after.built, after.history, rfl, hbefore, hh⟩

theorem acquireText_tells (label name : String) (kind : ResourceKind) :
    Ends (runStep (fuel + 1) (.acquireText label name kind)) store fun report after =>
      (Step.acquireText label name kind).Tells store report.outcome after.history := by
  refine ends_within (growing fuel).letGo acquires_of_none fun key hl => ?_
  refine .next (run_build name .text _) ?_
  refine (track_tells key name kind _).mono fun _ last ⟨id, ho, hh⟩ => ?_
  simp only [Step.Tells, Acquires, hl]
  exact ⟨id, store.built, store.history, ho, List.suffix_rfl, hh⟩

theorem dispose_tells (label name : String) :
    Ends (runStep (fuel + 1) (.dispose label name)) store fun report after =>
      (Step.dispose label name).Tells store report.outcome after.history := by
  refine ends_within (growing fuel).letGo (fun hl => by simp only [Step.Tells, Disposes, hl])
    fun key hl => ?_
  refine ends_withName (fun hn => ?_) fun id hn => ?_
  · have hn : store.names.lookup name = none := hn
    simp only [Step.Tells, Disposes, hl, hn]
  · have hn : store.names.lookup name = some id := hn
    simp only [Step.Tells, Disposes, hl, hn]
    refine .bind (.bind ((act_history _).mono fun resource? after hh => ?_))
    cases resource? with
    | none =>
        refine .pure (.next (run_note _ _) (.pure (.inl ⟨rfl, ?_⟩)))
        exact ⟨[], congrArg (List.cons _) hh.symm⟩
    | some resource =>
        refine .next (run_note _ _) (.pure (.next (run_note _ _) (.bind ?_)))
        refine (Ends.of_grows ((growing fuel).release key resource)).mono fun _ last hs => .pure
          (.inr ⟨resource.number, rfl, ?_⟩)
        rw [Store.noted_history, Store.noted_history, hh] at hs
        exact hs

theorem isAlive_tells (label name : String) :
    Ends (runStep (fuel + 1) (.isAlive label name)) store fun report after =>
      (Step.isAlive label name).Tells store report.outcome after.history := by
  refine ends_within (growing fuel).letGo (fun hl => by simp only [Step.Tells, AsksAlive, hl])
    fun key hl => ?_
  refine ends_withName (fun hn => ?_) fun id hn => ?_
  · have hn : store.names.lookup name = none := hn
    simp only [Step.Tells, AsksAlive, hl, hn]
  · have hn : store.names.lookup name = some id := hn
    simp only [Step.Tells, AsksAlive, hl, hn]
    refine .bind ((act_history _).mono fun alive after hh => ?_)
    refine .next (run_note _ _) (.pure ⟨alive, rfl, ?_⟩)
    exact ⟨[], congrArg (List.cons _) hh.symm⟩

-- Every step tells the truth.
theorem runStep_tells (fuel : Nat) (step : Step) (store : Store) :
    Ends (runStep fuel step) store fun report after =>
      step.Tells store report.outcome after.history := by
  cases fuel with
  | zero => exact .throw _
  | succ fuel =>
      cases step with
      | acquireProbe label name kind building failure atRelease =>
          exact acquireProbe_tells label name kind building failure atRelease
      | acquireText label name kind => exact acquireText_tells label name kind
      | dispose label name => exact dispose_tells label name
      | isAlive label name => exact isAlive_tells label name
      | create | drop | look | liveCount | disposeAll | same =>
          exact fun _ _ _ => trivial

end Steps

end SyntaxHandles.RegistryScript
