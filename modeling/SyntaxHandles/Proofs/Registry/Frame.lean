import SyntaxHandles.Proofs.Registry.Conflicts

-- What a part of a run leaves alone. A registry changes only at a part that works on it, and its
-- number never does.

namespace SyntaxHandles

theorem Registry.id_of_register {ρ : Type} {registry after : Registry ρ} {kind : ResourceKind}
    {resource : ρ} {id : ResourceId} {displaced : Option ρ}
    (hr : registry.register kind resource = .ok (id, displaced, after)) :
    id.registry = registry.id := by
  rcases hw : registry.toWrite .register with _ | _
  · simp [register, hw, bind, Except.bind] at hr
  · simp [register, hw, bind, Except.bind, pure, Except.pure] at hr
    rw [← hr.1]

theorem Registry.share_id {ρ : Type} (registry : Registry ρ) :
    registry.share.id = registry.id := by
  unfold share
  split <;> rfl

theorem Registry.unshare_id {ρ : Type} (registry : Registry ρ) :
    registry.unshare.id = registry.id := by
  unfold unshare
  split <;> rfl

namespace RegistryScript

open Effect Relation

-- The registry that a part works on. Steps look theirs up by a label.
def Part.key? : Part → Option Nat
  | work key _ | track key .. | release key _ | drain key | letGo key => some key
  | script .. | steps _ | step _ | dropAll _ => none

-- A later store, where only some registries are allowed to have changed. Identities that were given
-- out meanwhile have the numbers of their registries.
structure Frames (allowed : Nat → Prop) (store after : Store) : Prop where
  others : ∀ k, ¬allowed k → after.registries k = store.registries k
  ids : ∀ k, (after.registries k).id = (store.registries k).id
  created : store.created ≤ after.created
  labels : ∀ bound ∈ after.labels, bound ∈ store.labels ∨ bound.2 ≤ after.created
  issued : ∀ k n id, .registered k n id ∈ after.history → .registered k n id ∈ store.history ∨
    k ≤ after.created ∧ id.registry = (store.registries k).id

namespace Frames

variable {allowed : Nat → Prop} {store after later : Store} {key : Nat}

theorem refl (allowed : Nat → Prop) (store : Store) : Frames allowed store store where
  others _ _ := rfl
  ids _ := rfl
  created := Nat.le_refl _
  labels _ hb := .inl hb
  issued _ _ _ hr := .inl hr

theorem trans (h : Frames allowed store after) (h' : Frames allowed after later) :
    Frames allowed store later where
  others k hk := (h'.others k hk).trans (h.others k hk)
  ids k := (h'.ids k).trans (h.ids k)
  created := Nat.le_trans h.created h'.created
  labels bound hb := by
    rcases h'.labels bound hb with hb | hle
    · exact (h.labels bound hb).imp_right fun hle => Nat.le_trans hle h'.created
    · exact .inr hle
  issued k n id hr := by
    rcases h'.issued k n id hr with hr | ⟨hle, hid⟩
    · exact (h.issued k n id hr).imp_right fun ⟨hle, hid⟩ => ⟨Nat.le_trans hle h'.created, hid⟩
    · exact .inr ⟨hle, hid.trans (h.ids k)⟩

theorem noted {event : Event} (he : ∀ k n id, event = .registered k n id →
    k ≤ store.created ∧ id.registry = (store.registries k).id) :
    Frames allowed store (store.noted event) where
  others _ _ := rfl
  ids _ := rfl
  created := Nat.le_refl _
  labels _ hb := .inl hb
  issued k n id hr := by
    rcases List.mem_cons.mp hr with hr | hr
    · exact .inr (he k n id hr.symm)
    · exact .inl hr

theorem entered (key : Nat) : Frames allowed store (store.entered key) :=
  noted nofun

theorem holding (key : Nat) : Frames allowed store (store.holding key) :=
  { refl allowed store with }

theorem unholding (key : Nat) : Frames allowed store (store.unholding key) :=
  { refl allowed store with }

theorem unbound (label : String) : Frames allowed store (store.unbound label) :=
  { refl allowed store with labels := fun _ hb => .inl (List.mem_of_mem_filter hb) }

theorem making (label : String) : Frames allowed store (store.making label) where
  others _ _ := rfl
  ids _ := rfl
  created := Nat.le_succ _
  labels bound hb := by
    rcases List.mem_cons.mp hb with rfl | hb
    · exact .inr (Nat.le_refl _)
    · exact .inl hb
  issued _ _ _ hr := .inl hr

theorem built {label : String} {contents : Contents} {resource : Resource}
    (hb : (build label contents).run store = (.ok resource, after)) :
    Frames allowed store after := by
  cases hb
  exact { refl allowed store with
    issued := fun _ _ _ hr => .inl ((List.mem_cons.mp hr).resolve_left nofun) }

theorem withRegistry {registry : Registry Resource} (ha : allowed key)
    (hid : registry.id = (store.registries key).id) :
    Frames allowed store (store.withRegistry key registry) where
  others k hk := Store.withRegistry_of_ne fun he => hk (he ▸ ha)
  ids k := by
    by_cases hk : k = key
    · rw [hk, Store.withRegistry_same, hid]
    · rw [Store.withRegistry_of_ne hk]
  created := Nat.le_refl _
  labels _ hb := .inl hb
  issued _ _ _ hr := .inl hr

end Frames

section Runs

variable {α β : Type} {allowed : Nat → Prop} {store after : Store} {key : Nat} {a : α}
  {x : Run α} {f : α → Run β}

def Leads (allowed : Nat → Prop) (x : Run α) (store : Store) : Prop :=
  Frames allowed store (x.run store).2

namespace Leads

theorem pure (a : α) (store : Store) : Leads allowed (pure a) store := .refl allowed store

theorem bind (hx : Leads allowed x store)
    (hf : ∀ a after, x.run store = (.ok a, after) → Leads allowed (f a) after) :
    Leads allowed (x >>= f) store := by
  rw [Leads] at hx ⊢
  rw [run_bind]
  rcases hr : x.run store with ⟨_ | a, after⟩ <;> rw [hr] at hx
  · exact hx
  · exact hx.trans (hf a after hr)

theorem next (hr : x.run store = (.ok a, after)) (hs : Frames allowed store after)
    (hf : Leads allowed (f a) after) : Leads allowed (x >>= f) store := by
  rw [Leads, run_bind, hr]
  exact hs.trans hf

-- A last part only puts results together.
theorem last {g : α → β} (hx : Leads allowed x store) :
    Leads allowed (x >>= fun a => Pure.pure (g a)) store :=
  hx.bind fun a after _ => .pure (g a) after

theorem act {operation : Registry Resource → Except Conflict (α × Registry Resource)}
    (ha : allowed key) (hid : ∀ a registry,
      operation (store.registries key) = .ok (a, registry) →
        registry.id = (store.registries key).id) :
    Leads allowed (act key operation) store := by
  rw [Leads]
  rcases ho : operation (store.registries key) with _ | ⟨a, registry⟩
  · rw [run_act_error operation ho]
    exact .refl allowed store
  · rw [run_act_ok operation ho]
    exact .withRegistry ha (hid a registry ho)

theorem change {g : Registry Resource → Registry Resource} (ha : allowed key)
    (hid : ∀ registry, (g registry).id = registry.id) : Leads allowed (change key g) store :=
  act ha fun _ _ ho => by
    cases ho
    exact hid _

theorem ask {question : Registry Resource → Except Conflict α} (ha : allowed key) :
    Leads allowed (ask key question) store := by
  refine act ha fun a registry ho => ?_
  rcases hq : question (store.registries key) with _ | _ <;> rw [hq] at ho <;> cases ho
  rfl

theorem takeOut
    {operation : Registry Resource → Except Conflict (Option Resource × Registry Resource)}
    (ha : allowed key) (hid : ∀ a registry,
      operation (store.registries key) = .ok (a, registry) →
        registry.id = (store.registries key).id) :
    Leads allowed (takeOut key operation) store := by
  refine (act ha hid).bind fun taken? after _ => ?_
  cases taken? with
  | none => exact .pure _ _
  | some resource => exact .next (run_note _ after) (.noted nofun) (.pure _ _)

theorem withName {name : String} {part : ResourceId → Run Report}
    (hp : ∀ id, store.names.lookup name = some id → Leads allowed (part id) store) :
    Leads allowed (withName name part) store := by
  refine .next (run_get store) (.refl allowed store) ?_
  cases hn : store.names.lookup name with
  | none => exact .pure _ _
  | some id => exact hp id hn

end Leads

theorem leads_take (ha : allowed key) (id : ResourceId) (store : Store) :
    Leads allowed (takeOut key (·.take id)) store :=
  .takeOut ha fun _ _ ho => (Registry.take_eq_ok ho).1

theorem leads_takeNewest (ha : allowed key) (store : Store) :
    Leads allowed (takeOut key (·.takeNewest)) store :=
  .takeOut ha fun _ _ ho => (Registry.takeNewest_eq_ok ho).1

-- What is noted of a resource that was registered just now.
theorem issued_of_register {kind : ResourceKind} {resource : Resource} {id : ResourceId}
    {displaced : Option Resource} {registry : Registry Resource} (hk : key ≤ store.created)
    (hr : (store.registries key).register kind resource = .ok (id, displaced, registry))
    (number : Nat) : ∀ k n i, Event.registered key number id = .registered k n i →
      k ≤ (store.withRegistry key registry).created ∧
        i.registry = ((store.withRegistry key registry).registries k).id := by
  intro k n i he
  cases he
  refine ⟨hk, ?_⟩
  rw [Store.withRegistry_same, Registry.id_of_register hr, (Registry.register_eq_ok hr).1]

theorem leads_acquired (name : String) (id : ResourceId) (released : List Release)
    (store : Store) : Leads allowed (do
      bindName name id
      return Report.mk (.acquired id) [] released) store := by
  refine Leads.bind ?_ fun _ _ _ => .pure _ _
  exact { Frames.refl allowed store with }

theorem ask_eq_ok {question : Registry Resource → Except Conflict α}
    (ha : (ask key question).run store = (.ok a, after)) :
    question (store.registries key) = .ok a ∧ after = store := by
  rcases hq : question (store.registries key) with conflict | answer
  · rw [ask, run_act_error _ (by rw [hq]; rfl)] at ha
    cases ha
  · rw [run_ask_ok question hq] at ha
    cases ha
    exact ⟨rfl, rfl⟩

end Runs

section Parts

variable {allowed : Nat → Prop} {call : Call} {fuel key : Nat} {looks : Nat → Nat} {store : Store}

-- The labels and the part itself are about registries that were made.
structure Call.Placed (call : Call) : Prop where
  labels : ∀ bound ∈ call.store.labels, bound.2 ≤ call.store.created
  key : ∀ key, call.part.key? = some key → key ≤ call.store.created

-- A part changes what it is allowed to, if all that run inside it do so.
def Call.Stays (allowed : Nat → Prop) (call : Call) : Prop :=
  Frames allowed call.store call.ending.2

theorem Call.stays_iff {part : Part} {α : Type} {x : Run α}
    (hx : runPart fuel part = Functor.discard x) :
    (⟨fuel, looks, part, store⟩ : Call).Stays allowed ↔ Leads allowed x store := by
  rw [Call.Stays, Call.ending, hx, run_discard]
  exact Iff.rfl

theorem stays_work {work : Work} (ha : allowed key)
    (inner : ∀ call, Calls ⟨fuel, looks, .work key work, store⟩ call → call.Stays allowed) :
    Leads allowed (work.run fuel key) store := by
  cases work with
  | acquireProbe name kind building failure atRelease =>
      refine .next (run_enter key store) (.entered key) ?_
      refine ((Call.stays_iff rfl).mp (inner _ .building)).bind fun answers after hr => ?_
      have hb := run_build name (.probe atRelease) after
      refine .next hb (.built hb) ?_
      cases failure with
      | some failed => exact ((Call.stays_iff rfl).mp (inner _ (.failed hr hb))).last
      | none =>
          refine Leads.bind ((Call.stays_iff rfl).mp (inner _ (.probe hr hb))) ?_
          exact fun ⟨_, _, _⟩ _ _ => .pure _ _
  | acquireText name kind =>
      have hb := run_build name .text store
      exact .next hb (.built hb) ((Call.stays_iff rfl).mp (inner _ (.text hb)))
  | dispose name =>
      refine .withName fun id hn => ?_
      refine (leads_take ha id store).bind fun taken? after ht => ?_
      refine .next (run_note _ after) (.noted nofun) ?_
      cases taken? with
      | none => exact .pure _ _
      | some resource => exact ((Call.stays_iff rfl).mp (inner _ (.disposed hn ht))).last
  | isAlive name =>
      refine .withName fun id hn => (Leads.ask ha).bind fun alive after _ => ?_
      exact .next (run_note _ after) (.noted nofun) (.pure _ _)
  | look name asText body =>
      refine .withName fun id hn => (Leads.ask ha).bind fun answer after hq => ?_
      cases answer with
      | error fault => exact .pure _ _
      | ok resource =>
          obtain ⟨hl, rfl⟩ := ask_eq_ok hq
          refine .next (run_change key (·.share) _) (.withRegistry ha (Registry.share_id _)) ?_
          refine ((Call.stays_iff rfl).mp (inner _ (.body hn hl))).bind fun answers after _ => ?_
          exact (Leads.change ha Registry.unshare_id).last
  | liveCount =>
      refine (Leads.ask ha).bind fun _ after _ => ?_
      exact .next (run_get after) (.refl allowed after) (.pure _ _)
  | disposeAll => exact ((Call.stays_iff rfl).mp (inner _ .all)).last

theorem stays_step {step : Step}
    (inner : ∀ call, Calls ⟨fuel + 1, looks, .step step, store⟩ call → call.Stays allowed) :
    Leads allowed (runStep (fuel + 1) step) store := by
  cases hw : step.work? with
  | some labelled =>
      obtain ⟨label, work⟩ := labelled
      rw [runStep_of_work? hw]
      refine .next (run_keyOf? label store) (.refl allowed store) ?_
      cases hl : store.labels.lookup label with
      | none => exact .pure _ _
      | some key =>
          have hh : (hold key).run store = (.ok (), store.holding key) := rfl
          refine .next hh (.holding key) ?_
          refine Leads.bind ((Call.stays_iff rfl).mp (inner _ (.work hw hl))) ?_
          rintro ⟨_, _, _⟩ after hr
          exact ((Call.stays_iff rfl).mp (inner _ (.worked hw hl hr))).last
  | none =>
      cases step with
      | create label =>
          refine .next (run_keyOf? label store) (.refl allowed store) ?_
          refine .next (run_create label store) ((Frames.unbound label).trans (.making label)) ?_
          cases hl : store.labels.lookup label with
          | none => exact .pure _ _
          | some key => exact ((Call.stays_iff rfl).mp (inner _ (.replaced hl))).last
      | drop label =>
          refine .next (run_keyOf? label store) (.refl allowed store) ?_
          cases hl : store.labels.lookup label with
          | none => exact .pure _ _
          | some key =>
              refine .next (run_unbindLabel label store) (.unbound label) ?_
              exact ((Call.stays_iff rfl).mp (inner _ (.dropped hl))).last
      | same name other =>
          exact .withName fun id _ => .withName fun id' _ => .pure _ _
      | _ => exact nomatch hw

theorem stays_steps {steps : List Step}
    (inner : ∀ call, Calls ⟨fuel + 1, looks, .steps steps, store⟩ call → call.Stays allowed) :
    Leads allowed (runSteps (fuel + 1) steps) store := by
  cases steps with
  | nil => exact .pure _ _
  | cons step steps =>
      refine Leads.bind ((Call.stays_iff rfl).mp (inner _ .first)) fun report after hr => ?_
      exact ((Call.stays_iff rfl).mp (inner _ (.rest hr))).last

theorem stays_track {name : String} {kind : ResourceKind} {resource : Resource} (ha : allowed key)
    (hk : key ≤ store.created)
    (inner : ∀ call, Calls ⟨fuel + 1, looks, .track key name kind resource, store⟩ call →
      call.Stays allowed) :
    Leads allowed (track (fuel + 1) key name kind resource) store := by
  rcases hr : (store.registries key).register kind resource with
    conflict | ⟨id, displaced, registry⟩
  · refine Leads.bind ?_ fun _ _ hok => ?_
    · rw [Leads, run_register_error hr]
      exact .refl allowed store
    · rw [run_register_error hr] at hok
      exact nomatch hok
  refine .next (run_register_ok hr) (.withRegistry ha (Registry.register_eq_ok hr).1) ?_
  refine .next (run_note _ _) (.noted (issued_of_register hk hr resource.number)) ?_
  cases displaced with
  | none => exact .next (run_pure _ _) (.refl allowed _) (leads_acquired name id _ _)
  | some old =>
      refine .next (run_note _ _) (.noted nofun) ?_
      have hc := run_change key (fun registry => { registry with borrow := .exclusive })
        (((store.withRegistry key registry).noted (.registered key resource.number id)).noted
          (.taken key old.number))
      refine .next hc (.withRegistry ha rfl) ?_
      refine Leads.bind ((Call.stays_iff rfl).mp (inner _ (.displaced hr hc)))
        fun released _ _ => ?_
      refine Leads.bind (.change ha fun _ => rfl) fun _ after _ => ?_
      exact .next (run_pure _ _) (.refl allowed after) (leads_acquired name id _ _)

theorem stays_release {resource : Resource}
    (inner : ∀ call, Calls ⟨fuel + 1, looks, .release key resource, store⟩ call →
      call.Stays allowed) :
    Leads allowed (release (fuel + 1) key resource) store := by
  refine .next (run_note _ store) (.noted nofun) ?_
  split
  · exact .pure _ _
  · exact .pure _ _
  · next steps hne hc =>
    refine .next (run_enter key _) (.entered key) ?_
    exact ((Call.stays_iff rfl).mp (inner _ (.handler hc hne))).last

theorem stays_drain (ha : allowed key)
    (inner : ∀ call, Calls ⟨fuel + 1, looks, .drain key, store⟩ call → call.Stays allowed) :
    Leads allowed (drain (fuel + 1) key) store := by
  refine (leads_takeNewest ha store).bind fun taken? after ht => ?_
  cases taken? with
  | none => exact .pure _ _
  | some resource =>
      refine Leads.bind ((Call.stays_iff rfl).mp (inner _ (.newest ht))) fun released later hr => ?_
      exact ((Call.stays_iff rfl).mp (inner _ (.older ht hr))).last

theorem stays_letGo
    (inner : ∀ call, Calls ⟨fuel + 1, looks, .letGo key, store⟩ call → call.Stays allowed) :
    Leads allowed (letGo (fuel + 1) key) store := by
  refine .next (run_unhold key store) (.unholding key) ?_
  by_cases hn : store.holders key ≤ 1
  · rw [decide_eq_true hn]
    exact (Call.stays_iff rfl).mp (inner _ (.last hn))
  · rw [decide_eq_false hn]
    exact .pure _ _

theorem stays_dropAll {labels : List String}
    (inner : ∀ call, Calls ⟨fuel, looks, .dropAll labels, store⟩ call → call.Stays allowed) :
    Leads allowed (dropAll fuel labels) store := by
  cases labels with
  | nil => exact .pure _ _
  | cons label labels =>
      refine .next (run_keyOf? label store) (.refl allowed store) ?_
      cases hl : store.labels.lookup label with
      | none => exact (Call.stays_iff rfl).mp (inner _ (.gone hl))
      | some key =>
          refine .next (run_unbindLabel label store) (.unbound label) ?_
          refine Leads.bind ((Call.stays_iff rfl).mp (inner _ (.drop hl))) fun _ after hr => ?_
          exact ((Call.stays_iff rfl).mp (inner _ (.others hl hr))).last

theorem stays_script {first : String} {steps : List Step}
    (inner : ∀ call, Calls ⟨fuel, looks, .script first steps, store⟩ call → call.Stays allowed) :
    Leads allowed (script fuel first steps) store := by
  refine .next (run_create first store) ((Frames.unbound first).trans (.making first)) ?_
  refine Leads.bind ((Call.stays_iff rfl).mp (inner _ .start)) fun reports after hr => ?_
  refine .next (run_get after) (.refl allowed after) ?_
  exact ((Call.stays_iff rfl).mp (inner _ (.ended hr))).last

theorem Call.stays_of_inner (hp : call.Placed) (ha : ∀ key, call.part.key? = some key → allowed key)
    (inner : ∀ q, Calls call q → q.Stays allowed) : call.Stays allowed := by
  obtain ⟨fuel, looks, part, store⟩ := call
  cases part with
  | script first steps => exact (Call.stays_iff rfl).mpr (stays_script inner)
  | work key work => exact (Call.stays_iff rfl).mpr (stays_work (ha key rfl) inner)
  | dropAll labels => exact (Call.stays_iff rfl).mpr (stays_dropAll inner)
  | steps steps =>
      cases fuel with
      | zero => cases steps <;> exact .refl allowed store
      | succ fuel => exact (Call.stays_iff rfl).mpr (stays_steps inner)
  | step step =>
      cases fuel with
      | zero => exact .refl allowed store
      | succ fuel => exact (Call.stays_iff rfl).mpr (stays_step inner)
  | track key name kind resource =>
      cases fuel with
      | zero => exact .refl allowed store
      | succ fuel =>
          exact (Call.stays_iff rfl).mpr (stays_track (ha key rfl) (hp.key key rfl) inner)
  | release key resource =>
      cases fuel with
      | zero => exact .refl allowed store
      | succ fuel => exact (Call.stays_iff rfl).mpr (stays_release inner)
  | drain key =>
      cases fuel with
      | zero => exact .refl allowed store
      | succ fuel => exact (Call.stays_iff rfl).mpr (stays_drain (ha key rfl) inner)
  | letGo key =>
      cases fuel with
      | zero => exact .refl allowed store
      | succ fuel => exact (Call.stays_iff rfl).mpr (stays_letGo inner)

theorem Leads.of_ran {α : Type} {x : Run α} {a : Except Stop α} {after : Store}
    (h : Leads allowed x store) (hr : x.run store = (a, after)) : Frames allowed store after := by
  rwa [Leads, hr] at h

theorem Call.Placed.of_lookup (hp : call.Placed) {label : String}
    (found : call.store.labels.lookup label = some key) : key ≤ call.store.created := by
  obtain ⟨front, back, hl, -⟩ := List.lookup_eq_some_iff.mp found
  exact hp.labels (label, key) (by rw [hl]; simp)

-- The registry of an inner part is that of the outer one, or one that a label stands for.
theorem Calls.key_le {p q : Call} (h : Calls p q) (hp : p.Placed) (hk : q.part.key? = some key) :
    key ≤ p.store.created := by
  cases h with
  | work | worked | replaced | dropped | drop =>
      cases hk
      exact hp.of_lookup (by assumption)
  | failed | probe | text | displaced | disposed | all | newest | older | last =>
      cases hk
      exact hp.key key rfl
  | _ => exact nomatch hk

theorem Calls.placed {p q : Call} (h : Calls p q) (hp : p.Placed)
    (hf : Frames (fun _ => True) p.store q.store) : q.Placed := by
  refine ⟨fun bound hb => ?_, fun key hk => Nat.le_trans (h.key_le hp hk) hf.created⟩
  rcases hf.labels bound hb with hb | hle
  · exact Nat.le_trans (hp.labels bound hb) hf.created
  · exact hle

-- A part starts in a store where what came before it inside the outer part is done.
theorem Calls.frames {p q : Call} (h : Calls p q) (hp : p.Placed)
    (inner : ∀ call, Calls p call → call.Placed → call.Stays fun _ => True) :
    Frames (fun _ => True) p.store q.store := by
  have done {fuel : Nat} {looks : Nat → Nat} {part : Part} {store after : Store} {α : Type}
      {x : Run α} {a : Except Stop α} (hc : Calls p ⟨fuel, looks, part, store⟩)
      (hf : Frames (fun _ => True) p.store store) (hr : x.run store = (a, after))
      (hx : runPart fuel part = Functor.discard x) : Frames (fun _ => True) p.store after :=
    hf.trans (((Call.stays_iff hx).mp (inner _ hc (hc.placed hp hf))).of_ran hr)
  cases h with
  | first | all | gone => exact .refl _ _
  | rest ran => exact done .first (.refl _ _) ran rfl
  | work => exact .holding _
  | worked is found ran => exact done (.work is found) (.holding _) ran rfl
  | replaced => exact (Frames.unbound _).trans (.making _)
  | dropped | drop => exact .unbound _
  | building => exact .entered _
  | failed ran built | probe ran built =>
      exact (done .building (.entered _) ran rfl).trans (.built built)
  | text built => exact .built built
  | @displaced _ _ key _ _ resource _ _ _ _ _ registered changed =>
      have hsame := (Registry.register_eq_ok registered).1
      have hnoted := issued_of_register (hp.key key rfl) registered resource.number
      have hchange (store : Store) : Leads (fun _ => True)
        (change key fun registry => { registry with borrow := .exclusive }) store :=
        .change trivial fun _ => rfl
      exact (Frames.withRegistry trivial hsame).trans (.trans (.noted hnoted)
        (.trans (.noted (by exact nofun)) ((hchange _).of_ran changed)))
  | disposed named taken =>
      exact ((leads_take trivial _ _).of_ran taken).trans (.noted (by exact nofun))
  | body => exact .withRegistry trivial (Registry.share_id _)
  | handler => exact Frames.trans (.noted (by exact nofun)) (.entered _)
  | newest taken => exact (leads_takeNewest trivial _).of_ran taken
  | older taken ran =>
      exact done (.newest taken) ((leads_takeNewest trivial _).of_ran taken) ran rfl
  | last => exact .unholding _
  | start => exact (Frames.unbound _).trans (.making _)
  | ended ran => exact done .start ((Frames.unbound _).trans (.making _)) ran rfl
  | others found ran => exact done (.drop found) (.unbound _) ran rfl

-- Only registries change that some part works on, in the whole course of a part.
theorem Call.Placed.stays {call : Call} (hp : call.Placed) (allowed : Nat → Prop)
    (ha : ∀ inner, ReflTransGen Calls call inner → ∀ key, inner.part.key? = some key →
      allowed key) : call.Stays allowed := by
  have every (inner : Call) (hc : Calls call inner) (hi : inner.Placed) :
      inner.Stays fun _ => True := hi.stays _ fun _ _ _ _ => trivial
  refine Call.stays_of_inner hp (ha call .refl) fun inner hc => ?_
  exact (hc.placed hp (hc.frames hp every)).stays allowed fun last hl => ha last (.head hc hl)
termination_by (call.part.stage, call.bound)
decreasing_by
  all_goals
    rcases hc.decreases with hs | ⟨hs, hb⟩
    · exact .left _ _ hs
    · exact hs ▸ .right _ hb

end Parts

end RegistryScript

end SyntaxHandles
