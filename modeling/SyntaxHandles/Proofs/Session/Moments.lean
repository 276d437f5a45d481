import SyntaxHandles.Proofs.Registry.Collection
import SyntaxHandles.Proofs.Session.Sessions

-- Every moment in the life of a thread, those at the visits of a traversal included. What lies
-- between two moments is single operations and single listings, and each of them is a few changes
-- of single sessions.

namespace SyntaxHandles.Thread

open Effect

variable {key : Nat} {s t u : Thread}

-- One operation, or one listing of a traversal.
inductive Move (s : Thread) : Thread → Prop
  | act {t : Thread} (act : Act s t) : Move s t
  | list {key : Nat} (has : s.Has key) (library : Native.Library) (node : CursorToken) :
      Move s ((Session.children library key node).run s).2

abbrev Reaches : Thread → Thread → Prop :=
  Relation.ReflTransGen Move

theorem Move.leads (hr : s.Ready) (h : Move s t) : Leads s t := by
  cases h with
  | act act => exact act.leads hr
  | list has library node => exact .of_acts hr has.2 (Session.children_acts (hr.free _) node)

theorem Reaches.leads (hr : s.Ready) (h : Reaches s t) : Leads s t := by
  induction h with
  | refl => exact .refl hr
  | tail _ last ih => exact ih.trans (last.leads ih.ready)

-- A run comes to its end by single moves, whatever its visitors do.
theorem Run.reaches (hr : s.Ready) (h : Run s t) : Reaches s t := by
  have hboth : Reaches s t ∧ Leads s t := by
    refine Runs.keeps (R := fun s t => Reaches s t ∧ Leads s t) (fun hr => ⟨.refl, .refl hr⟩)
      (fun h h' => ⟨h.1.trans h'.1, h.2.trans h'.2⟩) (fun h => h.2.ready)
      (fun h hk => hk.leads h.2) (fun hr h => ?_) (@fun s key library node hr hk => ?_) h hr
    · exact ⟨.single (.act h), h.leads hr⟩
    · have hm := Move.list hk library node
      exact ⟨.single hm, hm.leads hr⟩
  exact hboth.1

section Parts

-- A change of one session, or one that concerns only who holds which sessions.
inductive Part (s : Thread) : Thread → Prop
  | changes {key : Nat} {t : Thread} (started : key ≤ s.started)
      (changes : Session.Changes key s t) : Part s t
  | holders {t : Thread} (sessions : t.sessions = s.sessions) (tracked : t.tracked = s.tracked)
      (native : t.native = s.native)
      (started : t.started = s.started ∨ t.started = s.started + 1)
      (current : ∀ key, t.current = some key → t.Has key) : Part s t

abbrev Parts : Thread → Thread → Prop :=
  Relation.ReflTransGen Part

theorem Part.leads (hr : s.Ready) (h : Part s t) : Leads s t := by
  cases h with
  | changes started changes => exact .of_acts hr started (changes.acts (hr.free _))
  | holders sessions tracked native started current =>
      exact .of_same hr sessions tracked native started current

theorem Parts.leads (hr : s.Ready) (h : Parts s t) : Leads s t := by
  induction h with
  | refl => exact .refl hr
  | tail _ last ih => exact ih.trans (last.leads ih.ready)

theorem start_parts (hr : s.Ready) : Parts s (start.run s).2 := by
  simp only [start, run_bind]
  rcases run_load_or s with ⟨loaded, hl⟩ | ⟨fault, hl⟩
  · rw [hl]
    exact .single (.holders rfl rfl rfl (.inr rfl) fun key hc => (hr.current key hc).succ)
  · rw [hl]

theorem currentSession_parts (hr : s.Ready) : Parts s (currentSession.run s).2 := by
  simp only [currentSession, run_bind]
  rcases run_load_or s with ⟨loaded, hl⟩ | ⟨fault, hl⟩
  · rw [hl]
    simp only [run_get]
    rcases hc : s.current with _ | key
    · simp only [start, run_bind]
      rcases run_load_or { s with libraryLoaded := loaded, current := none } with
        ⟨loaded', hl'⟩ | ⟨fault, hl'⟩
      · rw [hl']
        refine .single (.holders rfl rfl rfl (.inr rfl) fun key hcurrent => ?_)
        obtain rfl := Option.some.inj hcurrent
        exact ⟨Nat.succ_pos _, Nat.le_refl _⟩
      · rw [hl']
        refine .single (.holders rfl rfl rfl (.inl rfl) fun key hcurrent => ?_)
        exact absurd hcurrent.symm (Option.some_ne_none key)
    · exact .single
        (.holders rfl rfl rfl (.inl rfl) fun k hcurrent => hr.current k (hc.trans hcurrent))
  · rw [hl]

-- No change of a session starts or ends any.
theorem parts_of_changes (hr : s.Ready) (hk : key ≤ s.started)
    (h : Relation.ReflTransGen (Session.Changes key) s t) : Parts s t := by
  induction h with
  | refl => exact .refl
  | tail earlier last ih =>
      have ha := Session.changes_acts (hr.free key) earlier
      exact ih.tail (.changes (ha.started.symm ▸ hk) last)

theorem letGo_parts (hr : s.Ready) (hk : key ≤ s.started) : Parts s ((letGo key).run s).2 := by
  have hletting : Part s (Session.letting key s) := .holders rfl rfl rfl (.inl rfl) hr.current
  rw [Session.run_letGo]
  split
  · exact .head hletting (parts_of_changes (hletting.leads hr).ready hk (Session.drain_changes _))
  · exact .single hletting

theorem exit_parts (hr : s.Ready) : Parts s (exit.run s).2 := by
  simp only [exit, run_bind, run_get]
  rcases hc : s.current with _ | key
  · exact .refl
  · have hleft : Part s { s with current := none } :=
      .holders rfl rfl rfl (.inl rfl) fun key h => absurd h.symm (Option.some_ne_none key)
    exact .head hleft (letGo_parts (hleft.leads hr).ready (hr.current key hc).2)

theorem Act.parts (hr : s.Ready) (h : Act s t) : Parts s t := by
  cases h with
  | library search => exact .single (.holders rfl rfl rfl (.inl rfl) hr.current)
  | start => exact start_parts hr
  | currentSession => exact currentSession_parts hr
  | hold has => exact .single (.holders rfl rfl rfl (.inl rfl) hr.current)
  | letGo has => exact letGo_parts hr has.2
  | exit => exact exit_parts hr
  | step has step => exact .single (.changes has.2 (step.changes (hr.free _)))

theorem Move.parts (hr : s.Ready) (h : Move s t) : Parts s t := by
  cases h with
  | act act => exact act.parts hr
  | list has library node =>
      exact .single (.changes has.2 (Session.children_inquiry node).asksFor.changes)

theorem Reaches.parts (hr : s.Ready) (h : Reaches s t) : Parts s t := by
  induction h with
  | refl => exact .refl
  | @tail t u earlier last ih => exact ih.trans (last.parts (Reaches.leads hr earlier).ready)

-- What changes of single sessions keep, and who holds them does not concern, is kept at all times.
theorem Reaches.keeps {P : Thread → Prop}
    (changes : ∀ {key s t}, s.Sound → s.Ready → t.Few → Session.Changes key s t → P s → P t)
    (holders : ∀ {s t : Thread}, t.sessions = s.sessions → t.tracked = s.tracked →
      t.native = s.native → P s → P t)
    (hr : s.Ready) (hs : s.Sound) (h : Reaches s t) (few : t.Few) (hp : P s) : P t := by
  have hparts := h.parts hr
  clear h
  induction hparts with
  | refl => exact hp
  | @tail t u earlier last ih =>
      have ht := Parts.leads hr earlier
      have hfew : t.Few := (last.leads ht.ready).few few
      have hsound := ht.sound hfew hs
      cases last with
      | changes started change => exact changes hsound ht.ready few change (ih hfew)
      | holders sessions tracked native => exact holders sessions tracked native (ih hfew)

end Parts

section Registries

variable {c : Collection Resource}

-- The sessions of a thread are such registries as may be used in any order.
structure Gathers (c : Collection Resource) (thread : Thread) : Prop where
  registries : c.registries = thread.sessions
  made : c.made = thread.started
  counts : ∀ key, c.count key = thread.tracked key

theorem Gathers.withRegistry (h : Gathers c s) {registry : Registry Resource}
    {native : Native.State} :
    Gathers (c.withRegistry key registry) ((s.withSession key registry).withNative native) := by
  refine ⟨?_, h.made, h.counts⟩
  rw [Collection.withRegistry, h.registries]
  rfl

theorem Gathers.acquire (h : Gathers c s) (started : key ≤ s.started) {native : Native.State}
    {kind : ResourceKind} {resource : Resource} {id : ResourceId} {displaced : Option Resource}
    {registry : Registry Resource}
    (register : (s.sessions key).register kind resource = .ok (id, displaced, registry)) :
    ∃ d, Collection.Step c d ∧ Gathers d ((s.withNative native).owning key registry displaced) := by
  refine ⟨_, .acquire (h.made ▸ started) (h.registries ▸ register), ?_, ?_, ?_⟩
  · funext k
    by_cases hk : k = key
    · subst hk
      rw [owning_sessions]
      exact Collection.withRegistry_same
    · rw [owning_sessions_of_ne hk, withNative_sessions, ← h.registries]
      exact Collection.withRegistry_of_ne hk
  · rw [owning_started]
    exact h.made
  · intro k
    rw [Collection.count_granting, Collection.withRegistry_count, h.counts]
    by_cases hk : key = k
    · subst hk
      rw [if_pos rfl, owning_tracked]
      rfl
    · rw [if_neg hk, owning_tracked_of_ne (Ne.symm hk)]
      rfl

theorem Gathers.changes (h : Gathers c s) (started : key ≤ s.started)
    (hc : Session.Changes key s t) : ∃ d, Collection.Steps c d ∧ Gathers d t := by
  cases hc with
  | nothing | asked | noIndex | notParsed | noUnit =>
      exact ⟨c, .refl, h.registries, h.made, h.counts⟩
  | madeIndex register =>
      obtain ⟨d, hstep, hd⟩ := h.acquire started register
      exact ⟨d, .single hstep, hd⟩
  | madeUnit _ _ register =>
      obtain ⟨d, hstep, hd⟩ := h.acquire started register
      exact ⟨d, .single hstep, hd⟩
  | disposed take => exact ⟨_, .single (.dispose (h.registries ▸ take)), h.withRegistry⟩
  | drained take => exact ⟨_, .single (.disposeNewest (h.registries ▸ take)), h.withRegistry⟩

theorem Reaches.exists_collection (h : Reaches {} t) :
    ∃ c, Collection.Steps {} c ∧ Gathers c t := by
  have hparts := h.parts ready_new
  clear h
  induction hparts with
  | refl => exact ⟨{}, .refl, rfl, rfl, fun _ => rfl⟩
  | tail _ last ih =>
      obtain ⟨c, hsteps, hc⟩ := ih
      cases last with
      | changes started changes =>
          obtain ⟨d, hmore, hd⟩ := hc.changes started changes
          exact ⟨d, hsteps.trans hmore, hd⟩
      | holders sessions tracked _ started _ =>
          have hregistries := hc.registries.trans sessions.symm
          have hcounts := fun key => (hc.counts key).trans (congrFun tracked key).symm
          rcases started with started | started
          · exact ⟨c, hsteps, hregistries, hc.made.trans started.symm, hcounts⟩
          · refine ⟨_, hsteps.tail .make, hregistries, ?_, hcounts⟩
            rw [started, ← hc.made]

end Registries

end SyntaxHandles.Thread
