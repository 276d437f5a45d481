import SyntaxHandles.Proofs.Keys
import SyntaxHandles.Proofs.Session.Runs

-- Any number of sessions in one thread, started, held and dropped in any order.

namespace SyntaxHandles.Thread

open Effect

variable {key : Nat} {s t u : Thread}

-- Whether a session was started, even if it is over by now.
def Has (thread : Thread) (key : Nat) : Prop :=
  0 < key ∧ key ≤ thread.started

def resources (thread : Thread) (key : Nat) : List Resource :=
  (thread.sessions key).live.map (·.resource)

def held (thread : Thread) : List Resource :=
  (List.range (thread.started + 1)).flatMap thread.resources

def heldBeside (thread : Thread) (key : Nat) : List Resource :=
  ((List.range (thread.started + 1)).filter (· != key)).flatMap thread.resources

theorem held_perm (h : key ≤ s.started) : s.held.Perm (s.resources key ++ s.heldBeside key) := by
  have hp := (perm_range (Nat.lt_succ_of_le h)).flatMap_right s.resources
  exact hp.trans (.of_eq (List.flatMap_cons ..))

-- The resources of all sessions are what the library has made and not yet got back.
structure Sound (thread : Thread) : Prop where
  issued : ∀ key, (thread.sessions key).Issued (thread.tracked key)
  kinds : ∀ key, ∀ entry ∈ (thread.sessions key).live, entry.kind = entry.resource.kind
  unstarted : ∀ key, thread.started < key → (thread.sessions key).live = []
  accounts : thread.native.Accounts thread.held

-- What holds of a thread however many resources its sessions have come to own.
structure Ready (thread : Thread) : Prop where
  free : ∀ key, (thread.sessions key).borrow = .free
  ids : ∀ key, (thread.sessions key).id = UInt32.ofNat key
  current : ∀ key, thread.current = some key → thread.Has key

def Few (thread : Thread) : Prop :=
  ∀ key, thread.tracked key < UInt32.size

theorem Few.of_single (hk : s.tracked key < UInt32.size)
    (hne : ∀ k, k ≠ key → s.tracked k = 0) : s.Few := by
  intro k
  by_cases he : k = key
  · exact he ▸ hk
  · rw [hne k he]
    decide

structure Leads (s t : Thread) : Prop where
  ready : t.Ready
  started : s.started ≤ t.started
  tracked : ∀ key, s.tracked key ≤ t.tracked key
  log : s.native.log <:+ t.native.log
  sound : t.Few → s.Sound → t.Sound
  lasts : t.Few → s.Sound → ∀ key, Session.Lasts key s t

theorem Leads.refl (h : s.Ready) : Leads s s where
  ready := h
  started := Nat.le_refl _
  tracked _ := Nat.le_refl _
  log := List.suffix_rfl
  sound _ hs := hs
  lasts _ _ key := .refl key s

theorem Leads.few (h : Leads s t) (few : t.Few) : s.Few :=
  fun key => Nat.lt_of_le_of_lt (h.tracked key) (few key)

theorem Leads.trans (h : Leads s t) (h' : Leads t u) : Leads s u where
  ready := h'.ready
  started := Nat.le_trans h.started h'.started
  tracked key := Nat.le_trans (h.tracked key) (h'.tracked key)
  log := h.log.trans h'.log
  sound few hs := h'.sound few (h.sound (h'.few few) hs)
  lasts few hs key := by
    have ht := h.sound (h'.few few) hs
    exact (h.lasts (h'.few few) hs key).trans (h'.lasts few ht key) (h.tracked key) h'.log

theorem Has.leads (h : s.Has key) (hl : Leads s t) : t.Has key :=
  ⟨h.1, Nat.le_trans h.2 hl.started⟩

section Operations

theorem ne_of_unstarted (hk : key ≤ s.started) {k : Nat} (hu : s.started < k) : k ≠ key := by
  omega

-- The resources that an operation on one session leaves alone.
theorem heldBeside_of_acts (h : Session.Acts key s t) : t.heldBeside key = s.heldBeside key := by
  rw [heldBeside, heldBeside, h.started]
  refine List.flatMap_congr fun k hm => ?_
  have hk : k ≠ key := by simpa using (List.mem_filter.mp hm).2
  rw [resources, resources, h.sessions k hk]

theorem Sound.carries (hk : key ≤ s.started) (h : Session.Acts key s t) (few : t.Few)
    (hs : s.Sound) : Session.Carries key (s.heldBeside key) s t := by
  apply h.carries (few key)
  exact ⟨hs.issued key, hs.kinds key, hs.accounts.perm (held_perm hk)⟩

theorem Sound.of_acts (hk : key ≤ s.started) (h : Session.Acts key s t) (few : t.Few)
    (hs : s.Sound) : t.Sound := by
  have hc := (hs.carries hk h few).sound
  refine ⟨fun k => ?_, fun k => ?_, fun k hu => ?_, ?_⟩
  · by_cases he : k = key
    · exact he ▸ hc.issued
    · rw [h.sessions k he, h.counts k he]
      exact hs.issued k
  · by_cases he : k = key
    · exact he ▸ hc.kinds
    · rw [h.sessions k he]
      exact hs.kinds k
  · rw [h.started] at hu
    rw [h.sessions k (ne_of_unstarted hk hu)]
    exact hs.unstarted k hu
  · have hp := held_perm (Nat.le_trans hk (Nat.le_of_eq h.started.symm))
    rw [heldBeside_of_acts h] at hp
    exact hc.accounts.perm hp.symm

theorem Leads.of_acts (hr : s.Ready) (hk : key ≤ s.started) (h : Session.Acts key s t) :
    Leads s t where
  ready := by
    refine ⟨fun k => ?_, fun k => ?_, fun k hc => ?_⟩
    · by_cases he : k = key
      · exact he ▸ h.free
      · rw [h.sessions k he]
        exact hr.free k
    · by_cases he : k = key
      · rw [he, h.id]
        exact hr.ids key
      · rw [h.sessions k he]
        exact hr.ids k
    · rw [h.current] at hc
      rw [Has, h.started]
      exact hr.current k hc
  started := Nat.le_of_eq h.started.symm
  tracked k := by
    by_cases he : k = key
    · exact he ▸ h.tracked
    · exact Nat.le_of_eq (h.counts k he).symm
  log := h.log
  sound few hs := hs.of_acts hk h few
  lasts few hs k := by
    by_cases he : k = key
    · exact he ▸ (hs.carries hk h few).lasts
    · refine ⟨fun entry hm => .inl ?_, fun entry hm => .inl ?_⟩
      · exact h.sessions k he ▸ hm
      · exact (h.sessions k he).symm ▸ hm

end Operations

section Management

-- What concerns only who holds which sessions.
theorem Leads.of_same (hr : s.Ready) (hsessions : t.sessions = s.sessions)
    (htracked : t.tracked = s.tracked) (hnative : t.native = s.native)
    (hstarted : t.started = s.started ∨ t.started = s.started + 1)
    (hcurrent : ∀ key, t.current = some key → t.Has key) : Leads s t where
  ready := ⟨hsessions ▸ hr.free, hsessions ▸ hr.ids, hcurrent⟩
  started := by omega
  tracked key := Nat.le_of_eq (congrFun htracked key).symm
  log := hnative ▸ List.suffix_rfl
  sound few hs := by
    have hresources : t.resources = s.resources := by
      funext key
      rw [resources, resources, hsessions]
    refine ⟨?_, hsessions ▸ hs.kinds, fun key hu => ?_, ?_⟩
    · rw [hsessions, htracked]
      exact hs.issued
    · rw [hsessions]
      exact hs.unstarted key (by omega)
    · rw [hnative, held, hresources]
      rcases hstarted with hstarted | hstarted
      · rw [hstarted]
        exact hs.accounts
      · have hnew : s.resources (s.started + 1) = [] := by
          rw [resources, hs.unstarted _ (Nat.lt_succ_self _), List.map_nil]
        rw [hstarted, List.range_succ, List.flatMap_append, List.flatMap_singleton, hnew,
          List.append_nil]
        exact hs.accounts
  lasts few hs key := by
    refine ⟨fun entry hm => .inl ?_, fun entry hm => .inl ?_⟩
    · exact hsessions ▸ hm
    · exact hsessions.symm ▸ hm

theorem run_load (s : Thread) :
    load.run s = if s.libraryLoaded then (.ok (), s)
      else match s.search with
        | .ok () => (.ok (), { s with libraryLoaded := true })
        | .error problem => (.error (.fault (.libraryUnavailable problem)), s) := by
  simp only [load, run_bind, run_get]
  rcases s.libraryLoaded with _ | _
  · rcases hp : s.search with problem | _
    · simp only [Bool.false_eq_true, if_false, run_bind, run_get, hp, run_fail]
    · simp only [Bool.false_eq_true, if_false, run_bind, run_get, hp, run_modify]
  · rfl

-- Loading the library changes nothing else.
theorem run_load_or (s : Thread) :
    (∃ loaded, load.run s = (.ok (), { s with libraryLoaded := loaded })) ∨
      ∃ fault, load.run s = (.error fault, s) := by
  rw [run_load]
  split
  · exact .inl ⟨s.libraryLoaded, rfl⟩
  · cases s.search with
    | ok _ => exact .inl ⟨true, rfl⟩
    | error problem => exact .inr ⟨_, rfl⟩

theorem Has.succ (h : s.Has key) : 0 < key ∧ key ≤ s.started + 1 :=
  ⟨h.1, Nat.le_succ_of_le h.2⟩

theorem start_leads (hr : s.Ready) : Leads s (start.run s).2 := by
  simp only [start, run_bind]
  rcases run_load_or s with ⟨loaded, hl⟩ | ⟨fault, hl⟩
  · rw [hl]
    exact .of_same hr rfl rfl rfl (.inr rfl) fun key hc => (hr.current key hc).succ
  · rw [hl]
    exact .refl hr

theorem hold_leads (hr : s.Ready) (key : Nat) : Leads s ((hold key).run s).2 :=
  .of_same hr rfl rfl rfl (.inl rfl) hr.current

theorem letGo_leads (hr : s.Ready) (hk : key ≤ s.started) : Leads s ((letGo key).run s).2 := by
  have hletting : Leads s (Session.letting key s) :=
    .of_same hr rfl rfl rfl (.inl rfl) hr.current
  exact hletting.trans (.of_acts hletting.ready hk (Session.letGo_acts (hr.free key)))

theorem currentSession_leads (hr : s.Ready) : Leads s (currentSession.run s).2 := by
  simp only [currentSession, run_bind]
  rcases run_load_or s with ⟨loaded, hl⟩ | ⟨fault, hl⟩
  · rw [hl]
    simp only [run_get]
    rcases hc : s.current with _ | key
    · simp only [start, run_bind]
      rcases run_load_or { s with libraryLoaded := loaded, current := none } with
        ⟨loaded', hl'⟩ | ⟨fault, hl'⟩
      · rw [hl']
        refine .of_same hr rfl rfl rfl (.inr rfl) fun key hcurrent => ?_
        obtain rfl := Option.some.inj hcurrent
        exact ⟨Nat.succ_pos _, Nat.le_refl _⟩
      · rw [hl']
        exact .of_same hr rfl rfl rfl (.inl rfl) fun key hcurrent => nomatch hcurrent
    · exact .of_same hr rfl rfl rfl (.inl rfl) fun k hcurrent => hr.current k (hc.trans hcurrent)
  · rw [hl]
    exact .refl hr

theorem exit_leads (hr : s.Ready) : Leads s (exit.run s).2 := by
  simp only [exit, run_bind, run_get]
  rcases hc : s.current with _ | key
  · exact .refl hr
  · have hleft : Leads s { s with current := none } :=
      .of_same hr rfl rfl rfl (.inl rfl) fun _ h => nomatch h
    exact hleft.trans (letGo_leads hleft.ready (hr.current key hc).2)

end Management

-- What can be done in a thread: sessions are started and held, let go of and used.
inductive Act (s : Thread) : Thread → Prop
  | library (search : Except String Unit) : Act s { s with search }
  | start : Act s (start.run s).2
  | currentSession : Act s (currentSession.run s).2
  | hold {key : Nat} (has : s.Has key) : Act s ((hold key).run s).2
  | letGo {key : Nat} (has : s.Has key) : Act s ((letGo key).run s).2
  | exit : Act s (exit.run s).2
  | step {key : Nat} {t : Thread} (has : s.Has key) (step : Session.Step key s t) : Act s t

theorem Act.leads (hr : s.Ready) (h : Act s t) : Leads s t := by
  cases h with
  | library search => exact .of_same hr rfl rfl rfl (.inl rfl) hr.current
  | start => exact start_leads hr
  | currentSession => exact currentSession_leads hr
  | hold has => exact hold_leads hr _
  | letGo has => exact letGo_leads hr has.2
  | exit => exact exit_leads hr
  | step has step => exact .of_acts hr has.2 (step.acts (hr.free _))

abbrev Run : Thread → Thread → Prop :=
  Runs Act Has

theorem Run.leads (hr : s.Ready) (h : Run s t) : Leads s t := by
  refine h.keeps .refl .trans Leads.ready (fun hl hk => hk.leads hl) (fun hr h => h.leads hr) ?_ hr
  intro s key library node hr hk
  exact .of_acts hr hk.2 (Session.children_acts (hr.free key) node)

theorem ready_new : Ready {} :=
  ⟨fun _ => rfl, fun _ => rfl, fun _ h => nomatch h⟩

theorem sound_new : Sound {} where
  issued _ := .fresh _
  kinds _ _ hm := absurd hm List.not_mem_nil
  unstarted _ _ := rfl
  accounts := .empty

end SyntaxHandles.Thread
