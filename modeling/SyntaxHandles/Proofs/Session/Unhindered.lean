import SyntaxHandles.Proofs.Session.Visiting

-- Sessions that nothing looks into between operations. No operation on them meets a conflict, and
-- each of them leaves the sessions so for the next one, also for one that a visitor asks for.

namespace SyntaxHandles

open Effect

namespace Thread

variable {α β : Type} {key : Nat} {s t : Thread}

def Free (thread : Thread) : Prop :=
  ∀ key, (thread.sessions key).borrow = .free

theorem Free.not_exclusive (hs : s.Free) (key : Nat) : (s.sessions key).borrow ≠ .exclusive := by
  rw [hs key]
  exact nofun

theorem Free.of_acts (hs : s.Free) (h : Session.Acts key s t) : t.Free := by
  intro k
  by_cases hk : k = key
  · exact hk ▸ h.free
  · rw [h.sessions k hk]
    exact hs k

-- An operation that meets no conflict, and leaves no session borrowed.
structure Unhindered (operation : Operation α) (s : Thread) : Prop where
  free : (operation.run s).2.Free
  goes : ∀ conflict, (operation.run s).1 ≠ .error (.conflict conflict)

theorem Unhindered.of_run {operation : Operation α} {ended : Except Interrupt α}
    (hr : operation.run s = (ended, t)) (ht : t.Free)
    (he : ∀ conflict, ended ≠ .error (.conflict conflict)) : Unhindered operation s := by
  refine ⟨?_, fun conflict => ?_⟩ <;> rw [hr]
  · exact ht
  · exact he conflict

theorem Unhindered.returned {operation : Operation α} {a : α} (hr : operation.run s = (.ok a, t))
    (ht : t.Free) : Unhindered operation s :=
  .of_run hr ht fun _ he => by cases he

theorem Unhindered.refused {operation : Operation α} {fault : Fault}
    (hr : operation.run s = (.error (.fault fault), t)) (ht : t.Free) : Unhindered operation s :=
  .of_run hr ht fun _ he => by cases he

theorem Unhindered.next {x : Operation α} {f : α → Operation β} {a : α}
    (hr : x.run s = (.ok a, t)) (h : Unhindered (f a) t) : Unhindered (x >>= f) s := by
  have he : (x >>= f).run s = (f a).run t := by rw [run_bind, hr]
  refine ⟨?_, fun conflict => ?_⟩ <;> rw [he]
  · exact h.free
  · exact h.goes conflict

theorem Unhindered.bind {x : Operation α} {f : α → Operation β} (hx : Unhindered x s)
    (hf : ∀ a t, x.run s = (.ok a, t) → t.Free → Unhindered (f a) t) :
    Unhindered (x >>= f) s := by
  rcases hr : x.run s with ⟨ended | a, t⟩
  · refine .of_run (by rw [run_bind, hr]) ?_ fun conflict he => ?_
    · simpa only [hr] using hx.free
    · exact hx.goes conflict (by rw [hr, Except.error.inj he])
  · exact next hr (hf a t hr (by simpa only [hr] using hx.free))

-- A last part that only puts results together.
theorem Unhindered.map {x : Operation α} {g : α → β} (hx : Unhindered x s) :
    Unhindered (x >>= fun a => pure (g a)) s :=
  hx.bind fun a t _ ht => .returned (run_pure (g a) t) ht

-- What is settled well is no hindrance.
theorem Unhindered.settled {f : α → Operation β} {settled : Except Conflict α} {a : α}
    (ha : settled = .ok a) (h : Unhindered (f a) s) : Unhindered (settle settled >>= f) s :=
  next (by rw [run_settle, ha]; rfl) h

theorem Unhindered.raised {f : α → Operation β} (raised : Except Fault α) (hs : s.Free)
    (h : ∀ a, raised = .ok a → Unhindered (f a) s) : Unhindered (raise raised >>= f) s := by
  cases raised with
  | error fault =>
      have hr : (raise (.error fault) >>= f).run s = (.error (.fault fault), s) := rfl
      exact .refused hr hs
  | ok a => exact next (run_raise (.ok a) s) (h a rfl)

theorem unhindered_load (hs : s.Free) : Unhindered load s := by
  have hr := run_load s
  split at hr
  · exact .returned hr hs
  · split at hr
    · exact .returned hr hs
    · exact .refused hr hs

theorem unhindered_start (hs : s.Free) : Unhindered start s :=
  (unhindered_load hs).bind fun _ _ _ ht => .returned rfl ht

theorem unhindered_currentSession (hs : s.Free) : Unhindered currentSession s := by
  refine (unhindered_load hs).bind fun _ t _ ht => .next (run_get t) ?_
  cases hc : t.current with
  | some key => exact .returned rfl ht
  | none =>
      refine (unhindered_start ht).bind fun key u _ hu => ?_
      exact .returned rfl hu

theorem unhindered_hold (hs : s.Free) (key : Nat) : Unhindered (hold key) s :=
  ⟨hs, nofun⟩

theorem unhindered_letGo (hs : s.Free) (key : Nat) : Unhindered (letGo key) s := by
  have hletting : (Session.letting key s).Free := hs
  by_cases hh : s.holders key ≤ 1
  · obtain ⟨t, hr, -⟩ := Session.letGo_empties (hs key) hh
    have hacts := Session.letGo_acts (hs key)
    rw [hr] at hacts
    exact .returned hr (hletting.of_acts hacts)
  · have hr := Session.run_letGo key s
    rw [if_neg hh] at hr
    exact .returned hr hletting

theorem unhindered_exit (hs : s.Free) : Unhindered exit s := by
  refine .next (run_get s) ?_
  cases s.current with
  | none => exact .returned rfl hs
  | some key =>
      refine .next (run_modify _ s) (unhindered_letGo ?_ key)
      exact fun k => hs k

end Thread

namespace Session

open Thread

variable {library : Native.Library} {key : Nat} {s : Thread}

theorem exists_unwrap {ν : Type} (hs : s.Free) (key : Nat) (token : Token ν) :
    ∃ answer, token.unwrap (s.sessions key) = .ok answer := by
  obtain ⟨alive, ha⟩ := Registry.exists_isAlive (hs.not_exclusive key) token.owner
  exact ⟨_, Collection.unwrap_eq ha token.raw⟩

theorem Inquiry.unhindered {ν α : Type} {token : Token ν} {subject : Option Native.Subject}
    {Keeps : α → Prop} {operation : Operation α}
    (h : Inquiry key token subject Keeps s (operation.run s)) (hs : s.Free) :
    Unhindered operation s := by
  have hacts := h.asksFor.changes.acts (hs key)
  refine ⟨hs.of_acts hacts, fun conflict he => ?_⟩
  obtain ⟨answer, hu⟩ := exists_unwrap hs key token
  generalize operation.run s = ended at h he
  cases h with
  | conflict unwrap => exact nomatch hu.symm.trans unwrap
  | refused => exact nomatch he
  | answered => exact nomatch he

-- A token is refused for the sake of its owner alone.
theorem unwrap_or (hs : s.Free) (key : Nat) {ν : Type} (token : Token ν) :
    (∃ raw, token.unwrap (s.sessions key) = .ok (.ok raw)) ∨
      ∃ reason, token.unwrap (s.sessions key) =
        .ok (.error (.invalidHandle token.owner reason)) := by
  obtain ⟨alive, ha⟩ := Registry.exists_isAlive (hs.not_exclusive key) token.owner
  have hu : token.unwrap (s.sessions key) = _ := Collection.unwrap_eq ha token.raw
  split at hu
  · cases alive with
    | true => exact .inl ⟨_, hu⟩
    | false => exact .inr ⟨_, hu⟩
  · exact .inr ⟨_, hu⟩

theorem run_isValid {ν : Type} {token : Token ν} {answer : Except Fault ν}
    (hu : token.unwrap (s.sessions key) = .ok answer) :
    (isValid key token).run s = (.ok answer.isOk, s) := by
  rw [isValid, run_bind, run_session]
  simp only [hu]
  rfl

-- A token that is told valid is answered about, and one that is not is refused.
theorem Inquiry.of_isValid {ν α : Type} {token : Token ν} {subject : Option Native.Subject}
    {Keeps : α → Prop} {operation : Operation α}
    (h : Inquiry key token subject Keeps s (operation.run s)) (hs : s.Free) :
    ((isValid key token).run s = (.ok true, s) ∧
      ∃ answer after, operation.run s = (.ok answer, after)) ∨
    ((isValid key token).run s = (.ok false, s) ∧
      ∃ reason, operation.run s = (.error (.fault (.invalidHandle token.owner reason)), s)) := by
  obtain ⟨raw, hu⟩ | ⟨reason, hu⟩ := unwrap_or hs key token
  · exact .inl ⟨run_isValid hu, h.of_unwrap hu⟩
  · exact .inr ⟨run_isValid hu, reason, h.of_unwrap_error hu⟩

-- Everything that can be asked of a session, and of the thread for the sake of sessions.
inductive Offers (library : Native.Library) (key : Nat) : {α : Type} → Operation α → Prop
  | start : Offers library key start
  | currentSession : Offers library key currentSession
  | hold : Offers library key (hold key)
  | letGo : Offers library key (letGo key)
  | exit : Offers library key exit
  | createIndex (options : IndexOptions) : Offers library key (createIndex library key options)
  | parse (handle : IndexHandle) (filename : String) (options : ParseOptions) :
      Offers library key (parse library key handle filename options)
  | root (handle : UnitHandle) : Offers library key (root key handle)
  | filename (handle : UnitHandle) : Offers library key (filename key handle)
  | dispose (id : ResourceId) : Offers library key (dispose key id)
  | isAlive (id : ResourceId) : Offers library key (isAlive key id)
  | isValid {ν : Type} (token : Token ν) : Offers library key (isValid key token)
  | askCursor (query : CursorQuery) (token : CursorToken) :
      Offers library key (askCursor library key query token)
  | askType (query : TypeQuery) (token : TypeToken) :
      Offers library key (askType library key query token)
  | children (node : CursorToken) : Offers library key (children library key node)

theorem unhindered_track (hs : s.Free) (kind : ResourceKind) (resource : Resource) :
    Unhindered (track key kind resource) s := by
  obtain ⟨id, displaced, registry, hr⟩ := Registry.exists_register (hs key) kind resource
  have hrun := run_track key kind resource s
  rw [hr] at hrun
  refine .returned hrun fun k => ?_
  by_cases hk : k = key
  · rw [hk, owning_sessions, (Registry.register_eq_ok hr).2]
    exact hs key
  · rw [owning_sessions_of_ne hk]
    exact hs k

theorem unhindered_createIndex (hs : s.Free) (options : IndexOptions) :
    Unhindered (createIndex library key options) s := by
  simp only [createIndex]
  split
  · refine .next (run_get s) (.next (run_natively _ s) ?_)
    refine .next (run_call _ _) (.next (run_natively _ _) ?_)
    refine .map (unhindered_track ?_ _ _)
    exact fun k => hs k
  · exact .next (run_call _ s) (.refused (run_fail _ _) hs)

theorem unhindered_parse (hs : s.Free) (handle : IndexHandle) (filename : String)
    (options : ParseOptions) : Unhindered (parse library key handle filename options) s := by
  obtain ⟨answer, ha⟩ := Registry.exists_look (hs.not_exclusive key) handle.id
    Resource.asIndex?
  refine .next (run_session key s) (.settled ha (.raised answer hs fun index _ => ?_))
  refine .next (run_natively _ s) ?_
  simp only [parseShared]
  split
  · exact .next (run_natively _ _) (.refused (run_fail _ _) hs)
  · split
    · refine .next (run_call _ _) (.next (run_natively _ _) ?_)
      exact .refused (run_fail _ _) hs
    · refine .next (run_get _) (.next (run_natively _ _) (.next (run_call _ _) ?_))
      refine .map (unhindered_track ?_ _ _)
      exact fun k => hs k

theorem unhindered_unit (hs : s.Free) (handle : UnitHandle) :
    Unhindered (Session.unit key handle) s := by
  obtain ⟨answer, ha⟩ := Registry.exists_look (hs.not_exclusive key) handle.id
    Resource.asUnit?
  refine .next (run_session key s) (.settled ha ?_)
  cases answer with
  | error fault => exact .refused (run_raise (.error fault) s) hs
  | ok named => exact .returned (run_raise (.ok named) s) hs

theorem unhindered_dispose (hs : s.Free) (id : ResourceId) : Unhindered (dispose key id) s := by
  obtain ⟨taken, registry, ht⟩ := Registry.exists_take (hs key) id
  have hset : (s.withSession key registry).Free := by
    intro k
    by_cases hk : k = key
    · rw [hk, withSession_sessions, (Registry.take_eq_ok ht).2]
      exact hs key
    · rw [withSession_sessions_of_ne hk]
      exact hs k
  refine .next (run_session key s) (.settled ht (.next (run_setSession key registry s) ?_))
  cases taken with
  | none => exact .returned rfl hset
  | some resource => exact .next (run_release resource _) (.returned rfl hset)

-- Whether or not there is anything to dispose of, the identity is dead afterwards.
theorem exists_dispose (hs : s.Free) (key : Nat) (id : ResourceId) :
    ∃ released t, (dispose key id).run s = (.ok released, t) ∧
      (Session.isAlive key id).run t = (.ok false, t) := by
  obtain ⟨taken, registry, ht⟩ := Registry.exists_take (hs key) id
  have hdead := Registry.isAlive_of_take (hs key) ht
  have halive {t : Thread} (hsession : t.sessions key = registry) :
      (Session.isAlive key id).run t = (.ok false, t) := by
    rw [Session.isAlive, run_bind, run_session]
    simp only [run_settle, hsession, hdead]
    rfl
  simp only [dispose, run_bind, run_session, run_settle, ht, Except.mapError, run_setSession]
  cases taken with
  | none => exact ⟨false, s.withSession key registry, rfl, halive withSession_sessions⟩
  | some resource =>
      simp only [run_bind, run_release]
      exact ⟨true, _, rfl, halive withSession_sessions⟩

theorem unhindered_isAlive (hs : s.Free) (id : ResourceId) :
    Unhindered (Session.isAlive key id) s := by
  obtain ⟨alive, ha⟩ := Registry.exists_isAlive (hs.not_exclusive key) id
  have hr : (settle ((s.sessions key).isAlive id)).run s = (.ok alive, s) := by
    rw [run_settle, ha]
    rfl
  exact .next (run_session key s) (.returned hr hs)

theorem unhindered_root (hs : s.Free) (handle : UnitHandle) : Unhindered (root key handle) s :=
  (unhindered_unit hs handle).bind fun _ t _ ht => .next (run_call _ t) (.returned rfl ht)

theorem Offers.unhindered {α : Type} {operation : Operation α}
    (h : Offers library key operation) (hs : s.Free) : Unhindered operation s := by
  cases h with
  | start => exact unhindered_start hs
  | currentSession => exact unhindered_currentSession hs
  | hold => exact unhindered_hold hs key
  | letGo => exact unhindered_letGo hs key
  | exit => exact unhindered_exit hs
  | createIndex options => exact unhindered_createIndex hs options
  | parse handle filename options => exact unhindered_parse hs handle filename options
  | root handle => exact unhindered_root hs handle
  | filename handle => exact .map (unhindered_unit hs handle)
  | dispose id => exact unhindered_dispose hs id
  | isAlive id => exact unhindered_isAlive hs id
  | isValid token =>
      obtain ⟨answer, hu⟩ := exists_unwrap hs key token
      exact .next (run_session key s) (.settled hu (.returned rfl hs))
  | askCursor query token => exact (askCursor_inquiry query token).unhindered hs
  | askType query token => exact (askType_inquiry query token).unhindered hs
  | children node => exact (children_inquiry node).unhindered hs

theorem free_of_reaches (reached : Reaches {} s) : s.Free :=
  (reached.leads ready_new).ready.free

-- A listing that is refused is refused for a reason.
theorem exists_fault {α : Type} {operation : Operation α} (h : Unhindered operation s)
    {interrupt : Interrupt} (he : (operation.run s).1 = .error interrupt) :
    ∃ fault, interrupt = .fault fault := by
  cases interrupt with
  | fault fault => exact ⟨fault, rfl⟩
  | conflict conflict => exact absurd he (h.goes conflict)

section Visits

variable {τ ε : Type} {convert : Interrupt → ε}
  {visit : (child parent : CursorToken) → Thread × τ → Except ε ChildVisit × (Thread × τ)}

theorem host_stays {P : Thread × τ → Prop} {E : ε → Prop} (free : ∀ p, P p → p.1.Free)
    (lists : ∀ node p, P p → P (((children library key node).run p.1).2, p.2))
    (refuses : ∀ fault, E (convert (.fault fault)))
    (visits : ∀ child parent p, P p → P (visit child parent p).2 ∧
      ∀ error, (visit child parent p).1 = .error error → E error) :
    Traversal.Host.Stays P E (host library key convert visit) where
  children node p hp := by
    refine ⟨lists node p hp, fun interrupt he => ?_⟩
    have hu : Unhindered (children library key node) p.1 :=
      Offers.unhindered (.children node) (free p hp)
    obtain ⟨fault, rfl⟩ := exists_fault hu he
    exact refuses fault
  visit := visits

theorem visitChildren_stays {P : Thread × τ → Prop} {E : ε → Prop}
    (h : Traversal.Host.Stays P E (host library key convert visit)) {fuel : Nat}
    {token : CursorToken} {p q : Thread × τ} {result : Except ε VisitOutcome}
    (traversal : visitChildren library key convert visit fuel token p = some (result, q))
    (hp : P p) : P q ∧ ∀ error, result = .error error → E error := by
  simp only [visitChildren, Option.map_eq_some_iff] at traversal
  obtain ⟨ended, hrun, he⟩ := traversal
  obtain ⟨rfl, rfl⟩ := Prod.mk.inj he
  exact Traversal.run_stays h hrun hp

-- What ends a traversal early comes from the visitor, or is the reason why a level is not listed.
theorem visitChildren_error (reached : Reaches {} s) (has : s.Has key) (roams : Roams s visit)
    {fuel : Nat} {token : CursorToken} {own : τ} {error : ε} {after : Thread × τ}
    (traversal : visitChildren library key convert visit fuel token (s, own) =
      some (.error error, after)) :
    (∃ child parent p, (visit child parent p).1 = .error error) ∨
      ∃ fault, error = convert (.fault fault) := by
  have hstays : Traversal.Host.Stays (fun p => Reaches s p.1)
      (fun error => (∃ child parent p, (visit child parent p).1 = .error error) ∨
        ∃ fault, error = convert (.fault fault)) (host library key convert visit) := by
    refine host_stays (fun p hp => ?_) (fun node p hp => ?_) (fun fault => .inr ⟨fault, rfl⟩)
      fun child parent p hp => ⟨?_, fun error he => .inl ⟨child, parent, p, he⟩⟩
    · exact free_of_reaches (reached.trans hp)
    · exact hp.tail (.list (has_of_reaches reached has hp) library node)
    · exact hp.trans (roams child parent p.1 p.2 hp)
  exact (visitChildren_stays hstays traversal .refl).2 error rfl

end Visits

end Session

end SyntaxHandles
