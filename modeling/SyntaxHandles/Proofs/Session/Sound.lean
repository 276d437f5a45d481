import SyntaxHandles.Proofs.Session.Changes

-- What an operation on a session keeps, as long as the session has not run out of serials.

namespace SyntaxHandles

namespace Session

open Effect Thread

variable {key : Nat} {others : List Resource} {s t u : Thread}

-- The resources of a session, and others that are held besides them, are what the library has made
-- and not yet got back.
structure Sound (key : Nat) (others : List Resource) (thread : Thread) : Prop where
  issued : (thread.sessions key).Issued (thread.tracked key)
  kinds : ∀ entry ∈ (thread.sessions key).live, entry.kind = entry.resource.kind
  accounts : thread.native.Accounts ((thread.sessions key).live.map (·.resource) ++ others)

theorem Sound.indexAlive (h : Sound key others s) {entry : Entry Resource} {index : Nat}
    (hm : entry ∈ (s.sessions key).live) (is : entry.resource = .index index) :
    Native.IndexAlive s.native.log index :=
  h.accounts.indexAlive_of_mem (List.mem_append_left _ (List.mem_map_of_mem hm))
    (by simp [is, Resource.holds])

-- What becomes of the entries of a session. New ones have new serials, and a unit that has lost its
-- entry was given back.
structure Lasts (key : Nat) (s t : Thread) : Prop where
  kept : ∀ entry ∈ (t.sessions key).live,
    entry ∈ (s.sessions key).live ∨ s.tracked key < entry.serial.toNat
  gone : ∀ entry ∈ (s.sessions key).live, entry ∈ (t.sessions key).live ∨
    ∀ unit, entry.resource.unitNumber? = some unit → .disposeUnit unit ∈ t.native.log

structure Carries (key : Nat) (others : List Resource) (s t : Thread) : Prop where
  sound : Sound key others t
  lasts : Lasts key s t

theorem Lasts.refl (key : Nat) (s : Thread) : Lasts key s s :=
  ⟨fun _ => .inl, fun _ => .inl⟩

theorem Lasts.trans (h : Lasts key s t) (h' : Lasts key t u)
    (ht : s.tracked key ≤ t.tracked key) (hlog : t.native.log <:+ u.native.log) :
    Lasts key s u := by
  refine ⟨fun entry hm => ?_, fun entry hm => ?_⟩
  · rcases h'.kept entry hm with hm | hlt
    · exact h.kept entry hm
    · exact .inr (Nat.lt_of_le_of_lt ht hlt)
  · rcases h.gone entry hm with hm | hg
    · exact h'.gone entry hm
    · exact .inr fun unit hu => hlog.mem (hg unit hu)

-- A serial stands for one entry at all times.
theorem Lasts.eq_of_serial (h : Lasts key s t)
    (hs : (s.sessions key).Issued (s.tracked key)) {entry later : Entry Resource}
    (hm : entry ∈ (s.sessions key).live)
    (hl : later ∈ (t.sessions key).live) (he : later.serial = entry.serial) : later = entry := by
  rcases h.kept later hl with hold | hnew
  · exact hs.eq_of_serial hold hm he
  · have hg := (hs.given entry hm).2
    rw [he] at hnew
    omega

structure Acts (key : Nat) (s t : Thread) : Prop where
  sessions : ∀ k, k ≠ key → t.sessions k = s.sessions k
  counts : ∀ k, k ≠ key → t.tracked k = s.tracked k
  holders : t.holders = s.holders
  started : t.started = s.started
  current : t.current = s.current
  id : (t.sessions key).id = (s.sessions key).id
  free : (t.sessions key).borrow = .free
  tracked : s.tracked key ≤ t.tracked key
  log : s.native.log <:+ t.native.log
  carries : t.tracked key < UInt32.size → ∀ others, Sound key others s → Carries key others s t

theorem Acts.refl (hf : (s.sessions key).borrow = .free) : Acts key s s where
  sessions _ _ := rfl
  counts _ _ := rfl
  holders := rfl
  started := rfl
  current := rfl
  id := rfl
  free := hf
  tracked := Nat.le_refl _
  log := List.suffix_rfl
  carries _ _ h := ⟨h, fun _ => .inl, fun _ => .inl⟩

theorem Acts.trans (h : Acts key s t) (h' : Acts key t u) : Acts key s u where
  sessions k hk := (h'.sessions k hk).trans (h.sessions k hk)
  counts k hk := (h'.counts k hk).trans (h.counts k hk)
  holders := h'.holders.trans h.holders
  started := h'.started.trans h.started
  current := h'.current.trans h.current
  id := h'.id.trans h.id
  free := h'.free
  tracked := Nat.le_trans h.tracked h'.tracked
  log := h.log.trans h'.log
  carries few others hs := by
    have hc := h.carries (Nat.lt_of_le_of_lt h'.tracked few) others hs
    have hc' := h'.carries few others hc.sound
    exact ⟨hc'.sound, hc.lasts.trans hc'.lasts h.tracked h'.log⟩

-- An operation that leaves the session alone.
theorem Acts.of_native {state : Native.State} (hf : (s.sessions key).borrow = .free)
    (hlog : s.native.log <:+ state.log)
    (hn : ∀ others, Sound key others s →
      state.Accounts ((s.sessions key).live.map (·.resource) ++ others)) :
    Acts key s (s.withNative state) where
  sessions _ _ := rfl
  counts _ _ := rfl
  holders := rfl
  started := rfl
  current := rfl
  id := rfl
  free := hf
  tracked := Nat.le_refl _
  log := hlog
  carries _ others hs := ⟨⟨hs.issued, hs.kinds, hn others hs⟩, fun _ => .inl, fun _ => .inl⟩

-- An operation that tracks one more resource.
theorem Acts.of_register {state : Native.State} {kind : ResourceKind} {resource : Resource}
    {id : ResourceId} {displaced : Option Resource} {registry : Registry Resource}
    (hf : (s.sessions key).borrow = .free) (hlog : s.native.log <:+ state.log)
    (hkind : resource.kind = kind)
    (hn : ∀ others, Sound key others s →
      state.Accounts (resource :: ((s.sessions key).live.map (·.resource) ++ others)))
    (hr : (s.sessions key).register kind resource = .ok (id, displaced, registry)) :
    Acts key s ((s.withNative state).owning key registry displaced) where
  sessions k hk := by rw [owning_sessions_of_ne hk, withNative_sessions]
  counts k hk := by rw [owning_tracked_of_ne hk]; rfl
  holders := owning_holders ..
  started := owning_started ..
  current := owning_current ..
  id := by rw [owning_sessions, (Registry.register_eq_ok hr).1]
  free := by rw [owning_sessions, (Registry.register_eq_ok hr).2, hf]
  tracked := by
    rw [owning_tracked]
    exact Nat.le_succ _
  log := hlog.trans (log_suffix_owning (s.withNative state))
  carries few others hs := by
    rw [owning_tracked] at few
    rw [hs.issued.register_eq few hf] at hr
    simp only [Except.ok.injEq, Prod.mk.injEq] at hr
    obtain ⟨-, rfl, rfl⟩ := hr
    refine ⟨⟨?_, ?_, ?_⟩, ?_, ?_⟩
    · rw [owning_sessions, owning_tracked]
      exact hs.issued.grown few kind resource
    · rw [owning_sessions]
      exact List.forall_mem_cons.mpr ⟨hkind.symm, hs.kinds⟩
    · rw [owning_sessions]
      exact hn others hs
    · rw [owning_sessions]
      refine List.forall_mem_cons.mpr ⟨.inr ?_, fun entry hm => .inl hm⟩
      have hserial := Registry.toNat_ofNat_of_lt few
      exact hserial.symm ▸ Nat.lt_succ_self _
    · rw [owning_sessions]
      exact fun entry hm => .inl (.tail _ hm)

-- An operation that releases a resource of the session.
theorem Acts.of_loses {resource : Resource} {registry : Registry Resource}
    (hf : (s.sessions key).borrow = .free)
    (hsame : registry.id = (s.sessions key).id ∧ registry.borrow = (s.sessions key).borrow)
    (hl : (s.sessions key).Issued (s.tracked key) → (s.sessions key).Loses resource registry) :
    Acts key s ((s.withSession key registry).withNative (s.native.release resource)) where
  sessions k hk := by rw [withNative_sessions, withSession_sessions_of_ne hk]
  counts _ _ := rfl
  holders := rfl
  started := rfl
  current := rfl
  id := by rw [withNative_sessions, withSession_sessions, hsame.1]
  free := by rw [withNative_sessions, withSession_sessions, hsame.2, hf]
  tracked := Nat.le_refl _
  log := s.native.release_log_suffix resource
  carries few others hs := by
    obtain ⟨heq, hsub, entry, rfl, hperm⟩ := hl hs.issued
    refine ⟨⟨?_, ?_, ?_⟩, ?_, ?_⟩
    · rw [withNative_sessions, withSession_sessions, heq]
      exact hs.issued.of_sublist hsub
    · rw [withNative_sessions, withSession_sessions]
      exact fun other hm => hs.kinds other (hsub.subset hm)
    · rw [withNative_sessions, withSession_sessions]
      exact (hs.accounts.perm ((hperm.map _).append_right others)).release
    · rw [withNative_sessions, withSession_sessions]
      exact fun other hm => .inl (hsub.subset hm)
    · rw [withNative_sessions, withSession_sessions]
      intro other hm
      rcases List.mem_cons.mp (hperm.mem_iff.mp hm) with rfl | hm
      · exact .inr fun unit hu => Native.State.disposeUnit_mem_release s.native hu
      · exact .inl hm

theorem Changes.acts (hf : (s.sessions key).borrow = .free) (h : Changes key s t) :
    Acts key s t := by
  cases h with
  | nothing => exact .refl hf
  | @asked entry subject native hm hunit asks =>
      refine .of_native hf asks.log_suffix fun others hs => ?_
      have hk := hunit (hs.kinds entry hm)
      cases he : entry.resource with
      | index number => simp [he, Resource.kind] at hk
      | unit parsed filename index =>
          have hu : entry.resource.unitNumber? = some parsed.number := by
            simp only [he, Resource.unitNumber?]
          refine hs.accounts.asks ?_ (hu ▸ asks)
          exact List.mem_filterMap.mpr
            ⟨_, List.mem_append_left _ (List.mem_map_of_mem hm), hu⟩
  | noIndex exclude display =>
      refine .of_native hf (s.native.note_log_suffix _) fun others hs => ?_
      exact hs.accounts.note (fun n hn => absurd hn.symm (Option.some_ne_none n)) rfl
  | madeIndex hr =>
      exact .of_register hf (s.native.makeIndex_log_suffix ..) rfl
        (fun others hs => hs.accounts.create _ _) hr
  | notParsed hm is =>
      refine .of_native hf ((s.native.share _).unshare_log_suffix _) fun others hs => ?_
      exact (hs.accounts.share (hs.indexAlive hm is)).unshare
  | noUnit hm is filename args count flags code =>
      refine .of_native hf ?_ fun others hs => ?_
      · exact ((s.native.share _).note_log_suffix _).trans (Native.State.unshare_log_suffix ..)
      · have hi := hs.indexAlive hm is
        have hshared := hs.accounts.share hi
        have ha : (Native.Call.parse _ filename args count flags none code).Allowed _ :=
          ⟨hi, fun n hn => absurd hn.symm (Option.some_ne_none n)⟩
        exact (hshared.note ha rfl).unshare
  | @madeUnit entry index root filename args count flags code id displaced registry hm is hr =>
      have hlog := (s.native.share index).makeUnit_log_suffix index filename args count flags code
      refine .of_register hf hlog ?_ (fun others hs => ?_) hr
      · rfl
      · exact (hs.accounts.share (hs.indexAlive hm is)).parse ..
  | disposed ht =>
      exact .of_loses hf (Registry.take_eq_ok ht) fun hi => hi.loses_of_take hf ht
  | drained ht =>
      exact .of_loses hf (Registry.takeNewest_eq_ok ht) fun _ => Registry.loses_of_takeNewest ht

section Dropping

theorem changes_acts (hf : (s.sessions key).borrow = .free)
    (h : Relation.ReflTransGen (Changes key) s t) : Acts key s t := by
  induction h with
  | refl => exact .refl hf
  | tail _ last ih => exact ih.trans (last.acts ih.free)

-- The thread with one hold of a session less.
def letting (key : Nat) (thread : Thread) : Thread :=
  { thread with holders := fun k => if k = key then thread.holders key - 1 else thread.holders k }

theorem run_letGo (key : Nat) (s : Thread) :
    (letGo key).run s =
      if s.holders key ≤ 1 then (drain key ((s.sessions key).liveCount + 1)).run (letting key s)
      else (.ok (), letting key s) := by
  simp only [letGo, run_bind, run_get, run_modify]
  split <;> rfl

theorem letGo_acts (hf : (s.sessions key).borrow = .free) :
    Acts key (letting key s) ((letGo key).run s).2 := by
  rw [run_letGo]
  split
  · exact changes_acts hf (drain_changes _)
  · exact .refl hf

-- The last one to hold a session leaves nothing in it.
theorem letGo_empties (hf : (s.sessions key).borrow = .free) (hh : s.holders key ≤ 1) :
    ∃ t, (letGo key).run s = (.ok (), t) ∧ (t.sessions key).live = [] := by
  rw [run_letGo, if_pos hh]
  exact run_drain (s := letting key s) hf (Nat.lt_succ_self _)

end Dropping

end Session

end SyntaxHandles
