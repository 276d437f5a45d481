import SyntaxHandles.Proofs.Session.Lifetimes
import SyntaxHandles.Proofs.Session.Sharing

-- How long an index lasts: as long as its handle is alive or a unit that was parsed with it. It is
-- given back to the library by whichever of them goes last.

namespace SyntaxHandles

open Effect Thread

section Release

-- The calls that the release of a resource makes before it lets go of its index.
def Resource.calls : Resource → List Native.Call
  | .index _ => []
  | .unit parsed _ _ => [.disposeUnit parsed.number]

theorem Native.State.unshare_log {state : State} {index others : Nat}
    (hs : state.shares index = others + 1) :
    (state.unshare index).log =
      (if others = 0 then [.disposeIndex index] else []) ++ state.log := by
  simp only [unshare, hs, Nat.add_sub_cancel]
  split <;> rfl

-- An index goes with a resource that holds it if no other does.
theorem Native.State.Accounts.release_log {state : State} {resource : Resource}
    {held : List Resource} {index : Nat} (h : Accounts state (resource :: held))
    (hh : resource.holds index = true) :
    (state.release resource).log =
      (if held.any (Resource.holds index) then [] else [.disposeIndex index]) ++
        resource.calls ++ state.log := by
  have hshares : state.shares index = held.countP (Resource.holds index) + 1 := by
    rw [h.shares, List.countP_cons, if_pos hh]
  have hif : (if held.countP (Resource.holds index) = 0 then [Call.disposeIndex index] else []) =
      if held.any (Resource.holds index) then [] else [.disposeIndex index] := by
    by_cases hz : held.countP (Resource.holds index) = 0
    · have hany : held.any (Resource.holds index) = false :=
        List.any_eq_false.mpr (List.countP_eq_zero.mp hz)
      rw [if_pos hz, hany, if_neg Bool.false_ne_true]
    · have hany : held.any (Resource.holds index) = true :=
        List.any_eq_true.mpr (List.countP_pos_iff.mp (Nat.pos_of_ne_zero hz))
      rw [if_neg hz, if_pos hany]
  cases resource with
  | index other =>
      obtain rfl : other = index := by simpa [Resource.holds] using hh
      rw [State.release, unshare_log hshares, hif, Resource.calls, List.append_nil]
  | unit parsed filename other =>
      obtain rfl : other = index := by simpa [Resource.holds] using hh
      have hnoted : (state.note (.disposeUnit parsed.number)).shares other =
        held.countP (Resource.holds other) + 1 := hshares
      rw [State.release, unshare_log hnoted, hif, List.append_assoc]
      rfl

-- What is called when resources are released one after the other: each unit is given back, and an
-- index in the place of its handle, or else after the last unit that was parsed with it.
def closing : List Resource → List Native.Call
  | [] => []
  | .index index :: older => .disposeIndex index :: closing older
  | .unit parsed _ index :: older =>
    if older.any (Resource.holds index) then .disposeUnit parsed.number :: closing older
    else .disposeUnit parsed.number :: .disposeIndex index :: closing older

end Release

namespace Thread

variable {key index : Nat} {serial : UInt32} {s t : Thread} {entry : Entry Resource}

theorem Homed.beside (h : s.Homed key serial index) :
    (s.heldBeside key).any (Resource.holds index) = false := by
  rw [List.any_eq_false]
  intro resource hm hh
  obtain ⟨k, hk, hresource⟩ := List.mem_flatMap.mp hm
  obtain ⟨entry, hentry, rfl⟩ := List.mem_map.mp hresource
  have hne : k ≠ key := by simpa using (List.mem_filter.mp hk).2
  exact hne (h.holders k entry hentry hh).1

-- What a session releases is released as `Accounts` says, however much other sessions hold.
theorem Sound.release_log (hs : s.Sound) (h : s.Homed key serial index)
    {rest : List (Entry Resource)} (hm : entry ∈ (s.sessions key).live)
    (hp : (s.sessions key).live.Perm (entry :: rest)) (hh : entry.resource.holds index = true) :
    (s.native.release entry.resource).log =
      (if rest.any (·.resource.holds index) then [] else [.disposeIndex index]) ++
        entry.resource.calls ++ s.native.log := by
  have hheld : s.held.Perm
      (entry.resource :: (rest.map (·.resource) ++ s.heldBeside key)) :=
    (held_perm (hs.started_of_mem hm)).trans ((hp.map _).append_right _)
  rw [(hs.accounts.perm hheld).release_log hh, List.any_append, h.beside, Bool.or_false,
    List.any_map]
  rfl

-- The entry of a handle is older than all others that hold its index.
theorem Homed.newer (h : s.Homed key serial index) (hm : entry ∈ (s.sessions key).live)
    (is : entry.resource = .index index) {other : Entry Resource}
    (ho : other ∈ (s.sessions key).live) (hh : other.resource.holds index = true) :
    other = entry ∨ entry.serial < other.serial := by
  have hentry : entry = ⟨serial, .index, .index index⟩ := by
    rcases (h.holders key entry hm (by simp [is, Resource.holds])).2 with he | ⟨hkind, -⟩
    · exact he
    · rw [is] at hkind
      cases hkind
  rcases (h.holders key other ho hh).2 with he | ⟨-, hlt⟩
  · exact .inl (he.trans hentry.symm)
  · exact .inr (hentry ▸ hlt)

section Closing

variable {older : List (Entry Resource)}

-- The newest resource of a session is released as `closing` says.
theorem Sound.release_newest (hs : s.Sound) (hh : s.Housed)
    (hl : (s.sessions key).live = entry :: older) :
    (s.native.release entry.resource).log.reverse ++ closing (older.map (·.resource)) =
      s.native.log.reverse ++ closing ((s.sessions key).live.map (·.resource)) := by
  have hm : entry ∈ (s.sessions key).live := hl ▸ .head _
  have hp : (s.sessions key).live.Perm (entry :: older) := .of_eq hl
  have hd := (hs.issued key).descending
  rw [hl] at hd
  have hlt := (List.pairwise_cons.mp hd).1
  have hhome : ∀ index, entry.resource.holds index = true →
      ∃ serial, s.Homed key serial index := by
    intro index hi
    obtain ⟨k, serial, hhome⟩ := hh index (hs.index_le hm hi)
    exact ⟨serial, (hhome.holders key entry hm hi).1.symm ▸ hhome⟩
  cases he : entry.resource with
  | index index =>
      have hi : entry.resource.holds index = true := by simp [he, Resource.holds]
      obtain ⟨serial, hhome⟩ := hhome index hi
      -- whatever else holds the index is newer, and nothing is newer than the newest
      have hnone : older.any (·.resource.holds index) = false := by
        rw [List.any_eq_false]
        intro other ho hother
        have hlater := hlt other ho
        rcases hhome.newer hm he (hl ▸ .tail _ ho) hother with rfl | hn
        · exact UInt32.lt_irrefl _ hlater
        · exact UInt32.lt_irrefl _ (UInt32.lt_trans hlater hn)
      rw [← he, hs.release_log hhome hm hp hi, hnone, hl, List.map_cons, he]
      simp [Resource.calls, closing]
  | unit parsed filename index =>
      have hi : entry.resource.holds index = true := by simp [he, Resource.holds]
      obtain ⟨serial, hhome⟩ := hhome index hi
      have hany : (older.map (·.resource)).any (Resource.holds index) =
          older.any (·.resource.holds index) := List.any_map ..
      rw [← he, hs.release_log hhome hm hp hi, hl, List.map_cons, he, closing, hany]
      cases older.any (·.resource.holds index) <;> simp [Resource.calls]

-- All that a session still has is released, newest first.
theorem run_drain_closing (hr : s.Ready) (hs : s.Sound) (hh : s.Housed) (few : s.Few)
    (hk : key ≤ s.started) {left : Nat} (hl : (s.sessions key).live.length < left) :
    ∃ t, (drain key left).run s = (.ok (), t) ∧ (t.sessions key).live = [] ∧
      t.native.log = (closing (s.resources key)).reverse ++ s.native.log := by
  induction left generalizing s with
  | zero => omega
  | succ left ih =>
      simp only [drain, run_bind, run_session, run_settle]
      rcases hlive : (s.sessions key).live with _ | ⟨entry, older⟩
      · rw [Registry.takeNewest_nil (hr.free key) hlive]
        refine ⟨_, rfl, by simpa [withSession] using hlive, ?_⟩
        simp [resources, hlive, closing]
      · have htake := Registry.takeNewest_cons (hr.free key) hlive
        have hpart : Part s ((s.withSession key { s.sessions key with live := older }).withNative
          (s.native.release entry.resource)) := .changes hk (.drained htake)
        have hleads := hpart.leads hr
        have hlength : older.length < left := by
          rw [hlive, List.length_cons] at hl
          omega
        obtain ⟨t, hrun, hempty, hlog⟩ := ih hleads.ready (hleads.sound few hs)
          (hh.changes hs hr few (.drained htake)) few hk
          (by simpa [withSession_sessions] using hlength)
        rw [htake]
        simp only [Except.mapError, run_setSession, run_bind, run_release]
        refine ⟨t, hrun, hempty, List.reverse_inj.mp ?_⟩
        have hnewest := hs.release_newest hh hlive
        rw [hlog, List.reverse_append, List.reverse_reverse, List.reverse_append,
          List.reverse_reverse]
        simpa [resources, withSession_sessions] using hnewest

end Closing

end Thread

namespace Session

variable {library : Native.Library} {key index unit : Nat} {handle : IndexHandle}
  {options : IndexOptions} {s created t : Thread}

-- What the session says of an identity.
def Live (key : Nat) (thread : Thread) (id : ResourceId) : Prop :=
  (Session.isAlive key id).run thread = (.ok true, thread)

-- A unit that is alive in a session and was parsed with an index.
def LiveUnit (key : Nat) (thread : Thread) (index : Nat) (handle : UnitHandle) (unit : Nat) :
    Prop :=
  Names key thread handle unit ∧ Native.UnitMade thread.native.log unit index

-- A handle of a session stands for an index, whether it is alive or not.
structure Stands (key : Nat) (thread : Thread) (handle : IndexHandle) (index : Nat) : Prop where
  registry : handle.id.registry = UInt32.ofNat key
  kind : handle.id.kind = .index
  home : thread.Homed key handle.id.serial index
  entry : ∀ entry ∈ (thread.sessions key).live, entry.serial = handle.id.serial →
    entry = ⟨handle.id.serial, .index, .index index⟩

section Entries

theorem live_iff (hr : t.Ready) (hs : t.Sound) {id : ResourceId} : Live key t id ↔
    ∃ entry ∈ (t.sessions key).live, (t.sessions key).identity entry = id := by
  have hrun : (Session.isAlive key id).run t =
    (((t.sessions key).isAlive id).mapError .conflict, t) := run_settle ..
  rw [← (hs.issued key).isAlive_iff (by simp [hr.free key]), Live, hrun]
  rcases (t.sessions key).isAlive id with _ | alive
  · exact iff_of_false nofun nofun
  · constructor
    · intro hl
      exact congrArg _ (Except.ok.inj (Prod.mk.inj hl).1)
    · intro ha
      rw [Except.ok.inj ha]
      rfl

theorem names_iff (hr : t.Ready) (hs : t.Sound) {handle : UnitHandle} : Names key t handle unit ↔
    ∃ entry ∈ (t.sessions key).live, (t.sessions key).identity entry = handle.id ∧
      entry.resource.unitNumber? = some unit := by
  constructor
  · intro hn
    obtain ⟨hreg, entry, hf, hk, hu⟩ := hn.exists_entry
    obtain ⟨hm, hserial⟩ := (hs.issued key).find?_eq_some_iff.mp hf
    exact ⟨entry, hm, by simp only [Registry.identity, hserial, hk, ← hreg], hu⟩
  · rintro ⟨entry, hm, hid, hu⟩
    cases he : entry.resource with
    | index number => simp [he, Resource.unitNumber?] at hu
    | unit parsed filename index =>
        obtain rfl : parsed.number = unit := by simpa [he, Resource.unitNumber?] using hu
        have hl := (hs.issued key).look_of_mem (by simp [hr.free key]) hm Resource.asUnit?
        rw [he, hid] at hl
        refine ⟨parsed.root, filename, ?_⟩
        rw [run_unit, hl]
        rfl

-- A unit holds the index that the library parsed it with.
theorem liveUnit_iff (hr : t.Ready) (hs : t.Sound) {handle : UnitHandle} :
    LiveUnit key t index handle unit ↔
      ∃ entry ∈ (t.sessions key).live, (t.sessions key).identity entry = handle.id ∧
        entry.resource.unitNumber? = some unit ∧ entry.resource.holds index = true := by
  rw [LiveUnit, names_iff hr hs]
  have hmade {entry : Entry Resource} (hm : entry ∈ (t.sessions key).live)
      (hu : entry.resource.unitNumber? = some unit) :
      Native.UnitMade t.native.log unit index ↔ entry.resource.holds index = true := by
    cases he : entry.resource with
    | index number => simp [he, Resource.unitNumber?] at hu
    | unit parsed filename other =>
        obtain rfl : parsed.number = unit := by simpa [he, Resource.unitNumber?] using hu
        have hparsed := hs.accounts.parsed parsed filename other (he ▸ hs.mem_held hm)
        have hholds : Resource.holds index (.unit parsed filename other) = true ↔
          other = index := by simp [Resource.holds]
        rw [hholds]
        exact ⟨hs.accounts.orderly.unitMade_unique hparsed, fun h => h ▸ hparsed⟩
  constructor
  · rintro ⟨⟨entry, hm, hid, hu⟩, h⟩
    exact ⟨entry, hm, hid, hu, (hmade hm hu).mp h⟩
  · rintro ⟨entry, hm, hid, hu, hh⟩
    exact ⟨⟨entry, hm, hid, hu⟩, (hmade hm hu).mpr hh⟩

end Entries

section Handle

theorem createIndex_ok (hf : (s.sessions key).borrow = .free)
    (create : (createIndex library key options).run s = (.ok handle, created)) :
    ∃ displaced registry,
      (s.sessions key).register .index (.index (s.native.indices + 1)) =
        .ok (handle.id, displaced, registry) ∧
      created = (s.withNative (s.native.makeIndex options.excludeDeclarationsFromPch
        options.displayDiagnostics)).owning key registry displaced := by
  simp only [createIndex] at create
  split at create
  · obtain ⟨id, displaced, registry, hr⟩ :=
      Registry.exists_register hf .index (.index (s.native.indices + 1))
    simp only [run_bind, run_get, run_natively, run_call, withNative_native, withNative_withNative,
      run_track, withNative_sessions, hr] at create
    obtain ⟨hhandle, hcreated⟩ := Prod.mk.inj create
    exact ⟨displaced, registry, Except.ok.inj hhandle ▸ hr, hcreated.symm⟩
  · simp only [run_bind, run_call, run_fail] at create
    cases (Prod.mk.inj create).1

-- What the session has when an index was created.
theorem createIndex_grown (hr : s.Ready) (hs : s.Sound) (few : created.Few)
    (create : (createIndex library key options).run s = (.ok handle, created)) :
    s.tracked key + 1 < UInt32.size ∧
      handle.id = ⟨(s.sessions key).id, UInt32.ofNat (s.tracked key + 1), .index⟩ ∧
      created = (s.withNative (s.native.makeIndex options.excludeDeclarationsFromPch
        options.displayDiagnostics)).owning key ((s.sessions key).grown (s.tracked key) .index
          (.index (s.native.indices + 1))) none := by
  obtain ⟨displaced, registry, register, rfl⟩ := createIndex_ok (hr.free key) create
  obtain ⟨hk, hid, rfl, rfl⟩ := hs.grown_of_register hr few register
  exact ⟨hk, hid, rfl⟩

theorem stands_of_create (hr : s.Ready) (hs : s.Sound) (has : s.Has key)
    (create : (createIndex library key options).run s = (.ok handle, created))
    (later : Reaches created t) (few : t.Few) : Stands key t handle (s.native.indices + 1) := by
  have hstep : Leads s created := by
    have hact := Act.step has (.createIndex library options)
    rw [create] at hact
    exact hact.leads hr
  have hl := later.leads hstep.ready
  have hfew := hl.few few
  have hc := hstep.sound hfew hs
  obtain ⟨hk, hid, hcreated⟩ := createIndex_grown hr hs hfew create
  have hhome : created.Homed key handle.id.serial (s.native.indices + 1) := by
    rw [hid, hcreated]
    exact hs.homed_made hk _ _
  have hmem : ⟨handle.id.serial, .index, .index (s.native.indices + 1)⟩ ∈
      (created.sessions key).live := by
    rw [hid, hcreated, owning_sessions]
    exact .head _
  refine ⟨by rw [hid, hr.ids key], by rw [hid], hhome.reaches hstep.ready hc later few, ?_⟩
  exact fun entry hm he => (hl.lasts few hc key).eq_of_serial (hc.issued key) hmem hm he

-- A handle stands for the index that was created for it from then on.
theorem exists_stands (reached : Reaches {} s) (has : s.Has key)
    (create : (createIndex library key options).run s = (.ok handle, created))
    (later : Reaches created t) (few : t.Few) :
    Reaches {} t ∧ t.Has key ∧ ∃ index,
      created.native.log = .createIndex options.excludeDeclarationsFromPch
        options.displayDiagnostics (some index) :: s.native.log ∧
      handle.id.serial.toNat = created.tracked key ∧ Stands key t handle index := by
  have hstart := reached.leads ready_new
  have hstep : Move s created := by
    have hact := Act.step has (.createIndex library options)
    rw [create] at hact
    exact .act hact
  have hcreated := hstart.trans (hstep.leads hstart.ready)
  have hfew := (later.leads hcreated.ready).few few
  have hs := hstart.sound ((hstep.leads hstart.ready).few hfew) sound_new
  obtain ⟨hsmall, hid, hc⟩ := createIndex_grown hstart.ready hs hfew create
  have hl := (hstep.leads hstart.ready).trans (later.leads hcreated.ready)
  refine ⟨(reached.tail hstep).trans later, has.leads hl, s.native.indices + 1, by rw [hc]; rfl, ?_,
    stands_of_create hstart.ready hs has create later few⟩
  rw [hc, hid, owning_tracked, Registry.toNat_ofNat_of_lt hsmall]
  rfl

theorem Stands.identity_eq (h : Stands key t handle index) (hr : t.Ready) :
    (t.sessions key).identity ⟨handle.id.serial, .index, .index index⟩ = handle.id := by
  simp only [Registry.identity, hr.ids key, ← h.registry, ← h.kind]

theorem Stands.live_iff (h : Stands key t handle index) (hr : t.Ready) (hs : t.Sound) :
    Live key t handle.id ↔
      ⟨handle.id.serial, .index, .index index⟩ ∈ (t.sessions key).live := by
  rw [Session.live_iff hr hs]
  constructor
  · rintro ⟨entry, hm, hid⟩
    exact h.entry entry hm (congrArg ResourceId.serial hid) ▸ hm
  · intro hm
    exact ⟨_, hm, h.identity_eq hr⟩

-- All that holds the index.
theorem Stands.holds_iff (h : Stands key t handle index) (hr : t.Ready) (hs : t.Sound)
    {entry : Entry Resource} (hm : entry ∈ (t.sessions key).live) :
    entry.resource.holds index = true ↔ (t.sessions key).identity entry = handle.id ∨
      ∃ unit, LiveUnit key t index ⟨(t.sessions key).identity entry⟩ unit := by
  constructor
  · intro hh
    rcases (h.home.holders key entry hm hh).2 with rfl | ⟨hkind, -⟩
    · exact .inl (h.identity_eq hr)
    · cases he : entry.resource with
      | index number => simp [he, Resource.kind] at hkind
      | unit parsed filename other =>
          refine .inr ⟨parsed.number, (liveUnit_iff hr hs).mpr ⟨entry, hm, rfl, ?_, hh⟩⟩
          rw [he]
          rfl
  · rintro (hid | ⟨unit, hu⟩)
    · rw [h.entry entry hm (congrArg ResourceId.serial hid)]
      simp [Resource.holds]
    · obtain ⟨other, ho, hid, -, hh⟩ := (liveUnit_iff hr hs).mp hu
      exact (hs.issued key).eq_of_identity ho hm hid ▸ hh

-- All that holds the index besides one entry of the session.
theorem Stands.others_iff (h : Stands key t handle index) (hr : t.Ready) (hs : t.Sound)
    {entry : Entry Resource} (hm : entry ∈ (t.sessions key).live) :
    (∃ other ∈ (t.sessions key).live, other ≠ entry ∧ other.resource.holds index = true) ↔
      (Live key t handle.id ∧ handle.id ≠ (t.sessions key).identity entry) ∨
        ∃ other number, other ≠ ⟨(t.sessions key).identity entry⟩ ∧
          LiveUnit key t index other number := by
  constructor
  · rintro ⟨other, ho, hne, hh⟩
    have hid : (t.sessions key).identity other ≠ (t.sessions key).identity entry := fun he =>
      hne ((hs.issued key).eq_of_identity ho hm he)
    rcases (h.holds_iff hr hs ho).mp hh with his | ⟨number, hu⟩
    · exact .inl ⟨(Session.live_iff hr hs).mpr ⟨other, ho, his⟩, his ▸ hid⟩
    · exact .inr ⟨_, number, fun he => hid (congrArg UnitHandle.id he), hu⟩
  · rintro (⟨hlive, hne⟩ | ⟨other, number, hne, hu⟩)
    · refine ⟨_, (h.live_iff hr hs).mp hlive, fun he => hne ?_, by simp [Resource.holds]⟩
      rw [← he, h.identity_eq hr]
    · obtain ⟨entry, ho, hid, -, hh⟩ := (liveUnit_iff hr hs).mp hu
      exact ⟨entry, ho, fun he => hne (by rw [← he, hid]), hh⟩

theorem Stands.indexAlive_iff (h : Stands key t handle index) (hr : t.Ready) (hs : t.Sound) :
    Native.IndexAlive t.native.log index ↔
      Live key t handle.id ∨ ∃ unitHandle unit, LiveUnit key t index unitHandle unit := by
  rw [hs.indexAlive_iff]
  constructor
  · rintro ⟨k, entry, hm, hh⟩
    obtain rfl := (h.home.holders k entry hm hh).1
    rcases (h.holds_iff hr hs hm).mp hh with hid | ⟨unit, hu⟩
    · exact .inl ((Session.live_iff hr hs).mpr ⟨entry, hm, hid⟩)
    · exact .inr ⟨_, unit, hu⟩
  · rintro (hlive | ⟨unitHandle, unit, hu⟩)
    · exact ⟨key, _, (h.live_iff hr hs).mp hlive, by simp [Resource.holds]⟩
    · obtain ⟨entry, hm, -, -, hh⟩ := (liveUnit_iff hr hs).mp hu
      exact ⟨key, entry, hm, hh⟩

theorem Stands.serial_lt (h : Stands key t handle index) (hr : t.Ready) (hs : t.Sound)
    {unitHandle : UnitHandle} (hu : LiveUnit key t index unitHandle unit) :
    handle.id.serial < unitHandle.id.serial := by
  obtain ⟨entry, hm, hid, hnumber, hh⟩ := (liveUnit_iff hr hs).mp hu
  rcases (h.home.holders key entry hm hh).2 with rfl | ⟨-, hlt⟩
  · exact nomatch hnumber
  · exact hid ▸ hlt

section Disposal

variable {entry : Entry Resource}

theorem run_dispose_of_mem (hr : t.Ready) (hs : t.Sound) (hm : entry ∈ (t.sessions key).live) :
    (dispose key ((t.sessions key).identity entry)).run t = (.ok true,
      (t.withSession key { t.sessions key with
        live := (t.sessions key).live.filter (·.serial ≠ entry.serial) }).withNative
          (t.native.release entry.resource)) := by
  simp only [dispose, run_bind, run_session, run_settle,
    (hs.issued key).take_of_mem (hr.free key) hm, Except.mapError, run_setSession, run_release,
    run_pure]
  rfl

-- The last to hold an index takes it along.
theorem Stands.dispose (h : Stands key t handle index) (hr : t.Ready) (hs : t.Sound)
    (hm : entry ∈ (t.sessions key).live) (hh : entry.resource.holds index = true) :
    ∃ after, (Session.dispose key ((t.sessions key).identity entry)).run t = (.ok true, after) ∧
      ((∃ other ∈ (t.sessions key).live, other ≠ entry ∧ other.resource.holds index = true) →
        after.native.log = entry.resource.calls ++ t.native.log) ∧
      ((¬∃ other ∈ (t.sessions key).live, other ≠ entry ∧ other.resource.holds index = true) →
        after.native.log = .disposeIndex index :: entry.resource.calls ++ t.native.log) := by
  have hany : ((t.sessions key).live.filter (·.serial ≠ entry.serial)).any
      (·.resource.holds index) = true ↔
        ∃ other ∈ (t.sessions key).live, other ≠ entry ∧ other.resource.holds index = true := by
    rw [List.any_eq_true]
    constructor
    · rintro ⟨other, hother, hholds⟩
      obtain ⟨ho, hne⟩ := List.mem_filter.mp hother
      exact ⟨other, ho, fun he => by simp [he] at hne, hholds⟩
    · rintro ⟨other, ho, hne, hholds⟩
      have hserial : other.serial ≠ entry.serial := fun he =>
        hne ((hs.issued key).eq_of_serial ho hm he)
      exact ⟨other, List.mem_filter.mpr ⟨ho, by simpa using hserial⟩, hholds⟩
  have hlog := hs.release_log h.home hm ((hs.issued key).perm_filter hm) hh
  refine ⟨_, run_dispose_of_mem hr hs hm, fun hother => ?_, fun hnone => ?_⟩
  · rw [withNative_native, hlog, if_pos (hany.mpr hother), List.nil_append]
  · rw [withNative_native, hlog, if_neg (fun ho => hnone (hany.mp ho)), List.singleton_append]

theorem calls_of_unitNumber? {resource : Resource} (hu : resource.unitNumber? = some unit) :
    resource.calls = [.disposeUnit unit] := by
  cases resource with
  | index number => simp [Resource.unitNumber?] at hu
  | unit parsed filename index =>
      obtain rfl : parsed.number = unit := by simpa [Resource.unitNumber?] using hu
      rfl

theorem Stands.dispose_handle (h : Stands key t handle index) (hr : t.Ready) (hs : t.Sound)
    (alive : Live key t handle.id) :
    ∃ after, (Session.dispose key handle.id).run t = (.ok true, after) ∧
      ((∃ unitHandle unit, LiveUnit key t index unitHandle unit) →
        after.native.log = t.native.log) ∧
      ((¬∃ unitHandle unit, LiveUnit key t index unitHandle unit) →
        after.native.log = .disposeIndex index :: t.native.log) := by
  have hm := (h.live_iff hr hs).mp alive
  obtain ⟨after, hrun, hothers, halone⟩ := h.dispose hr hs hm (by simp [Resource.holds])
  have hholders := h.others_iff hr hs hm
  rw [h.identity_eq hr] at hrun hholders
  refine ⟨after, hrun, fun hsome => ?_, fun hnone => ?_⟩
  · obtain ⟨unitHandle, unit, hu⟩ := hsome
    have hne : unitHandle ≠ ⟨handle.id⟩ := fun he => by
      have hlater := h.serial_lt hr hs hu
      rw [he] at hlater
      exact UInt32.lt_irrefl _ hlater
    exact hothers (hholders.mpr (.inr ⟨unitHandle, unit, hne, hu⟩))
  · refine halone fun hother => hnone ?_
    rcases hholders.mp hother with ⟨-, hne⟩ | ⟨unitHandle, unit, -, hu⟩
    · exact absurd rfl hne
    · exact ⟨unitHandle, unit, hu⟩

theorem Stands.dispose_unit (h : Stands key t handle index) (hr : t.Ready) (hs : t.Sound)
    {unitHandle : UnitHandle} (hu : LiveUnit key t index unitHandle unit) :
    ∃ after, (Session.dispose key unitHandle.id).run t = (.ok true, after) ∧
      (Live key t handle.id ∨
          (∃ other number, other ≠ unitHandle ∧ LiveUnit key t index other number) →
        after.native.log = .disposeUnit unit :: t.native.log) ∧
      (¬(Live key t handle.id ∨
          ∃ other number, other ≠ unitHandle ∧ LiveUnit key t index other number) →
        after.native.log = .disposeIndex index :: .disposeUnit unit :: t.native.log) := by
  obtain ⟨entry, hm, hid, hnumber, hh⟩ := (liveUnit_iff hr hs).mp hu
  obtain ⟨after, hrun, hothers, halone⟩ := h.dispose hr hs hm hh
  have hholders := h.others_iff hr hs hm
  have hne : handle.id ≠ unitHandle.id := fun he => by
    have hlater := h.serial_lt hr hs hu
    rw [he] at hlater
    exact UInt32.lt_irrefl _ hlater
  rw [hid, and_iff_left hne] at hholders
  rw [hid] at hrun
  rw [calls_of_unitNumber? hnumber] at hothers halone
  exact ⟨after, hrun, fun hother => hothers (hholders.mpr hother),
    fun hnone => halone fun hother => hnone (hholders.mp hother)⟩

end Disposal

-- The last one to hold a session releases all that it has.
theorem run_letGo_closing (hr : t.Ready) (hs : t.Sound) (hh : t.Housed) (few : t.Few)
    (has : t.Has key) (last : t.holders key ≤ 1) :
    ∃ closed, (letGo key).run t = (.ok (), closed) ∧ (closed.sessions key).live = [] ∧
      closed.native.log = (closing (t.resources key)).reverse ++ t.native.log := by
  have hletting : Part t (letting key t) := .holders rfl rfl rfl (.inl rfl) hr.current
  have hleads := hletting.leads hr
  rw [run_letGo, if_pos last]
  have hhoused : (letting key t).Housed := Housed.of_same (s := t) rfl rfl rfl hh
  exact run_drain_closing hleads.ready (hleads.sound few hs) hhoused few has.2 (Nat.lt_succ_self _)

-- At every moment: an index is alive as long as its handle or a unit that was parsed with it, and
-- whichever of them is disposed of last gives it back. The end of a session releases what is left
-- of it, from the newest to the oldest.
theorem index_lasts_with_its_holders (reached : Reaches {} s) (has : s.Has key)
    (create : (createIndex library key options).run s = (.ok handle, created))
    (later : Reaches created t) (few : t.Few) :
    ∃ index, created.native.log = .createIndex options.excludeDeclarationsFromPch
        options.displayDiagnostics (some index) :: s.native.log ∧
      handle.id.serial.toNat = created.tracked key ∧
      (Native.IndexAlive t.native.log index ↔
        Live key t handle.id ∨ ∃ unitHandle unit, LiveUnit key t index unitHandle unit) ∧
      (∀ unitHandle unit, LiveUnit key t index unitHandle unit →
        handle.id.serial < unitHandle.id.serial) ∧
      (Live key t handle.id → ∃ after, (dispose key handle.id).run t = (.ok true, after) ∧
        ((∃ unitHandle unit, LiveUnit key t index unitHandle unit) →
          after.native.log = t.native.log) ∧
        ((¬∃ unitHandle unit, LiveUnit key t index unitHandle unit) →
          after.native.log = .disposeIndex index :: t.native.log)) ∧
      (∀ unitHandle unit, LiveUnit key t index unitHandle unit →
        ∃ after, (dispose key unitHandle.id).run t = (.ok true, after) ∧
          (Live key t handle.id ∨
              (∃ other number, other ≠ unitHandle ∧ LiveUnit key t index other number) →
            after.native.log = .disposeUnit unit :: t.native.log) ∧
          (¬(Live key t handle.id ∨
              ∃ other number, other ≠ unitHandle ∧ LiveUnit key t index other number) →
            after.native.log = .disposeIndex index :: .disposeUnit unit :: t.native.log)) ∧
      (t.holders key ≤ 1 → ∃ closed, (letGo key).run t = (.ok (), closed) ∧
        (closed.sessions key).live = [] ∧
        closed.native.log = (closing (t.resources key)).reverse ++ t.native.log ∧
        (t.sessions key).live.Pairwise fun newer older => older.serial < newer.serial) := by
  obtain ⟨hall, hhas, index, hlog, hserial, hstands⟩ := exists_stands reached has create later few
  have hr := (hall.leads ready_new).ready
  have hs := (hall.leads ready_new).sound few sound_new
  refine ⟨index, hlog, hserial, hstands.indexAlive_iff hr hs,
    fun unitHandle unit hu => hstands.serial_lt hr hs hu, hstands.dispose_handle hr hs,
    fun unitHandle unit hu => hstands.dispose_unit hr hs hu, fun hlast => ?_⟩
  obtain ⟨closed, hrun, hempty, hlog⟩ :=
    run_letGo_closing hr hs (.reaches hall few) few hhas hlast
  exact ⟨closed, hrun, hempty, hlog, (hs.issued key).descending⟩

-- A unit whose index has lost its handle.
def sampleShared : Thread :=
  ((dispose 1 ⟨1, 1, .index⟩).run
    ((parse sampleTable.library 1 ⟨⟨1, 1, .index⟩⟩ "a.c" {}).run
      ((createIndex sampleTable.library 1 {}).run (start.run {}).2).2).2).2

theorem index_lasts_with_its_holders_of_sample :
    Native.IndexAlive sampleShared.native.log 1 ∧
      ∃ closed, (letGo 1).run sampleShared = (.ok (), closed) ∧
        closed.native.log = .disposeIndex 1 :: .disposeUnit 1 :: sampleShared.native.log := by
  have reached : Reaches {} (start.run {}).2 := .single (.act .start)
  have has {thread : Thread} (hs : thread.started = 1) : thread.Has 1 :=
    ⟨by decide, Nat.le_of_eq hs.symm⟩
  have create : (createIndex sampleTable.library 1 {}).run (start.run {}).2 =
    (.ok ⟨⟨1, 1, .index⟩⟩, _) := rfl
  have parsed : Move ((createIndex sampleTable.library 1 {}).run (start.run {}).2).2 _ :=
    .act (.step (has rfl) (.parse sampleTable.library ⟨⟨1, 1, .index⟩⟩ "a.c" {}))
  have later : Reaches _ sampleShared :=
    .tail (.single parsed) (.act (.step (has rfl) (.dispose ⟨1, 1, .index⟩)))
  have few : sampleShared.Few :=
    .of_single (by decide) fun key hk => (if_neg hk).trans (if_neg hk)
  obtain ⟨index, hlog, -, halive, -, -, -, hend⟩ :=
    index_lasts_with_its_holders reached (has rfl) create later few
  have hcall : Native.Call.createIndex false false (some 1) =
    .createIndex false false (some index) := (List.cons.inj hlog).1
  obtain rfl : 1 = index := by simpa using hcall
  have unit : LiveUnit 1 sampleShared 1 ⟨⟨1, 2, .translationUnit⟩⟩ 1 :=
    ⟨⟨_, _, rfl⟩, "a.c", none, 0, 0, 0, by decide⟩
  obtain ⟨closed, hrun, -, hclosed, -⟩ := hend (by decide)
  exact ⟨halive.mpr (.inr ⟨_, _, unit⟩), closed, hrun, hclosed⟩

end Handle

end Session

end SyntaxHandles
