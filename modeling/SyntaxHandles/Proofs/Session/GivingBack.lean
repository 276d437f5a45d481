import SyntaxHandles.Proofs.Registry.Reuse
import SyntaxHandles.Proofs.Session.Stability

-- When a unit is given back to the library: when its identity is disposed of, when a new resource
-- gets its serial, and when the last one to hold its session lets go of it. Nothing else that a
-- thread does gives it back.

namespace SyntaxHandles

open Effect Thread

namespace Native.State

variable {state after : State} {unit : Nat}

theorem disposeUnit_mem_unshare {index : Nat} :
    .disposeUnit unit ∈ (state.unshare index).log ↔ .disposeUnit unit ∈ state.log := by
  simp only [unshare]
  split
  · simp [note]
  · rfl

theorem disposeUnit_mem_release_iff {resource : Resource} :
    .disposeUnit unit ∈ (state.release resource).log ↔
      resource.unitNumber? = some unit ∨ .disposeUnit unit ∈ state.log := by
  cases resource with
  | index index => simp [release, disposeUnit_mem_unshare, Resource.unitNumber?]
  | unit parsed filename index =>
      simp only [release, disposeUnit_mem_unshare, note, List.mem_cons, Call.disposeUnit.injEq,
        Resource.unitNumber?, Option.some.injEq, eq_comm]

-- No question gives anything back.
theorem Asks.disposeUnit_mem {about : Option Nat} {subject : Option Subject}
    (h : state.Asks about subject after) (hm : .disposeUnit unit ∈ after.log) :
    .disposeUnit unit ∈ state.log := by
  induction h with
  | nothing => exact hm
  | @call call _ hcall _ ih =>
      rcases List.mem_cons.mp hm with rfl | hm
      · exact hcall.elim
      · exact ih hm
  | string _ ih => exact ih (by simpa [useString, note] using hm)

end Native.State

namespace Session

variable {library : Native.Library} {key unit : Nat} {s t : Thread}

-- The unit is given back somewhere between two moments.
def Returned (unit : Nat) (s t : Thread) : Prop :=
  .disposeUnit unit ∈ t.native.log ∧ .disposeUnit unit ∉ s.native.log

-- An entry of a session that owns the unit.
def Owned (key unit : Nat) (thread : Thread) (entry : Entry Resource) : Prop :=
  entry ∈ (thread.sessions key).live ∧ entry.resource.unitNumber? = some unit

theorem not_returned_of_log (h : t.native.log = s.native.log) : ¬Returned unit s t :=
  fun returned => returned.2 (h ▸ returned.1)

theorem AsksFor.not_returned {id : ResourceId} {subject : Option Native.Subject}
    (h : AsksFor key id subject s t) : ¬Returned unit s t := by
  cases h with
  | nothing => exact not_returned_of_log rfl
  | asked _ _ _ _ asks => exact fun returned => returned.2 (asks.disposeUnit_mem returned.1)

theorem displaces_of_register {state : Native.State} {kind : ResourceKind} {resource : Resource}
    {id : ResourceId} {displaced : Option Resource} {registry : Registry Resource}
    (register : (s.sessions key).register kind resource = .ok (id, displaced, registry))
    (hstate : .disposeUnit unit ∉ state.log)
    (hm : .disposeUnit unit ∈ ((s.withNative state).owning key registry displaced).native.log) :
    ∃ entry, Owned key unit s entry ∧ entry.serial = (s.sessions key).nextSerial := by
  cases displaced with
  | none => exact absurd hm hstate
  | some old =>
      have hold : old.unitNumber? = some unit :=
        (Native.State.disposeUnit_mem_release_iff.mp hm).resolve_right hstate
      rw [Registry.register_of_free (Registry.borrow_of_register register)] at register
      simp only [Except.ok.injEq, Prod.mk.injEq] at register
      obtain ⟨entry, hf, rfl⟩ := Option.map_eq_some_iff.mp register.2.1
      exact ⟨entry, ⟨List.mem_of_find?_eq_some hf, hold⟩, by simpa using List.find?_some hf⟩

theorem createIndex_displaces (hf : (s.sessions key).borrow = .free) (options : IndexOptions)
    (returned : Returned unit s ((createIndex library key options).run s).2) :
    ∃ entry, Owned key unit s entry ∧ entry.serial = (s.sessions key).nextSerial := by
  obtain ⟨hm, hs⟩ := returned
  simp only [createIndex] at hm
  split at hm
  · obtain ⟨id, displaced, registry, hr⟩ :=
      Registry.exists_register hf .index (.index (s.native.indices + 1))
    simp only [run_bind, run_get, run_natively, run_call, withNative_native, withNative_withNative,
      run_track, withNative_sessions, hr] at hm
    exact displaces_of_register hr (by simpa [Native.State.note, Native.State.share] using hs) hm
  · exact absurd (by simpa [run_bind, run_call, run_fail, Native.State.note] using hm) hs

theorem parse_displaces (hf : (s.sessions key).borrow = .free) (handle : IndexHandle)
    (filename : String) (options : ParseOptions)
    (returned : Returned unit s ((parse library key handle filename options).run s).2) :
    ∃ entry, Owned key unit s entry ∧ entry.serial = (s.sessions key).nextSerial := by
  obtain ⟨hm, hs⟩ := returned
  simp only [parse, run_bind, run_session, run_settle] at hm
  rcases hl : (s.sessions key).look handle.id Resource.asIndex? with _ | fault | index <;>
    simp only [hl, Except.mapError, run_raise, run_natively, parseShared] at hm
  · exact absurd hm hs
  · exact absurd hm hs
  · cases hc : checkParse filename options.args with
    | error fault =>
        simp only [hc, run_bind, run_natively, run_fail, withNative_withNative,
          withNative_native] at hm
        exact absurd (Native.State.disposeUnit_mem_unshare.mp hm) hs
    | ok _ =>
        rcases hr : (library.parse filename options.argv options.argc options.flags).root with
          _ | root
        · simp only [hc, hr, run_bind, run_call, run_natively, run_fail, withNative_withNative,
            withNative_native, Native.State.disposeUnit_mem_unshare] at hm
          exact absurd (by simpa [Native.State.note] using hm) hs
        · obtain ⟨id, displaced, registry, hregister⟩ :=
            Registry.exists_register hf .translationUnit
              (.unit ⟨s.native.units + 1, root⟩ filename index)
          simp only [hc, hr, run_bind, run_get, run_natively, run_call, withNative_native,
            withNative_withNative, run_track, withNative_sessions, Native.State.share_units,
            hregister] at hm
          exact displaces_of_register hregister (by simpa [Native.State.note] using hs) hm

theorem dispose_owned (id : ResourceId)
    (returned : Returned unit s ((dispose key id).run s).2) :
    ∃ entry, Owned key unit s entry ∧ (s.sessions key).identity entry = id := by
  obtain ⟨hm, hs⟩ := returned
  simp only [dispose, run_bind, run_session, run_settle] at hm
  rcases ht : (s.sessions key).take id with _ | ⟨_ | resource, registry⟩
  · rw [ht] at hm
    exact absurd hm hs
  · rw [ht] at hm
    exact absurd hm hs
  · simp only [ht, Except.mapError, run_setSession, run_bind, run_release, run_pure] at hm
    have hu := (Native.State.disposeUnit_mem_release_iff.mp hm).resolve_right hs
    obtain ⟨-, ⟨entry, hlive, hid, rfl⟩, -⟩ := Registry.dead_of_take ht
    exact ⟨entry, ⟨hlive, hu⟩, hid⟩

-- What a session releases when it ends is what it owned.
theorem drain_owned (left : Nat) (returned : Returned unit s ((drain key left).run s).2) :
    ∃ entry, Owned key unit s entry := by
  obtain ⟨hm, hs⟩ := returned
  induction left generalizing s with
  | zero => exact absurd hm hs
  | succ left ih =>
      simp only [drain, run_bind, run_session, run_settle] at hm
      rcases ht : (s.sessions key).takeNewest with _ | ⟨_ | resource, registry⟩
      · rw [ht] at hm
        exact absurd hm hs
      · rw [ht] at hm
        exact absurd hm hs
      · simp only [ht, Except.mapError, run_setSession, run_bind, run_release] at hm
        by_cases hu : resource.unitNumber? = some unit
        · obtain ⟨-, -, entry, rfl, hp⟩ := Registry.loses_of_takeNewest ht
          exact ⟨entry, hp.mem_iff.mpr (.head _), hu⟩
        · obtain ⟨entry, hlive, hentry⟩ := ih hm fun hback =>
            ((Native.State.disposeUnit_mem_release_iff.mp hback).elim hu hs)
          rw [withNative_sessions, withSession_sessions] at hlive
          exact ⟨entry, (Registry.takeNewest_sublist ht).2.subset hlive, hentry⟩

theorem letGo_owned (returned : Returned unit s ((letGo key).run s).2) :
    s.holders key ≤ 1 ∧ ∃ entry, Owned key unit s entry := by
  rw [run_letGo] at returned
  split at returned
  · next last => exact ⟨last, drain_owned (s := letting key s) _ returned⟩
  · exact absurd returned (not_returned_of_log rfl)

end Session

namespace Thread

open Session

variable {key unit : Nat} {s t : Thread}

theorem start_log (s : Thread) : (start.run s).2.native.log = s.native.log := by
  simp only [start, run_bind]
  rcases run_load_or s with ⟨loaded, hl⟩ | ⟨fault, hl⟩
  · rw [hl]
    rfl
  · rw [hl]

theorem currentSession_log (s : Thread) :
    (currentSession.run s).2.native.log = s.native.log := by
  simp only [currentSession, run_bind]
  rcases run_load_or s with ⟨loaded, hl⟩ | ⟨fault, hl⟩
  · rw [hl]
    simp only [run_get]
    rcases hc : s.current with _ | key
    · have hlog := start_log { s with libraryLoaded := loaded, current := none }
      rcases hstart : start.run { s with libraryLoaded := loaded, current := none } with
        ⟨fault | key, t⟩ <;>
      · rw [hstart] at hlog
        simp only [run_bind, hstart]
        exact hlog
    · rfl
  · rw [hl]

theorem exit_owned (returned : Returned unit s (exit.run s).2) :
    ∃ key, s.current = some key ∧ s.holders key ≤ 1 ∧ ∃ entry, Owned key unit s entry := by
  obtain ⟨hm, hs⟩ := returned
  simp only [exit, run_bind, run_get] at hm
  rcases hc : s.current with _ | key <;> rw [hc] at hm
  · exact absurd hm hs
  · exact ⟨key, rfl, letGo_owned (s := { s with current := none }) ⟨hm, hs⟩⟩

-- What a thread may be asked to do.
inductive Deed
  | search (result : Except String Unit)
  | start
  | currentSession
  | hold (key : Nat)
  | letGo (key : Nat)
  | exit
  | createIndex (key : Nat) (library : Native.Library) (options : IndexOptions)
  | parse (key : Nat) (library : Native.Library) (handle : IndexHandle) (filename : String)
      (options : ParseOptions)
  | root (key : Nat) (handle : UnitHandle)
  | filename (key : Nat) (handle : UnitHandle)
  | dispose (key : Nat) (id : ResourceId)
  | isAlive (key : Nat) (id : ResourceId)
  | isValid (key : Nat) {ν : Type} (token : Token ν)
  | askCursor (key : Nat) (library : Native.Library) (query : CursorQuery) (token : CursorToken)
  | askType (key : Nat) (library : Native.Library) (query : TypeQuery) (token : TypeToken)
  | list (key : Nat) (library : Native.Library) (node : CursorToken)

namespace Deed

def run (deed : Deed) (s : Thread) : Thread :=
  match deed with
  | search result => { s with search := result }
  | start => (Thread.start.run s).2
  | currentSession => (Thread.currentSession.run s).2
  | hold key => ((Thread.hold key).run s).2
  | letGo key => ((Thread.letGo key).run s).2
  | exit => (Thread.exit.run s).2
  | createIndex key library options => ((Session.createIndex library key options).run s).2
  | parse key library handle file options =>
    ((Session.parse library key handle file options).run s).2
  | root key handle => ((Session.root key handle).run s).2
  | filename key handle => ((Session.filename key handle).run s).2
  | dispose key id => ((Session.dispose key id).run s).2
  | isAlive key id => ((Session.isAlive key id).run s).2
  | isValid key token => ((Session.isValid key token).run s).2
  | askCursor key library query token => ((Session.askCursor library key query token).run s).2
  | askType key library query token => ((Session.askType library key query token).run s).2
  | list key library node => ((Session.children library key node).run s).2

-- The session that is to do it.
def session? : Deed → Option Nat
  | search _ | start | currentSession | exit => none
  | hold key | letGo key | createIndex key .. | parse key .. | root key _ | filename key _
  | dispose key _ | isAlive key _ | isValid key _ | askCursor key .. | askType key .. | list key .. =>
    some key

-- Whether it gives a unit back: it disposes of its identity, gives its serial to a new resource, or
-- ends its session.
def GivesBack (unit : Nat) (s : Thread) : Deed → Prop
  | dispose key id => ∃ entry, Owned key unit s entry ∧ (s.sessions key).identity entry = id
  | createIndex key .. | parse key .. =>
    ∃ entry, Owned key unit s entry ∧ entry.serial = (s.sessions key).nextSerial
  | letGo key => s.holders key ≤ 1 ∧ ∃ entry, Owned key unit s entry
  | exit => ∃ key, s.current = some key ∧ s.holders key ≤ 1 ∧ ∃ entry, Owned key unit s entry
  | _ => False

theorem move (deed : Deed) (has : ∀ key ∈ deed.session?, s.Has key) : Move s (deed.run s) := by
  cases deed with
  | search result => exact .act (.library result)
  | start => exact .act .start
  | currentSession => exact .act .currentSession
  | hold key => exact .act (.hold (has key rfl))
  | letGo key => exact .act (.letGo (has key rfl))
  | exit => exact .act .exit
  | createIndex key library options => exact .act (.step (has key rfl) (.createIndex library options))
  | parse key library handle file options =>
      exact .act (.step (has key rfl) (.parse library handle file options))
  | root key handle => exact .act (.step (has key rfl) (.root handle))
  | filename key handle => exact .act (.step (has key rfl) (.filename handle))
  | dispose key id => exact .act (.step (has key rfl) (.dispose id))
  | isAlive key id => exact .act (.step (has key rfl) (.isAlive id))
  | isValid key token => exact .act (.step (has key rfl) (.isValid token))
  | askCursor key library query token =>
      exact .act (.step (has key rfl) (.askCursor library query token))
  | askType key library query token =>
      exact .act (.step (has key rfl) (.askType library query token))
  | list key library node => exact .list (has key rfl) library node

theorem givesBack_of_returned (hr : s.Ready) (deed : Deed)
    (returned : Returned unit s (deed.run s)) : deed.GivesBack unit s := by
  cases deed with
  | search | hold => exact not_returned_of_log rfl returned
  | start => exact not_returned_of_log (start_log s) returned
  | currentSession => exact not_returned_of_log (currentSession_log s) returned
  | letGo key => exact letGo_owned returned
  | exit => exact exit_owned returned
  | createIndex key library options => exact createIndex_displaces (hr.free key) options returned
  | parse key library handle file options =>
      exact parse_displaces (hr.free key) handle file options returned
  | root key handle => exact (root_asksFor handle).not_returned returned
  | filename key handle =>
      refine not_returned_of_log ?_ returned
      simp only [run, Session.filename, run_bind, run_unit]
      rcases (s.sessions key).look handle.id Resource.asUnit? with _ | _ | _ <;> rfl
  | dispose key id => exact dispose_owned id returned
  | isAlive key id =>
      refine not_returned_of_log ?_ returned
      simp only [run, Session.isAlive, run_bind, run_session, run_settle]
  | isValid key token =>
      refine not_returned_of_log ?_ returned
      simp only [run, Session.isValid, run_bind, run_session, run_settle]
      rcases token.unwrap (s.sessions key) with _ | _ <;> rfl
  | askCursor key library query token =>
      exact (askCursor_inquiry query token).asksFor.not_returned returned
  | askType key library query token =>
      exact (askType_inquiry query token).asksFor.not_returned returned
  | list key library node => exact (children_inquiry node).asksFor.not_returned returned

end Deed

def after (deeds : List Deed) (s : Thread) : Thread :=
  deeds.foldl (fun s deed => deed.run s) s

-- One after the other, with sessions that were started, and so that no deed gives the unit back.
def Spares (unit : Nat) : List Deed → Thread → Prop
  | [], _ => True
  | deed :: deeds, s => (∀ key ∈ deed.session?, s.Has key) ∧ ¬deed.GivesBack unit s ∧
      Spares unit deeds (deed.run s)

theorem Spares.reaches {deeds : List Deed} (hr : s.Ready) (h : Spares unit deeds s) :
    Reaches s (after deeds s) ∧ ¬Returned unit s (after deeds s) := by
  induction deeds generalizing s with
  | nil => exact ⟨.refl, fun returned => returned.2 returned.1⟩
  | cons deed deeds ih =>
      obtain ⟨has, keeps, rest⟩ := h
      have hmove := deed.move has
      obtain ⟨hreaches, hspared⟩ := ih (hmove.leads hr).ready rest
      refine ⟨.head hmove hreaches, fun returned => ?_⟩
      by_cases hm : .disposeUnit unit ∈ (deed.run s).native.log
      · exact keeps (deed.givesBack_of_returned hr ⟨hm, returned.2⟩)
      · exact hspared ⟨returned.1, hm⟩

-- So a handle stands for its unit after any deeds that spare the unit.
theorem Spares.stands {deeds : List Deed} {handle : UnitHandle} (reached : Reaches {} s)
    (named : Names key s handle unit) (kept : .disposeUnit unit ∉ s.native.log)
    (h : Spares unit deeds s) :
    ((after deeds s).sessions key).checkOwner handle.id = .ok (.ok ()) ∧
      (((after deeds s).sessions key).find? handle.id.serial).bind (·.resource.unitNumber?) =
        some unit := by
  obtain ⟨hreaches, hspared⟩ := h.reaches (reached.leads ready_new).ready
  exact named.stands reached hreaches fun hm => hspared ⟨hm, kept⟩

end Thread

end SyntaxHandles
