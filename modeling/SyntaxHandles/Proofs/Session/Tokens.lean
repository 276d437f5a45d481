import SyntaxHandles.Proofs.Registry.Collection
import SyntaxHandles.Proofs.Session.Lifetimes
import SyntaxHandles.Proofs.Session.Sessions

-- Tokens that come from a unit, by way of any questions and traversals. They can be used in the
-- session of the unit while the unit is alive there, and otherwise the library is not asked about
-- them.

namespace SyntaxHandles

open Thread

namespace Session

variable {library : Native.Library} {key : Nat} {handle : UnitHandle} {s t : Thread}

section Use

-- All that can be done with a token is done.
def Accepts (key : Nat) (s : Thread) : AnyToken → Prop
  | .cursor token =>
      (∀ library query, ∃ answer after,
        (askCursor library key query token).run s = (.ok answer, after)) ∧
      ∀ library, ∃ listed after, (children library key token).run s = (.ok listed, after)
  | .type token =>
      ∀ library query, ∃ answer after,
        (askType library key query token).run s = (.ok answer, after)

-- All that can be done with a token fails with the owner of the token, and nothing is changed: the
-- log of native calls is a part of the thread.
def Refuses (key : Nat) (s : Thread) (owner : ResourceId) : AnyToken → Prop
  | .cursor token => ∃ reason,
      (∀ library query, (askCursor library key query token).run s =
        (.error (.fault (.invalidHandle owner reason)), s)) ∧
      (∀ library, (children library key token).run s =
        (.error (.fault (.invalidHandle owner reason)), s)) ∧
      ∀ (τ ε : Type) (library : Native.Library) (convert : Interrupt → ε)
        (visit : CursorToken → CursorToken → Thread × τ → Except ε ChildVisit × (Thread × τ))
        (fuel : Nat) (own : τ), visitChildren library key convert visit fuel token (s, own) =
          some (.error (convert (.fault (.invalidHandle owner reason))), (s, own))
  | .type token => ∃ reason, ∀ library query, (askType library key query token).run s =
      (.error (.fault (.invalidHandle owner reason)), s)

theorem Inquiry.of_unwrap {ν α : Type} {token : Token ν} {subject : Option Native.Subject}
    {Keeps : α → Prop} {raw : ν} {ended : Except Interrupt α × Thread}
    (h : Inquiry key token subject Keeps s ended)
    (hu : token.unwrap (s.sessions key) = .ok (.ok raw)) :
    ∃ answer after, ended = (.ok answer, after) := by
  cases h with
  | conflict unwrap => exact nomatch unwrap.symm.trans hu
  | refused unwrap => exact nomatch Except.ok.inj (unwrap.symm.trans hu)
  | answered => exact ⟨_, _, rfl⟩

theorem Inquiry.of_unwrap_error {ν α : Type} {token : Token ν} {subject : Option Native.Subject}
    {Keeps : α → Prop} {fault : Fault} {ended : Except Interrupt α × Thread}
    (h : Inquiry key token subject Keeps s ended)
    (hu : token.unwrap (s.sessions key) = .ok (.error fault)) :
    ended = (.error (.fault fault), s) := by
  cases h with
  | conflict unwrap => exact nomatch unwrap.symm.trans hu
  | refused unwrap => rw [Except.error.inj (Except.ok.inj (unwrap.symm.trans hu))]
  | answered unwrap => exact nomatch Except.ok.inj (unwrap.symm.trans hu)

theorem accepts_of_isAlive {token : AnyToken} (hk : token.owner.kind = .translationUnit)
    (ha : (s.sessions key).isAlive token.owner = .ok true) : Accepts key s token := by
  cases token with
  | cursor token =>
      have hu := token.unwrap_of_isAlive hk ha
      exact ⟨fun library query => (askCursor_inquiry query token).of_unwrap hu,
        fun library => (children_inquiry token).of_unwrap hu⟩
  | type token =>
      have hu := token.unwrap_of_isAlive hk ha
      exact fun library query => (askType_inquiry query token).of_unwrap hu

theorem refuses_of_not_isAlive {token : AnyToken} (hk : token.owner.kind = .translationUnit)
    (ha : (s.sessions key).isAlive token.owner = .ok false) : Refuses key s token.owner token := by
  cases token with
  | cursor token =>
      have hu := token.unwrap_of_isAlive hk ha
      have hc (library : Native.Library) : (children library key token).run s = _ :=
        (children_inquiry token).of_unwrap_error hu
      refine ⟨_, fun _ query => (askCursor_inquiry query token).of_unwrap_error hu, hc, ?_⟩
      intro τ ε library convert visit fuel own
      simp only [visitChildren, Traversal.run, host, hc]
      rfl
  | type token =>
      have hu := token.unwrap_of_isAlive hk ha
      exact ⟨_, fun _ query => (askType_inquiry query token).of_unwrap_error hu⟩

end Use

section Standing

variable {unit S : Nat}

theorem Names.kind (hs : s.Sound) (hn : Names key s handle unit) :
    handle.id.kind = .translationUnit := by
  obtain ⟨-, entry, hf, hk, hu⟩ := hn.exists_entry
  rw [← hk, hs.kinds key entry (List.mem_of_find?_eq_some hf)]
  cases he : entry.resource with
  | index number => simp [he, Resource.unitNumber?] at hu
  | unit => rfl

-- A unit that was not given back still has its entry.
theorem Names.isAlive (hr : s.Ready) (hs : s.Sound) (hl : Leads s t) (few : t.Few)
    (hn : Names key s handle unit) (hd : .disposeUnit unit ∉ t.native.log) :
    (t.sessions key).isAlive handle.id = .ok true := by
  obtain ⟨hreg, entry, hf, hk, hu⟩ := hn.exists_entry
  obtain ⟨hm, hserial⟩ := (hs.issued key).find?_eq_some_iff.mp hf
  have hlive : entry ∈ (t.sessions key).live :=
    ((hl.lasts few hs key).gone entry hm).resolve_right fun hg => hd (hg unit hu)
  have hidentity : (t.sessions key).identity entry = handle.id := by
    simp only [Registry.identity, hserial, hk, hl.ready.ids key, ← hr.ids key, ← hreg]
  rw [← hidentity]
  exact ((hl.sound few hs).issued key).isAlive_of_mem (by simp [hl.ready.free key]) hlive

-- Neither is one that was given back alive, nor any in another session.
theorem Names.not_isAlive (hr : s.Ready) (hs : s.Sound) (hl : Leads s t) (few : t.Few)
    (registries : t.started < UInt32.size) (hkey : s.Has key) (hS : t.Has S)
    (hn : Names key s handle unit) (hd : ¬(S = key ∧ .disposeUnit unit ∉ t.native.log)) :
    (t.sessions S).isAlive handle.id = .ok false := by
  obtain ⟨hreg, entry, hf, hk, hu⟩ := hn.exists_entry
  obtain ⟨hm, hserial⟩ := (hs.issued key).find?_eq_some_iff.mp hf
  have ht := hl.sound few hs
  refine Registry.isAlive_of_dead (by simp [hl.ready.free S])
    fun later hlater hidentity => hd ?_
  have hsame : S = key := by
    have hids : UInt32.ofNat S = UInt32.ofNat key := by
      rw [← hl.ready.ids S, ← hr.ids key, ← hreg, ← hidentity]
      rfl
    rw [← Registry.toNat_ofNat_of_lt (Nat.lt_of_le_of_lt hS.2 registries), hids,
      Registry.toNat_ofNat_of_lt (Nat.lt_of_le_of_lt (hkey.leads hl).2 registries)]
  subst hsame
  have hserial' : later.serial = entry.serial := by
    rw [hserial, ← hidentity]
    rfl
  obtain rfl := (hl.lasts few hs S).eq_of_serial (hs.issued S) hm hlater hserial'
  refine ⟨rfl, ((ht.accounts.unitAlive unit).mpr ?_).2⟩
  refine List.mem_filterMap.mpr ⟨later.resource, ?_, hu⟩
  exact (held_perm hS.2).mem_iff.mpr (List.mem_append_left _ (List.mem_map_of_mem hlater))

-- Whatever the sessions of a thread do: a token that comes from a unit belongs to it, and can be
-- used where the unit is, as long as the unit was not given back to the library.
theorem derived_token_use {token : AnyToken} (reached : Thread.Run {} s) (has : s.Has key)
    (derived : Derives key handle s token) (later : Thread.Run s t) (few : t.Few)
    (registries : t.started < UInt32.size) :
    token.owner = handle.id ∧ ∃ unit, Names key s handle unit ∧ ∀ S, t.Has S →
      (Session.isAlive S handle.id).run t =
        (.ok (decide (S = key ∧ .disposeUnit unit ∉ t.native.log)), t) ∧
      (S = key ∧ .disposeUnit unit ∉ t.native.log → Accepts S t token) ∧
      (¬(S = key ∧ .disposeUnit unit ∉ t.native.log) → Refuses S t handle.id token) := by
  have hstart := reached.leads ready_new
  have hl := later.leads hstart.ready
  have hs := hstart.sound (hl.few few) sound_new
  obtain ⟨unit, hn⟩ := derived.names
  refine ⟨derived.owner, unit, hn, fun S hS => ?_⟩
  have hk : token.owner.kind = .translationUnit := derived.owner ▸ hn.kind hs
  have halive : (Session.isAlive S handle.id).run t =
      (((t.sessions S).isAlive handle.id).mapError .conflict, t) := run_settle ..
  by_cases hd : S = key ∧ .disposeUnit unit ∉ t.native.log
  · have ha : (t.sessions S).isAlive handle.id = .ok true := by
      rw [hd.1]
      exact hn.isAlive hstart.ready hs hl few hd.2
    refine ⟨?_, fun _ => ?_, fun hnot => absurd hd hnot⟩
    · rw [halive, ha, decide_eq_true hd]
      rfl
    · exact accepts_of_isAlive hk (derived.owner.symm ▸ ha)
  · have ha := hn.not_isAlive hstart.ready hs hl few registries has hS hd
    refine ⟨?_, fun h => absurd h hd, fun _ => ?_⟩
    · rw [halive, ha, decide_eq_false hd]
      rfl
    · exact derived.owner ▸ refuses_of_not_isAlive hk (derived.owner.symm ▸ ha)

-- Two sessions, and a unit in the first one.
def sampleThread : Thread :=
  ((parse sampleTable.library 1 ⟨⟨1, 1, .index⟩⟩ "a.c" {}).run
    ((createIndex sampleTable.library 1 {}).run (start.run (start.run {}).2).2).2).2

theorem derived_token_use_of_sample :
    ∃ token, Derives 1 ⟨sampleUnit⟩ sampleThread token ∧ Accepts 1 sampleThread token ∧
      Refuses 2 sampleThread sampleUnit token ∧
      Refuses 1 ((Session.dispose 1 sampleUnit).run sampleThread).2 sampleUnit token := by
  have reached : Thread.Run {} sampleThread :=
    .act (.act (.act (.act .nothing .start) .start) (.step ⟨by decide, by decide⟩
      (.createIndex sampleTable.library {}))) (.step ⟨by decide, by decide⟩
      (.parse sampleTable.library ⟨⟨1, 1, .index⟩⟩ "a.c" {}))
  have later : Thread.Run sampleThread ((Session.dispose 1 sampleUnit).run sampleThread).2 :=
    .act .nothing (.step ⟨by decide, by decide⟩ (.dispose sampleUnit))
  have derived : Derives 1 ⟨sampleUnit⟩ sampleThread (.type ⟨Native.invalidType, sampleUnit⟩) :=
    .askCursor (.root rfl) trivial (show (askCursor sampleTable.library 1 .type _).run sampleThread =
      (.ok (.type ⟨Native.invalidType, sampleUnit⟩), _) from rfl) rfl
  have few : sampleThread.Few := fun key => by
    by_cases hk : key = 1
    · subst hk
      decide
    · have hz : sampleThread.tracked key = 0 := (if_neg hk).trans (if_neg hk)
      exact hz ▸ by decide
  have named : (Session.unit 1 ⟨sampleUnit⟩).run sampleThread =
      (.ok (⟨1, sampleTable.cursor (some 0)⟩, "a.c"), sampleThread) := rfl
  have number {unit : Nat} (hn : Names 1 sampleThread ⟨sampleUnit⟩ unit) : unit = 1 := by
    obtain ⟨root, filename, hn⟩ := hn
    exact congrArg (·.1.number) (Except.ok.inj (Prod.mk.inj (hn.symm.trans named)).1)
  obtain ⟨-, unit, hn, now⟩ :=
    derived_token_use reached ⟨by decide, by decide⟩ derived .nothing few (by decide)
  obtain rfl := number hn
  obtain ⟨-, unit, hn, afterwards⟩ :=
    derived_token_use reached ⟨by decide, by decide⟩ derived later few (by decide)
  obtain rfl := number hn
  refine ⟨_, derived, (now 1 ⟨by decide, by decide⟩).2.1 ⟨rfl, by decide⟩,
    (now 2 ⟨by decide, by decide⟩).2.2 (by decide),
    (afterwards 1 ⟨by decide, by decide⟩).2.2 (by decide)⟩

end Standing

end Session

end SyntaxHandles
