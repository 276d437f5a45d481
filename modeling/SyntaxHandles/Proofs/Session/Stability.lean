import SyntaxHandles.Proofs.Session.Moments
import SyntaxHandles.Proofs.Session.Questions
import SyntaxHandles.Proofs.Session.Tokens

-- Answers last as long as the unit that they are about. Whatever else a thread does in between, and
-- however many resources its sessions come to own: the unit keeps its entry until it is given back.

namespace SyntaxHandles

open Effect Thread

namespace Session

variable {key k : Nat} {s t u : Thread} {handle : UnitHandle} {unit : Nat}

-- The entries of a session, and one for each serial, whether or not serials come again.
structure Filed (key : Nat) (thread : Thread) : Prop where
  descending : Registry.Descending (thread.sessions key).live
  kinds : ∀ entry ∈ (thread.sessions key).live, entry.kind = entry.resource.kind

-- A unit that has lost its entry was given back.
structure Keeps (key : Nat) (s t : Thread) : Prop where
  filed : Filed key t
  gone : ∀ entry ∈ (s.sessions key).live, entry ∈ (t.sessions key).live ∨
    ∀ unit, entry.resource.unitNumber? = some unit → .disposeUnit unit ∈ t.native.log

theorem Keeps.of_sessions (h : Filed key s) (hs : t.sessions key = s.sessions key) :
    Keeps key s t where
  filed := ⟨hs ▸ h.descending, hs ▸ h.kinds⟩
  gone _ hm := .inl (hs ▸ hm)

theorem Keeps.trans (h : Keeps key s t) (h' : Keeps key t u)
    (hlog : t.native.log <:+ u.native.log) : Keeps key s u where
  filed := h'.filed
  gone entry hm := by
    rcases h.gone entry hm with hm | hg
    · exact h'.gone entry hm
    · exact .inr fun unit hu => hlog.mem (hg unit hu)

theorem Keeps.of_register {state : Native.State} {kind : ResourceKind} {resource : Resource}
    {id : ResourceId} {displaced : Option Resource} {registry : Registry Resource}
    (h : Filed key s) (hkind : resource.kind = kind)
    (hr : (s.sessions key).register kind resource = .ok (id, displaced, registry)) :
    Keeps key s ((s.withNative state).owning key registry displaced) := by
  obtain ⟨hd, hgone, hnew⟩ := h.descending.register hr
  refine ⟨⟨?_, ?_⟩, ?_⟩
  · rw [owning_sessions]
    exact hd
  · rw [owning_sessions]
    intro entry hm
    rcases hnew entry hm with hm | rfl
    · exact h.kinds entry hm
    · exact hkind.symm
  · rw [owning_sessions]
    intro entry hm
    refine (hgone entry hm).imp_right fun hdisplaced unit hu => ?_
    subst hdisplaced
    exact Native.State.disposeUnit_mem_release _ hu

theorem Keeps.of_loses {resource : Resource} {registry : Registry Resource} (h : Filed key s)
    (hsub : registry.live.Sublist (s.sessions key).live)
    (hgone : ∀ entry ∈ (s.sessions key).live, entry ∈ registry.live ∨ entry.resource = resource) :
    Keeps key s
      ((s.withSession key registry).withNative (s.native.release resource)) := by
  refine ⟨⟨?_, ?_⟩, ?_⟩
  · rw [withNative_sessions, withSession_sessions]
    exact h.descending.sublist hsub
  · rw [withNative_sessions, withSession_sessions]
    exact fun entry hm => h.kinds entry (hsub.subset hm)
  · rw [withNative_sessions, withSession_sessions]
    intro entry hm
    refine (hgone entry hm).imp_right fun hres unit hu => ?_
    exact Native.State.disposeUnit_mem_release s.native (hres ▸ hu)

theorem Changes.keeps (h : Filed key s) (hc : Changes k s t) : Keeps key s t := by
  by_cases hk : key = k
  · subst hk
    cases hc with
    | madeIndex register =>
        refine .of_register h ?_ register
        rfl
    | madeUnit _ _ register =>
        refine .of_register h ?_ register
        rfl
    | disposed take =>
        exact .of_loses h (Registry.take_sublist take).2
          fun entry => Registry.mem_or_taken h.descending take
    | drained take =>
        exact .of_loses h (Registry.takeNewest_sublist take).2
          fun entry => Registry.mem_or_takenNewest take
    | nothing | asked | noIndex | notParsed | noUnit => exact .of_sessions h rfl
  · refine .of_sessions h ?_
    cases hc with
    | madeIndex | madeUnit => exact owning_sessions_of_ne hk
    | disposed | drained => exact withSession_sessions_of_ne hk
    | nothing | asked | noIndex | notParsed | noUnit => rfl

theorem keeps_of_reaches (hr : s.Ready) (h : Filed key s) (later : Reaches s t) :
    Keeps key s t := by
  have hparts := later.parts hr
  clear later
  induction hparts with
  | refl => exact .of_sessions h rfl
  | @tail t u earlier last ih =>
      have hlog := (last.leads (Parts.leads hr earlier).ready).log
      cases last with
      | changes _ changes => exact ih.trans (changes.keeps ih.filed) hlog
      | holders sessions => exact ih.trans (.of_sessions ih.filed (by rw [sessions])) hlog

theorem filed_of_reaches (reached : Reaches {} t) : Filed key t :=
  (keeps_of_reaches ready_new ⟨.nil, fun _ hm => absurd hm List.not_mem_nil⟩ reached).filed

-- As long as the unit is not given back, its handle stands for it.
theorem Names.stands (reached : Reaches {} s) (named : Names key s handle unit)
    (later : Reaches s t) (spared : .disposeUnit unit ∉ t.native.log) :
    (t.sessions key).checkOwner handle.id = .ok (.ok ()) ∧
      ((t.sessions key).find? handle.id.serial).bind (·.resource.unitNumber?) = some unit := by
  have hr := (reached.leads ready_new).ready
  have ht := (later.leads hr).ready
  have hfiled : Filed key s := filed_of_reaches reached
  have hkeeps := keeps_of_reaches hr hfiled later
  obtain ⟨hreg, entry, hf, hk, hu⟩ := named.exists_entry
  obtain ⟨hm, hserial⟩ := hfiled.descending.find?_eq_some_iff.mp hf
  have hlive : entry ∈ (t.sessions key).live :=
    (hkeeps.gone entry hm).resolve_right fun hg => spared (hg unit hu)
  have hfind := hkeeps.filed.descending.find?_eq_some_iff.mpr ⟨hlive, rfl⟩
  have hid : (t.sessions key).identity entry = handle.id := by
    simp only [Registry.identity, hserial, hk, ht.ids key, ← hr.ids key, ← hreg]
  have hkind : handle.id.kind = .translationUnit := by
    rw [← hk, hfiled.kinds entry hm]
    cases he : entry.resource with
    | index => simp [he, Resource.unitNumber?] at hu
    | unit => rfl
  have ha : (t.sessions key).isAlive handle.id = .ok true :=
    hid ▸ Registry.isAlive_of_find? (by simp [ht.free key]) hfind
  refine ⟨?_, ?_⟩
  · simp [Registry.checkOwner, hkind, ha, bind, Except.bind, pure, Except.pure]
  · rw [← hserial, hfind]
    exact hu

-- Where a unit is not alive, questions about it are refused at all times for the same reason.
theorem run_ask_of_not_isAlive (libraries : Option Nat → Native.Library) {question : Question}
    (hk : question.owner.kind = .translationUnit)
    (ha : (t.sessions key).isAlive question.owner = .ok false) :
    (question.ask libraries key).run t =
      (.error (.fault (.invalidHandle question.owner Refusal.unitGone)), t) := by
  refine question.run_ask_refused libraries ?_
  simp [Registry.checkOwner, hk, ha, bind, Except.bind, pure, Except.pure]

-- The index is disposed of and another one made; another file is not parsed.
def sampleLater : Thread :=
  ((parse sampleTable.library 1 ⟨⟨1, 3, .index⟩⟩ "b.c" {}).run
    ((createIndex sampleTable.library 1 {}).run
      ((dispose 1 ⟨1, 1, .index⟩).run sampleThread).2).2).2

end Session

end SyntaxHandles
