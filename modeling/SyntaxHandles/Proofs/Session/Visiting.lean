import SyntaxHandles.Proofs.Registry.Reuse
import SyntaxHandles.Proofs.Session.Parsing
import SyntaxHandles.Proofs.Session.Tokens
import SyntaxHandles.Proofs.Traversal.Passing

-- Traversals of a unit that may be disposed of on the way. Each level is listed if the unit is
-- alive at that moment; what was listed before is visited even if it is not alive any more.

namespace SyntaxHandles.Session

open Effect Thread Traversal

variable {library : Native.Library} {key : Nat} {owner : ResourceId} {s t : Thread}

section Listing

-- Whether tokens of an owner can be used: it is a unit, and alive in the session.
def lives (key : Nat) (owner : ResourceId) (thread : Thread) : Bool :=
  decide (owner.kind = .translationUnit) &&
    match (thread.sessions key).isAlive owner with
    | .ok alive => alive
    | .error _ => false

def refusal (owner : ResourceId) : Fault :=
  .invalidHandle owner
    (if owner.kind = .translationUnit then Refusal.unitGone else Refusal.notOwnedByUnit)

-- The library is asked for the children of a node, as one of the unit that the owner stands for.
def listing (key : Nat) (owner : ResourceId) (node : Native.Cursor) (thread : Thread) : Thread :=
  thread.withNative (thread.native.note (.children node
    (((thread.sessions key).find? owner.serial).bind (·.resource.unitNumber?))))

theorem exists_isAlive (hr : t.Ready) (key : Nat) (id : ResourceId) :
    ∃ alive, (t.sessions key).isAlive id = .ok alive :=
  Registry.exists_isAlive (by simp [hr.free key]) id

theorem lives_iff (hr : t.Ready) :
    lives key owner t = true ↔ owner.kind = .translationUnit ∧ Live key t owner := by
  obtain ⟨alive, ha⟩ := exists_isAlive hr key owner
  have hrun : (Session.isAlive key owner).run t =
      (((t.sessions key).isAlive owner).mapError .conflict, t) := run_settle ..
  rw [lives, Live, hrun, ha, Bool.and_eq_true, decide_eq_true_eq]
  refine and_congr_right fun _ => ⟨fun h => ?_, fun h => Except.ok.inj (Prod.mk.inj h).1⟩
  obtain rfl : alive = true := h
  rfl

theorem run_children (hr : t.Ready) (node : Native.Cursor) :
    (children library key ⟨node, owner⟩).run t =
      if lives key owner t then
        (.ok ((library.children node).map (Token.wrap · owner)), listing key owner node t)
      else (.error (.fault (refusal owner)), t) := by
  obtain ⟨alive, ha⟩ := exists_isAlive hr key owner
  have hu : (⟨node, owner⟩ : CursorToken).unwrap (t.sessions key) = _ :=
    Collection.unwrap_eq ha node
  simp only [children, run_bind, run_unwrap, hu, lives, ha, refusal]
  by_cases hk : owner.kind = .translationUnit
  · cases alive
    · simp [hk]
    · simp only [hk, if_true, decide_true, Bool.and_self, run_unitNumber, run_call, run_pure]
      rfl
  · simp [hk]

end Listing

section Hosts

variable {τ ε : Type} {convert : Interrupt → ε}
  {visit : (child parent : CursorToken) → Thread × τ → Except ε ChildVisit × (Thread × τ)}

-- The nodes of the library, and what is done at each of them. A level can be listed as long as the
-- unit is alive; the visitor is given the nodes as tokens of the unit.
def world (library : Native.Library) (key : Nat) (owner : ResourceId) (convert : Interrupt → ε)
    (visit : (child parent : CursorToken) → Thread × τ → Except ε ChildVisit × (Thread × τ)) :
    Traversal.Host Native.Cursor Interrupt ε (Thread × τ) where
  children node s :=
    if lives key owner s.1 then (.ok (library.children node), listing key owner node s.1, s.2)
    else (.error (.fault (refusal owner)), s)
  visit child parent := visit (.wrap child owner) (.wrap parent owner)
  convert := convert

-- A visitor that does to the thread what such visitors may do: anything, in any number of moves.
def Roams (s : Thread)
    (visit : (child parent : CursorToken) → Thread × τ → Except ε ChildVisit × (Thread × τ)) :
    Prop :=
  ∀ child parent thread own, Reaches s thread →
    Reaches thread (visit child parent (thread, own)).2.1

theorem ready_of_reaches (reached : Reaches {} s) (later : Reaches s t) : t.Ready :=
  (later.leads (reached.leads ready_new).ready).ready

theorem has_of_reaches (reached : Reaches {} s) (has : s.Has key) (later : Reaches s t) :
    t.Has key :=
  has.leads (later.leads (reached.leads ready_new).ready)

theorem reaches_listing (reached : Reaches {} t) (has : t.Has key) (node : Native.Cursor)
    (alive : lives key owner t = true) (library : Native.Library) :
    (children library key (.wrap node owner)).run t =
        (.ok ((library.children node).map (Token.wrap · owner)), listing key owner node t) ∧
      Reaches t (listing key owner node t) := by
  have hrun : (children library key (.wrap node owner)).run t = _ :=
    run_children (reached.leads ready_new).ready node
  rw [if_pos alive] at hrun
  have hmove := Move.list has library (.wrap node owner)
  rw [hrun] at hmove
  exact ⟨hrun, .single hmove⟩

theorem world_matches (reached : Reaches {} s) (has : s.Has key) (roams : Roams s visit) :
    Host.Matches (fun p q => p = q ∧ Reaches s p.1) (Token.wrap · owner)
      (world library key owner convert visit) (host library key convert visit) where
  children node p q hpq := by
    obtain ⟨rfl, hp⟩ := hpq
    by_cases hl : lives key owner p.1 = true
    · obtain ⟨hrun, hlist⟩ :=
        reaches_listing (reached.trans hp) (has_of_reaches reached has hp) node hl library
      refine ⟨_, (listing key owner node p.1, p.2), _, ⟨rfl, hp.trans hlist⟩, if_pos hl, ?_⟩
      simp only [host, hrun]
      rfl
    · have hrun : (children library key (.wrap node owner)).run p.1 = _ :=
        run_children (ready_of_reaches reached hp) node
      rw [if_neg hl] at hrun
      refine ⟨_, p, _, ⟨rfl, hp⟩, if_neg hl, ?_⟩
      simp only [host, hrun]
      rfl
  visit child parent p q hpq := by
    obtain ⟨rfl, hp⟩ := hpq
    exact ⟨_, _, _, ⟨rfl, hp.trans (roams _ _ _ _ hp)⟩, rfl, rfl⟩
  convert := rfl

theorem host_keeps (reached : Reaches {} s) (has : s.Has key) (roams : Roams s visit) :
    Host.Keeps (fun p q => Reaches s p.1 → Reaches p.1 q.1) (host library key convert visit) where
  refl _ _ := .refl
  trans h h' hp := (h hp).trans (h' (hp.trans (h hp)))
  children node _ hp := .single (.list (has_of_reaches reached has hp) library node)
  visit child parent p hp := roams child parent p.1 p.2 hp

theorem visitChildren_eq (reached : Reaches {} s) (has : s.Has key) (roams : Roams s visit)
    (fuel : Nat) (token : CursorToken) (own : τ) :
    visitChildren library key convert visit fuel token (s, own) =
      (Traversal.run (world library key token.owner convert visit) fuel token.raw {} (s, own)).map
        fun ended => (ended.result, ended.host) := by
  have hrel : Option.Rel _
      (Traversal.run (world library key token.owner convert visit) fuel token.raw {} (s, own))
      (Traversal.run (host library key convert visit) fuel token {} (s, own)) :=
    run_matches (world_matches reached has roams) fuel token.raw {} ⟨rfl, .refl⟩
  refine (map_eq_map hrel fun coarse fine hm => ?_).symm
  rw [hm.1, hm.2.2.1]

section Alike

-- A visitor that answers by what it remembers and by whether the unit is alive, and does something
-- to the thread besides.
def answering (key : Nat) (owner : ResourceId)
    (answer : (child parent : CursorToken) → Bool → τ → Except ε ChildVisit × τ)
    (work : (child parent : CursorToken) → τ → Thread → Thread) (child parent : CursorToken)
    (p : Thread × τ) : Except ε ChildVisit × (Thread × τ) :=
  ((answer child parent (lives key owner p.1) p.2).1, work child parent p.2 p.1,
    (answer child parent (lives key owner p.1) p.2).2)

-- States of two threads in which a unit is alive in both or in neither.
structure Alike (key : Nat) (owner : ResourceId) (s : Thread) (p q : Thread × τ) : Prop where
  first : Reaches s p.1
  second : Reaches s q.1
  lives : lives key owner p.1 = lives key owner q.1
  own : p.2 = q.2

variable {answer : (child parent : CursorToken) → Bool → τ → Except ε ChildVisit × τ}
  {work work' : (child parent : CursorToken) → τ → Thread → Thread}

theorem answering_matches (reached : Reaches {} s) (has : s.Has key)
    (roams : Roams s (answering key owner answer work))
    (roams' : Roams s (answering key owner answer work'))
    (alike : ∀ child parent own thread thread', Reaches s thread → Reaches s thread' →
      lives key owner thread = lives key owner thread' →
        lives key owner (work child parent own thread) =
          lives key owner (work' child parent own thread')) :
    Host.Matches (Alike key owner s) (Token.wrap · owner)
      (world library key owner convert (answering key owner answer work))
      (host library key convert (answering key owner answer work')) where
  children node p q hpq := by
    by_cases hl : lives key owner p.1 = true
    · have hl' : lives key owner q.1 = true := hpq.lives ▸ hl
      obtain ⟨-, hlist⟩ := reaches_listing (reached.trans hpq.first)
        (has_of_reaches reached has hpq.first) node hl library
      obtain ⟨hrun, hlist'⟩ := reaches_listing (reached.trans hpq.second)
        (has_of_reaches reached has hpq.second) node hl' library
      refine ⟨_, (listing key owner node p.1, p.2), (listing key owner node q.1, q.2),
        ⟨hpq.first.trans hlist, hpq.second.trans hlist', hpq.lives, hpq.own⟩, if_pos hl, ?_⟩
      simp only [host, hrun]
      rfl
    · have hrun : (children library key (.wrap node owner)).run q.1 = _ :=
        run_children (ready_of_reaches reached hpq.second) node
      rw [if_neg (hpq.lives ▸ hl)] at hrun
      refine ⟨_, p, q, hpq, if_neg hl, ?_⟩
      simp only [host, hrun]
      rfl
  visit child parent p q hpq := by
    obtain ⟨thread, own⟩ := p
    obtain ⟨thread', own'⟩ := q
    obtain ⟨hp, hq, hlives, hown⟩ := hpq
    obtain rfl : own = own' := hown
    have hanswer := congrArg (answer (.wrap child owner) (.wrap parent owner) · own) hlives
    have hfirst := hp.trans (roams (.wrap child owner) (.wrap parent owner) thread own hp)
    have hsecond := hq.trans (roams' (.wrap child owner) (.wrap parent owner) thread' own hq)
    have hagain := alike (.wrap child owner) (.wrap parent owner) own thread thread' hp hq hlives
    have hremembers := congrArg Prod.snd hanswer
    exact ⟨_, _, _, ⟨hfirst, hsecond, hagain, hremembers⟩, rfl,
      Prod.ext (congrArg Prod.fst hanswer).symm rfl⟩
  convert := rfl

end Alike

end Hosts

section Disposal

variable {τ ε : Type} {convert : Interrupt → ε}
  {visit : (child parent : CursorToken) → Thread × τ → Except ε ChildVisit × (Thread × τ)}
  {u : Thread}

theorem lives_iff_entry (hr : t.Ready) (hs : t.Sound) :
    lives key owner t = true ↔ owner.kind = .translationUnit ∧
      ∃ entry ∈ (t.sessions key).live, ⟨UInt32.ofNat key, entry.serial, entry.kind⟩ = owner := by
  rw [lives_iff hr, live_iff hr hs, ← hr.ids key]
  rfl

-- A unit that was alive and is not any more will not be alive again.
theorem not_lives_again (reached : Reaches {} s) (alive : lives key owner s = true)
    (passed : Reaches s t) (gone : lives key owner t = false) (later : Reaches t u) (few : u.Few) :
    lives key owner u = false := by
  have hls := reached.leads ready_new
  have hst := passed.leads hls.ready
  have htu := later.leads hst.ready
  have hs := hls.sound ((hst.trans htu).few few) sound_new
  have ht := hst.sound (htu.few few) hs
  have hu := htu.sound few ht
  obtain ⟨hkind, old, hold, rfl⟩ := (lives_iff_entry hls.ready hs).mp alive
  rw [Bool.eq_false_iff]
  intro again
  obtain ⟨-, entry, hm, hid⟩ := (lives_iff_entry htu.ready hu).mp again
  rcases (htu.lasts few ht key).kept entry hm with hkept | hnew
  · have hlives := (lives_iff_entry hst.ready ht).mpr ⟨hkind, entry, hkept, hid⟩
    rw [gone] at hlives
    exact Bool.false_ne_true hlives
  · have hgiven := ((hs.issued key).given old hold).2
    have htracked := hst.tracked key
    have hserial : entry.serial = old.serial := congrArg ResourceId.serial hid
    rw [hserial] at hnew
    omega

-- The first of the visits that are left, and then the others.
theorem reaches_deliver (roams : Roams s visit) (refused : ε) (child parent : CursorToken)
    (rest : List (CursorToken × CursorToken)) {p : Thread × τ} (hp : Reaches s p.1) :
    Reaches (visit child parent p).2.1 (deliver visit refused ((child, parent) :: rest) p).2.1 := by
  induction rest generalizing child parent p with
  | nil =>
      simp only [deliver]
      rcases visit child parent p with ⟨error | decision, q⟩
      · exact .refl
      · cases decision <;> exact .refl
  | cons pair rest ih =>
      obtain ⟨child', parent'⟩ := pair
      have hvisit := roams child parent p.1 p.2 hp
      rw [deliver]
      rcases hv : visit child parent p with ⟨error | decision, q⟩
      · exact .refl
      · cases decision with
        | halt | recurse => exact .refl
        | next =>
            rw [hv] at hvisit
            have hq : Reaches s q.1 := hp.trans hvisit
            exact (roams child' parent' q.1 q.2 hq).trans (ih child' parent' hq)

-- Unless a session has given out all its identities, a unit that is gone after one visit is gone
-- after all that follow.
theorem remains_of_gone (reached : Reaches {} s) (roams : Roams s visit)
    (alive : lives key owner s = true) (refused : ε) (child parent : CursorToken)
    (rest : List (CursorToken × CursorToken)) {p : Thread × τ} (hp : Reaches s p.1)
    (gone : lives key owner (visit child parent p).2.1 = false)
    (few : (deliver visit refused ((child, parent) :: rest) p).2.1.Few) :
    Remains visit (fun q => lives key owner q.1 = false) ((child, parent) :: rest) p := by
  refine ⟨gone, fun hnext => ?_⟩
  induction rest generalizing child parent p with
  | nil => trivial
  | cons pair rest ih =>
      obtain ⟨child', parent'⟩ := pair
      have hvisit := roams child parent p.1 p.2 hp
      rw [deliver] at few
      rcases hv : visit child parent p with ⟨answer, q⟩
      rw [hv] at hvisit gone few hnext
      obtain rfl : answer = .ok .next := hnext
      have hq := hp.trans hvisit
      have hlast := reaches_deliver roams refused child' parent' rest hq
      have hfew := (hlast.leads (ready_of_reaches reached (hq.trans (roams _ _ _ _ hq)))).few few
      have hgone := not_lives_again reached alive hq gone (roams child' parent' q.1 q.2 hq) hfew
      exact ⟨hgone, ih child' parent' hq hgone few⟩

variable {token : CursorToken} {own : τ} {stack : List (Frame CursorToken)} {p : Thread × τ}

theorem lives_of_passes (reached : Reaches {} s)
    (passes : Passes (host library key convert visit) token (s, own) stack p) :
    lives key token.owner s = true := by
  obtain ⟨listed, u, hc⟩ := passes.exists_children
  have hr := (reached.leads ready_new).ready
  have hrun : (children library key token).run s = _ := run_children hr token.raw
  by_contra hdead
  rw [if_neg hdead] at hrun
  simp only [host, hrun] at hc
  cases (Prod.mk.inj hc).1

theorem passes_delivers (reached : Reaches {} s) (has : s.Has key) (roams : Roams s visit)
    (passes : Passes (host library key convert visit) token (s, own) stack p)
    (remains : Remains visit (fun q => lives key token.owner q.1 = false) (outstanding stack) p) :
    ∃ fuel, visitChildren library key convert visit fuel token (s, own) = some (deliver visit
      (convert (.fault (.invalidHandle token.owner Refusal.unitGone))) (outstanding stack) p) := by
  have alive := lives_of_passes reached passes
  have hkind := ((lives_iff (reached.leads ready_new).ready).mp alive).1
  have hp : Reaches s p.1 := passes.keeps (host_keeps reached has roams) .refl
  have hall : ∀ frame ∈ stack, frame.All fun node => node.owner = token.owner :=
    passes.all (host_handsDown fun _ _ hn ho _ => ho.trans hn) rfl
  have hrefuse : ∀ frame ∈ stack, ∀ child ∈ frame.pending, ∀ q : Thread × τ,
      Reaches s q.1 ∧ lives key token.owner q.1 = false → ∃ error,
        (host library key convert visit).children child q = (.error error, q) ∧
          convert error = convert (.fault (.invalidHandle token.owner Refusal.unitGone)) := by
    intro frame hf child hc q hq
    have howner := (hall frame hf).2 child hc
    have hrun : (children library key child).run q.1 = _ :=
      run_children (ready_of_reaches reached hq.1) child.raw
    rw [howner, if_neg (by simp [hq.2]), refusal, if_pos hkind] at hrun
    exact ⟨_, by simp only [host, hrun], rfl⟩
  have hremains := remains.and (Q := fun q => Reaches s q.1)
    (fun child parent q hq => hq.trans (roams child parent q.1 q.2 hq)) hp
  obtain ⟨visits, hu⟩ := unwinds_deliver (host library key convert visit) stack p hrefuse
    hremains
  obtain ⟨fuel, after, hrun⟩ := passes.exists_run hu {}
  refine ⟨fuel, ?_⟩
  simp only [visitChildren, hrun, Option.map_some]
  rfl

end Disposal

section Whole

variable {τ ε : Type} {convert : Interrupt → ε}
  {visit : (child parent : CursorToken) → Thread × τ → Except ε ChildVisit × (Thread × τ)}

-- A traversal does what the recursion on the children of the library does, as long as the unit is
-- alive when a level is to be listed. From where the unit is gone, what was listed is visited, up to
-- the first node that the visitor wants to go into. It makes no difference what else is done at the
-- visits, traversals included.
theorem visitChildren_lists_while_unit_lives (reached : Reaches {} s) (has : s.Has key)
    (roams : Roams s visit) (library : Native.Library) (convert : Interrupt → ε)
    (token : CursorToken) (own : τ) :
    (∀ result t, (∃ fuel, visitChildren library key convert visit fuel token (s, own) =
        some (result, t)) ↔
      ∃ fuel visits, descendFrom (world library key token.owner convert visit) fuel token.raw
        (s, own) = some (result, visits, t)) ∧
    (∀ stack p, Passes (host library key convert visit) token (s, own) stack p →
      Remains visit (fun q => lives key token.owner q.1 = false) (outstanding stack) p →
        ∃ fuel, visitChildren library key convert visit fuel token (s, own) = some (deliver visit
          (convert (.fault (.invalidHandle token.owner Refusal.unitGone))) (outstanding stack) p)) ∧
    (∀ stack p, Passes (host library key convert visit) token (s, own) stack p →
      ∀ child parent rest refused, outstanding stack = (child, parent) :: rest →
        lives key token.owner (visit child parent p).2.1 = false →
        (deliver visit refused (outstanding stack) p).2.1.Few →
          Remains visit (fun q => lives key token.owner q.1 = false) (outstanding stack) p) ∧
    (∀ fuel fuel' ended, visitChildren library key convert visit fuel token (s, own) = some ended →
      fuel ≤ fuel' → visitChildren library key convert visit fuel' token (s, own) = some ended) ∧
    ∀ answer work work', Roams s (answering key token.owner answer work) →
      Roams s (answering key token.owner answer work') →
      (∀ child parent own thread thread', Reaches s thread → Reaches s thread' →
        lives key token.owner thread = lives key token.owner thread' →
          lives key token.owner (work child parent own thread) =
            lives key token.owner (work' child parent own thread')) →
      ∀ fuel, (visitChildren library key convert (answering key token.owner answer work) fuel token
          (s, own)).map (fun ended => (ended.1, ended.2.2)) =
        (visitChildren library key convert (answering key token.owner answer work') fuel token
          (s, own)).map (fun ended => (ended.1, ended.2.2)) := by
  refine ⟨fun result t => ?_, fun stack p passes remains => ?_,
    fun stack p passes child parent rest refused ho gone few => ?_,
    fun fuel fuel' ended h hle => ?_, fun answer work work' hwork hwork' alike fuel => ?_⟩
  · constructor
    · rintro ⟨fuel, h⟩
      rw [visitChildren_eq reached has roams, Option.map_eq_some_iff] at h
      obtain ⟨⟨_, ⟨state, visited⟩, _⟩, hrun, he⟩ := h
      obtain ⟨rfl, rfl⟩ := Prod.mk.inj he
      obtain ⟨fuel, visits, hd, -⟩ := exists_run_iff.mp ⟨fuel, state, hrun⟩
      exact ⟨fuel, visits, hd⟩
    · rintro ⟨fuel, visits, hd⟩
      obtain ⟨fuel, state, hrun⟩ := exists_run_iff.mpr ⟨fuel, visits, hd, rfl⟩
      refine ⟨fuel, ?_⟩
      rw [visitChildren_eq reached has roams, hrun]
      rfl
  · exact passes_delivers reached has roams passes remains
  · have alive := lives_of_passes reached passes
    have hp : Reaches s p.1 := passes.keeps (host_keeps reached has roams) .refl
    rw [ho] at few ⊢
    exact remains_of_gone reached roams alive refused child parent rest hp gone few
  · simp only [visitChildren, Option.map_eq_some_iff] at h ⊢
    obtain ⟨ended, hrun, rfl⟩ := h
    exact ⟨ended, run_mono hrun hle, rfl⟩
  · have hrel : Option.Rel _
        (Traversal.run (world library key token.owner convert
          (answering key token.owner answer work)) fuel token.raw {} (s, own))
        (Traversal.run (host library key convert (answering key token.owner answer work')) fuel
          token {} (s, own)) :=
      run_matches (answering_matches reached has hwork hwork' alike) fuel token.raw {}
        ⟨.refl, .refl, rfl, rfl⟩
    rw [visitChildren_eq reached has hwork, visitChildren, Option.map_map, Option.map_map]
    refine map_eq_map hrel fun coarse fine hm => ?_
    simp only [Function.comp_apply, hm.1, hm.2.2.own]

-- A file with two nodes below its root, and one below the first of them.
def sampleFamily : Native.Table where
  files := [("a.c", { root := some (some 0) })]
  cursors := #[{ children := [some 1, some 2] }, { children := [some 3] }, {}, {}]

def sampleParsed : Thread :=
  ((parse sampleFamily.library 1 ⟨⟨1, 1, .index⟩⟩ "a.c" {}).run
    ((createIndex sampleFamily.library 1 {}).run (start.run {}).2).2).2

theorem sampleParsed_reached : Reaches {} sampleParsed :=
  .tail (.tail (.single (.act .start)) (.act (.step ⟨by decide, by decide⟩
    (.createIndex sampleFamily.library {})))) (.act (.step ⟨by decide, by decide⟩
    (.parse sampleFamily.library ⟨⟨1, 1, .index⟩⟩ "a.c" {})))

-- A visitor that disposes of the unit, counts its visits and gives the same answer at each of them.
def sampleDisposing (answer : ChildVisit) (_ _ : CursorToken) (p : Thread × Nat) :
    Except Interrupt ChildVisit × (Thread × Nat) :=
  (.ok answer, ((dispose 1 sampleUnit).run p.1).2, p.2 + 1)

theorem visitChildren_lists_while_unit_lives_of_sample :
    (∃ fuel t, visitChildren sampleFamily.library 1 id (sampleDisposing .next) fuel
        (.wrap (sampleFamily.cursor (some 0)) sampleUnit) (sampleParsed, 0) =
      some (.ok .completed, (t, 2))) ∧
    ∃ fuel t, visitChildren sampleFamily.library 1 id (sampleDisposing .recurse) fuel
        (.wrap (sampleFamily.cursor (some 0)) sampleUnit) (sampleParsed, 0) =
      some (.error (.fault (.invalidHandle sampleUnit Refusal.unitGone)), (t, 1)) := by
  have reached := sampleParsed_reached
  have has : sampleParsed.Has 1 := ⟨by decide, by decide⟩
  have roams (answer : ChildVisit) : Roams sampleParsed (sampleDisposing answer) :=
    fun _ _ _ _ h => .single (.act (.step (has_of_reaches reached has h) (.dispose sampleUnit)))
  obtain ⟨-, next, -⟩ := visitChildren_lists_while_unit_lives reached has (roams .next)
    sampleFamily.library id (.wrap (sampleFamily.cursor (some 0)) sampleUnit) 0
  obtain ⟨-, recurse, -⟩ := visitChildren_lists_while_unit_lives reached has (roams .recurse)
    sampleFamily.library id (.wrap (sampleFamily.cursor (some 0)) sampleUnit) 0
  obtain ⟨fuel, hnext⟩ := next _ _ (.start rfl) ⟨rfl, fun _ => ⟨rfl, fun _ => trivial⟩⟩
  obtain ⟨fuel', hrecurse⟩ := recurse _ _ (.start rfl) ⟨rfl, fun h => by cases h⟩
  exact ⟨⟨fuel, _, hnext⟩, fuel', _, hrecurse⟩

section Revival

-- An index that is made and given back at once uses up a serial.
def sampleUse (thread : Thread) : Thread :=
  match (createIndex sampleFamily.library 1 {}).run thread with
  | (.ok handle, made) => ((dispose 1 handle.id).run made).2
  | (.error _, made) => made

-- Some serials are used up, and then the file is parsed with a new index.
def sampleRevived (n : Nat) (thread : Thread) : Thread :=
  ((parse sampleFamily.library 1 ⟨⟨1, 1, .index⟩⟩ "a.c" {}).run
    ((createIndex sampleFamily.library 1 {}).run (sampleUse^[n] thread)).2).2

-- A visitor that disposes of the unit and its index. At its second visit it uses up all the serials
-- that are left, parses the file again and wants to go on below.
def sampleReviving (_ _ : CursorToken) (p : Thread × Nat) :
    Except Interrupt ChildVisit × (Thread × Nat) :=
  if p.2 = 0 then
    (.ok .next, ((dispose 1 ⟨1, 1, .index⟩).run ((dispose 1 sampleUnit).run p.1).2).2, 1)
  else
    (.ok .recurse, sampleRevived 4294967294 p.1, p.2 + 1)

-- The session once the file is parsed again.
def sampleReparsed (unit : Nat) (root : Native.Cursor) (index : Nat) : Registry Resource where
  id := 1
  nextSerial := 3
  live := [⟨2, .translationUnit, .unit ⟨unit, root⟩ "a.c" index⟩, ⟨1, .index, .index index⟩]

variable {t : Thread} {serial : UInt32}

theorem run_createIndex {options : IndexOptions} {id : ResourceId} {registry : Registry Resource}
    (hc : library.createsIndex options.excludeDeclarationsFromPch options.displayDiagnostics = true)
    (hr : (t.sessions key).register .index (.index (t.native.indices + 1)) =
      .ok (id, none, registry)) :
    (createIndex library key options).run t = (.ok ⟨id⟩, (t.withNative (t.native.makeIndex
      options.excludeDeclarationsFromPch options.displayDiagnostics)).owning key registry none) := by
  simp only [createIndex, hc, if_true, run_bind, run_get, run_natively, run_call, withNative_native,
    withNative_withNative, run_track, withNative_sessions, hr]
  rfl

theorem run_dispose {id : ResourceId} {resource : Resource} {registry : Registry Resource}
    (ht : (t.sessions key).take id = .ok (some resource, registry)) :
    (dispose key id).run t =
      (.ok true, (t.withSession key registry).withNative (t.native.release resource)) := by
  simp only [dispose, run_bind, run_session, run_settle, ht, Except.mapError, run_setSession,
    run_release]
  rfl

theorem sampleUse_sessions (h : t.sessions 1 = { id := 1, nextSerial := serial }) :
    (sampleUse t).sessions 1 = { id := 1, nextSerial := serial + 1 } := by
  have hfree : ({ id := 1, nextSerial := serial } : Registry Resource).borrow = .free := rfl
  obtain ⟨registered, hregister, htake⟩ :=
    Registry.take_of_register hfree .nil nofun .index (.index (t.native.indices + 1))
  have hmade : (createIndex sampleFamily.library 1 {}).run t = (.ok ⟨⟨1, serial, .index⟩⟩, _) :=
    run_createIndex rfl (by rw [h]; exact hregister)
  have hgone := run_dispose (t := ((createIndex sampleFamily.library 1 {}).run t).2)
    (by rw [hmade, owning_sessions]; exact htake)
  rw [hmade] at hgone
  rw [sampleUse, hmade]
  dsimp only at hgone ⊢
  rw [hgone, withNative_sessions, withSession_sessions]

theorem sampleUse_iterate_sessions (h : t.sessions 1 = { id := 1, nextSerial := serial }) (n : Nat) :
    (sampleUse^[n] t).sessions 1 = { id := 1, nextSerial := serial + UInt32.ofNat n } := by
  induction n with
  | zero => simpa using h
  | succ n ih =>
      rw [Function.iterate_succ_apply', sampleUse_sessions ih, UInt32.ofNat_add, UInt32.add_assoc]
      rfl

theorem created_sessions (h : t.sessions 1 = { id := 1 }) : ∃ index,
    ((createIndex sampleFamily.library 1 {}).run t).2.sessions 1 =
      { id := 1, nextSerial := 2, live := [⟨1, .index, .index index⟩] } := by
  have hmade : (createIndex sampleFamily.library 1 {}).run t = (.ok ⟨⟨1, 1, .index⟩⟩, _) :=
    run_createIndex rfl (by rw [h]; rfl)
  rw [hmade]
  refine ⟨t.native.indices + 1, ?_⟩
  dsimp only
  rw [owning_sessions]
  rfl

-- The file is parsed into a unit under the identity of the first one.
theorem parsed_sessions {index : Nat} (h : t.sessions 1 =
      { id := 1, nextSerial := 2, live := [⟨1, .index, .index index⟩] }) : ∃ unit root,
    ((parse sampleFamily.library 1 ⟨⟨1, 1, .index⟩⟩ "a.c" {}).run t).2.sessions 1 =
      sampleReparsed unit root index := by
  have hlook : (t.sessions 1).look ⟨1, 1, .index⟩ Resource.asIndex? = .ok (.ok index) := by
    rw [h]
    rfl
  have hc : checkParse "a.c" ({} : ParseOptions).args = .ok () := rfl
  have hr : (sampleFamily.library.parse "a.c" ({} : ParseOptions).argv ({} : ParseOptions).argc
    ({} : ParseOptions).flags).root = some (sampleFamily.cursor (some 0)) := rfl
  refine ⟨t.native.units + 1, sampleFamily.cursor (some 0), ?_⟩
  have hregister : (t.sessions 1).register .translationUnit
      (.unit ⟨t.native.units + 1, sampleFamily.cursor (some 0)⟩ "a.c" index) =
        .ok (⟨1, 2, .translationUnit⟩, none, sampleReparsed (t.native.units + 1)
          (sampleFamily.cursor (some 0)) index) := by
    rw [h]
    rfl
  rw [run_parse_shared hlook]
  simp only [parseShared, hc, hr, run_bind, run_get, run_natively, run_call, withNative_native,
    withNative_withNative, run_track, withNative_sessions, Native.State.share_units, hregister,
    run_pure]
  exact owning_sessions

theorem reaches_sampleUse (reached : Reaches {} t) (has : t.Has 1) : Reaches t (sampleUse t) := by
  have hcreate : Reaches t ((createIndex sampleFamily.library 1 {}).run t).2 :=
    .single (.act (.step has (.createIndex ..)))
  rw [sampleUse]
  split
  · next made h =>
    rw [h] at hcreate
    exact hcreate.tail (.act (.step (has_of_reaches reached has hcreate) (.dispose _)))
  · next h =>
    rw [h] at hcreate
    exact hcreate

theorem reaches_sampleUse_iterate (reached : Reaches {} t) (has : t.Has 1) (n : Nat) :
    Reaches t (sampleUse^[n] t) := by
  induction n with
  | zero => exact .refl
  | succ n ih =>
      rw [Function.iterate_succ_apply']
      exact ih.trans (reaches_sampleUse (reached.trans ih) (has_of_reaches reached has ih))

theorem reaches_sampleRevived (reached : Reaches {} t) (has : t.Has 1) (n : Nat) :
    Reaches t (sampleRevived n t) := by
  have used := reaches_sampleUse_iterate reached has n
  have created := used.tail (.act (.step (has_of_reaches reached has used)
    (.createIndex sampleFamily.library {})))
  exact created.tail (.act (.step (has_of_reaches reached has created)
    (.parse sampleFamily.library ⟨⟨1, 1, .index⟩⟩ "a.c" {})))

theorem sampleRevived_sessions (h : t.sessions 1 = { id := 1, nextSerial := 3 }) {n : Nat}
    (hn : 3 + UInt32.ofNat n = 1) : ∃ unit root index,
      (sampleRevived n t).sessions 1 = sampleReparsed unit root index := by
  have hused := sampleUse_iterate_sessions h n
  rw [hn] at hused
  obtain ⟨index, hcreated⟩ := created_sessions hused
  obtain ⟨unit, root, hparsed⟩ := parsed_sessions hcreated
  exact ⟨unit, root, index, hparsed⟩

theorem roams_sampleReviving : Roams sampleParsed sampleReviving := by
  intro child parent thread own h
  have reached := sampleParsed_reached.trans h
  have has : thread.Has 1 := has_of_reaches sampleParsed_reached ⟨by decide, by decide⟩ h
  rw [sampleReviving]
  split
  · have disposed : Reaches thread ((dispose 1 sampleUnit).run thread).2 :=
      .single (.act (.step has (.dispose _)))
    exact disposed.tail (.act (.step (has_of_reaches reached has disposed) (.dispose _)))
  · dsimp only
    exact reaches_sampleRevived reached has 4294967294

theorem run_children_reparsed {unit index : Nat} {root : Native.Cursor}
    (h : t.sessions 1 = sampleReparsed unit root index) :
    (children sampleFamily.library 1 (.wrap (sampleFamily.cursor (some 2)) sampleUnit)).run t =
      (.ok [], t.withNative (t.native.note
        (.children (sampleFamily.cursor (some 2)) (some unit)))) := by
  have hu : (Token.wrap (sampleFamily.cursor (some 2)) sampleUnit).unwrap (t.sessions 1) =
      .ok (.ok (sampleFamily.cursor (some 2))) := by
    rw [h]
    rfl
  have hn : (unitNumber 1 sampleUnit).run t = (.ok (some unit), t) := by
    rw [run_unitNumber, h]
    rfl
  simp only [children, run_bind, run_unwrap, hu]
  rw [Token.wrap, hn]
  rfl

-- Once the serials come again, the unit that was disposed of seems to be alive, and a level is
-- listed.
theorem gone_units_are_listed : Roams sampleParsed sampleReviving ∧ ∃ gone fuel t unit,
    sampleReviving (.wrap (sampleFamily.cursor (some 1)) sampleUnit)
      (.wrap (sampleFamily.cursor (some 0)) sampleUnit)
      (listing 1 sampleUnit (sampleFamily.cursor (some 0)) sampleParsed, 0) =
        (.ok .next, (gone, 1)) ∧
    lives 1 sampleUnit gone = false ∧
    visitChildren sampleFamily.library 1 id sampleReviving fuel
      (.wrap (sampleFamily.cursor (some 0)) sampleUnit) (sampleParsed, 0) =
        some (.ok .completed, (t, 2)) ∧
    .children (sampleFamily.cursor (some 2)) (some unit) ∈ t.native.log := by
  let node (name : Nat) : CursorToken := .wrap (sampleFamily.cursor (some name)) sampleUnit
  let gone := ((dispose 1 ⟨1, 1, .index⟩).run ((dispose 1 sampleUnit).run
    (listing 1 sampleUnit (sampleFamily.cursor (some 0)) sampleParsed)).2).2
  have hgone : gone.sessions 1 = { id := 1, nextSerial := 3 } := rfl
  have first : sampleReviving (node 1) (node 0)
    (listing 1 sampleUnit (sampleFamily.cursor (some 0)) sampleParsed, 0) = (.ok .next, (gone, 1)) :=
      rfl
  obtain ⟨unit, root, index, hrevived⟩ :=
    sampleRevived_sessions hgone (show 3 + UInt32.ofNat 4294967294 = 1 from rfl)
  have second : sampleReviving (node 2) (node 0) (gone, 1) =
    (.ok .recurse, (sampleRevived 4294967294 gone, 2)) := if_neg Nat.one_ne_zero
  generalize sampleRevived 4294967294 gone = revived at hrevived second
  let last := revived.withNative (revived.native.note
    (.children (sampleFamily.cursor (some 2)) (some unit)))
  have listed : (host sampleFamily.library 1 id sampleReviving).children (node 2) (revived, 2) =
      (.ok [], (last, 2)) :=
    host_children (run_children_reparsed hrevived)
  have passes : Passes (host sampleFamily.library 1 id sampleReviving) (node 0) (sampleParsed, 0)
      [⟨node 0, [node 2]⟩] (gone, 1) := .next (.start rfl) first
  obtain ⟨fuel, after, hrun⟩ := (passes.recursed second listed).exists_run
    (.finished .finished (.finished .finished .completed)) {}
  refine ⟨roams_sampleReviving, gone, fuel, last, unit, first, rfl, ?_, .head _⟩
  rw [visitChildren, hrun]
  rfl

end Revival

end Whole

end SyntaxHandles.Session
