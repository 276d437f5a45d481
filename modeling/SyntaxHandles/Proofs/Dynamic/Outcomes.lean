import SyntaxHandles.Proofs.Dynamic.Courses
import SyntaxHandles.Proofs.Dynamic.Raising
import SyntaxHandles.Proofs.Dynamic.Refinement
import SyntaxHandles.Proofs.Dynamic.Start

-- Whole programs of a host, from the interface as it was made.

namespace SyntaxHandles.Dynamic

open Scripting Telling Thread
open SessionScript (Item)

-- Nobody looks into a session, and nothing was changed of the interface.
def Settled (s : Thread × Desk) : Prop :=
  s.1.Free ∧ s.2.Fresh

-- What a program sees of how a script ends.
def revealed {α : Type} (ended : α × (Thread × Desk)) : α × (Thread × Names) :=
  (ended.1, ended.2.1, ended.2.2.names)

section Programs

variable {library : Native.Library} {program : Program} {s t : Thread × Desk}
  {failure : Option Failure}

theorem ofDepth_mostLevels (library : Native.Library) (fuel : Nat) :
    Host.ofDepth library fuel mostLevels =
      speaker library fuel (Host.ofDepth library fuel (mostLevels - 2)) := rfl

theorem Program.ends (library : Native.Library) (program : Program) (hs : s.2.Fresh) :
    (∃ stop, (program.run library).run s = .error stop ∧
      (program.ask library).run (s.1, s.2.names) = .error stop) ∨
    ∃ failure t, t.2.Fresh ∧ (program.run library).run s = .ok (failure, t) ∧
      (program.ask library).run (s.1, s.2.names) = .ok (failure, (t.1, t.2.names)) := by
  have ha := program.follows library Traversal.ample
    (Host.ofDepth library Traversal.ample (mostLevels - 2)) s hs
  simp only [Program.run, Program.ask, StateT.run_bind, ofDepth_mostLevels]
  generalize (program.byHost _ _ _).run.run s = x at ha ⊢
  generalize (program.bySession _ _).run.run _ = y at ha ⊢
  cases ha with
  | stop stop => exact .inl ⟨stop, rfl, rfl⟩
  | @ok _ _ t _ fresh => exact .inr ⟨none, t, fresh, rfl, rfl⟩
  | @failed problem t fresh =>
      obtain ⟨desk, hr, hlike⟩ := unseen_failureOf library Traversal.ample
        (Host.ofDepth library Traversal.ample (mostLevels - 2)) fresh problem
      have hlast : (failureOf _ problem >>= fun failure => (pure (some failure) : Script _)).run t =
          .ok (some problem.failure, (t.1, desk)) := run_next hr
      refine .inr ⟨some problem.failure, (t.1, desk), hlike.fresh fresh, hlast, ?_⟩
      rw [hlike.names]
      rfl

-- What becomes of a program of the host is what becomes of its course in the sessions.
theorem Program.run_eq_ask (library : Native.Library) (program : Program) (hs : s.2.Fresh) :
    ((program.run library).run s).map revealed = (program.ask library).run (s.1, s.2.names) := by
  obtain ⟨stop, hr, ha⟩ | ⟨failure, t, -, hr, ha⟩ := program.ends library hs <;> rw [hr, ha] <;> rfl

theorem Program.ask_of_run (hs : s.2.Fresh) (h : (program.run library).run s = .ok (failure, t)) :
    (program.ask library).run (s.1, s.2.names) = .ok (failure, (t.1, t.2.names)) := by
  rw [← program.run_eq_ask library hs, h]
  rfl

theorem Program.exists_run (hs : s.2.Fresh) {after : Thread × Names}
    (h : (program.ask library).run (s.1, s.2.names) = .ok (failure, after)) :
    ∃ t, t.2.Fresh ∧ (program.run library).run s = .ok (failure, t) ∧
      after = (t.1, t.2.names) := by
  obtain ⟨stop, -, ha⟩ | ⟨failure', t, ht, hr, ha⟩ := program.ends library hs
  · exact nomatch ha.symm.trans h
  · cases ha.symm.trans h
    exact ⟨t, ht, hr, rfl⟩

theorem Program.settled_of_run (hs : Settled s)
    (h : (program.run library).run s = .ok (failure, t)) : Settled t := by
  have ha := Program.ask_of_run hs.2 h
  refine ⟨(program.safe_ask library (s.1, s.2.names) hs.1).1 _ _ ha, ?_⟩
  obtain ⟨stop, hr, -⟩ | ⟨failure', t', ht, hr, -⟩ := program.ends library hs.2
  · exact nomatch hr.symm.trans h
  · cases hr.symm.trans h
    exact ht

theorem Program.run_ne_conflict (library : Native.Library) (program : Program) (hs : Settled s)
    (conflict : Conflict) : (program.run library).run s ≠ .error (.conflict conflict) := by
  intro he
  apply (program.safe_ask library (s.1, s.2.names) hs.1).2 conflict
  rw [← program.run_eq_ask library hs.2, he]
  rfl

end Programs

section Faults

variable {library : Native.Library} {s : Thread × Desk} {fault : Fault}

-- What goes wrong with a request is raised, and changes nothing beside the thread.
theorem run_fulfil_fault {request : Request} {after : Thread}
    (h : (request.perform library).run s.1 = (.error (.fault fault), after)) :
    (fulfil library request).run.run s = .ok (.error (refused fault), (after, s.2)) := by
  have ha : (attempt (request.perform library)).run.run s =
      .ok (.error (refused fault), (after, s.2)) := by
    rw [attempt, runs_bind, runs_lift, run_perform, h]
    rfl
  exact runs_ended ha

-- What a host makes of it: one class for each kind of fault, and the words of the fault.
theorem run_failureOf_refused (library : Native.Library) (fuel : Nat) (fault : Fault)
    (hs : s.2.Fresh) : ∃ desk,
      (failureOf (Host.ofDepth library fuel mostLevels) (refused fault)).run s =
        .ok (.raised (Failure.className fault) (some fault.message), (s.1, desk)) := by
  obtain ⟨desk, hr, -⟩ := unseen_failureOf library fuel
    (Host.ofDepth library fuel (mostLevels - 2)) hs (refused fault)
  rw [failure_refused] at hr
  exact ⟨desk, hr⟩

end Faults

section Callbacks

variable {library : Native.Library} {fuel : Nat} {s : Thread × Desk}

-- What a host gets from a traversal, whatever was noted of its visits.
def outcomeTold {κ : Type} (told : (Except Problem VisitOutcome × List κ) × (Thread × Desk)) :
    Except Problem Value × (Thread × Desk) :=
  got (unnoted told)

theorem map_outcomeTold {κ : Type} (session : Nat) (root : CursorToken)
    {visit : (child parent : CursorToken) →
      Scripting.Script (Visits Desk κ) (Except Problem ChildVisit)}
    {plain : (child parent : CursorToken) → Script (Except Problem ChildVisit)}
    (hv : ∀ child parent thread v, Alike (fun (v : Visits Desk κ) desk => v.desk = desk) id
      ((visit child parent).run (thread, v)) ((plain child parent).run (thread, v.desk)))
    (s : Thread × Desk) :
    ((traverse library fuel session refused visit root).run s).map outcomeTold =
      ((walk library fuel session refused plain root).run s).map got := by
  rw [← traverse_unnoted library fuel session refused root hv s]
  cases (traverse library fuel session refused visit root).run s <;> rfl

-- A traversal that a program of the host asks for.
theorem run_visiting {name : String} {identity session : Nat} {token : CursorToken}
    (hl : s.2.labels.lookup name = some (.held identity session (.cursor token)))
    (callback : Value → Value → Part Value) :
    (visiting library fuel name callback).run.run s =
      ((walk library fuel session refused (visitOnce session callback) token).run s).map got := by
  have hfind : (find name).run.run s = .ok (.ok (.held identity session (.cursor token)), s) := by
    rw [find, runs_next (a := s.2.labels.lookup name) (t := s) rfl, hl]
    rfl
  have hroot : (rootOf (.label name)).run.run s = .ok (.ok ⟨session, token⟩, s) := by
    rw [rootOf, runs_next (a := s.2.listAt) (t := s) rfl, evaluate, runs_next hfind]
    rfl
  rw [visiting, runs_next hroot]
  exact run_gets library fuel session token _ s

-- A callback is called with the node and with its parent.
theorem visitWith_eq (host : Host) (session : Nat) (callback : Value) :
    visitWith host session callback = fun child parent =>
      aside (visitOnce session (fun child parent => host.call callback [child, parent]) child
        parent) := by
  funext child parent
  simp only [visitWith, visitOnce, aside_bind, aside_pure]

-- A traversal that a call of the interface asks for.
theorem run_invoke_visit {f : Function} {values : List Value} {named : List (String × Value)}
    {root : Held CursorToken} {callback : Value} (host : Host)
    (hc : Invocation.ofCall s.2.listAt f values named = .ok (.visit root callback)) :
    (invoke library fuel host f values named).run.run s =
      ((walk library fuel root.session refused (visitOnce root.session
        fun child parent => host.call callback [child, parent]) root.item).run s).map got := by
  rw [← run_gets, invoke, runs_next (a := s.2.listAt) (t := s) rfl, hc]
  simp only [orRaise, pure_bind, visitWith_eq]

-- What a host got from a traversal whose visits were noted as they came. Either no visit failed, or
-- the last one did, and the host got what that one failed with and everything as it left it.
def Propagates (got : Except Stop (Except Problem Value × (Thread × Desk)))
    (noted : Except Stop ((Except Problem VisitOutcome ×
      List (Except Problem ChildVisit × (Thread × Desk))) × (Thread × Desk))) : Prop :=
  got = noted.map outcomeTold ∧ ∀ result seen t, noted = .ok ((result, seen), t) →
    Unfailed seen ∨ ∃ earlier problem, seen = earlier ++ [(.error problem, t)] ∧
      Unfailed earlier ∧ result = .error problem

-- What a host got from a traversal, for each fuel. With any that suffices for it, the first visit
-- that fails is where the traversal ends: the host gets what this one failed with, and everything as
-- it left it.
def Surfaces (library : Native.Library) (session : Nat) (root : CursorToken)
    (visit : (child parent : CursorToken) → Script (Except Problem ChildVisit)) (s : Thread × Desk)
    (got : Nat → Except Stop (Except Problem Value × (Thread × Desk))) : Prop :=
  ∀ child parent pending outer t problem u,
    Traversal.Passes (host library session refused visit) root s
      (⟨parent, child :: pending⟩ :: outer) t →
    (visit child parent).run t = .ok (.error problem, u) →
      ∃ enough, ∀ fuel, enough ≤ fuel → got fuel = .ok (.error problem, u)

variable {session : Nat} {root : CursorToken}
  {visit : (child parent : CursorToken) → Script (Except Problem ChildVisit)}

theorem propagates_of_walk {value : Except Stop (Except Problem Value × (Thread × Desk))}
    (h : value = ((walk library fuel session refused visit root).run s).map got) :
    Propagates value ((traverse library fuel session refused (noting visit) root).run s) :=
  ⟨h.trans (map_outcomeTold session root alike_noting s).symm, fun _ _ _ => seen_of_traverse⟩

theorem surfaces_of_walk {value : Nat → Except Stop (Except Problem Value × (Thread × Desk))}
    (h : ∀ fuel, value fuel = ((walk library fuel session refused visit root).run s).map got) :
    Surfaces library session root visit s value := by
  intro child parent pending outer t problem u passes raises
  obtain ⟨enough, hrun⟩ := walk_of_raise passes raises
  refine ⟨enough, fun fuel hle => ?_⟩
  rw [h, hrun fuel hle]
  rfl

end Callbacks

section Acts

variable {library : Native.Library} {s : Thread × Desk} {name : String} {session : Nat}
  {item : Item}

-- What is told valid is answered about next, and what is not is refused.
theorem exists_validity (library : Native.Library) {act : Act} (hs : Settled s) {kept : String}
    (hkept : kept ≠ name) (hl : s.2.names.lookup name = some (.held session item))
    (asks : act.Asks name item) (answer : String) :
    ∃ valid t failure u,
      ((Program.act (.isValid name) kept .done).run library).run s = .ok (none, t) ∧
      t.2.names = (kept, .flag valid) :: s.2.names ∧
      ((Program.act act answer .done).run library).run t = .ok (failure, u) ∧
      (valid = true ↔ ∀ text, failure ≠ some (.raised "InvalidHandleError" text)) := by
  obtain ⟨valid, hanswers⟩ := asks.answers library hs.1 session
  have htold : ((Program.act (.isValid name) kept .done).ask library).run (s.1, s.2.names) =
      .ok (none, (s.1, (kept, .flag valid) :: s.2.names)) := by
    rw [Program.ask_act, (hanswers s.2.names hl).1]
  obtain ⟨t, ht, hr, he⟩ := Program.exists_run hs.2 htold
  obtain ⟨hthread, hnames⟩ := Prod.mk.inj he
  have hl' : t.2.names.lookup name = some (.held session item) := by
    rw [← hnames, List.lookup_cons, beq_eq_false_iff_ne.mpr hkept.symm]
    exact hl
  have hasked := (hanswers t.2.names hl').2
  rw [hthread] at hasked
  have hask := Program.ask_act library act answer (t.1, t.2.names)
  cases valid with
  | true =>
      obtain ⟨sight, after, ha⟩ := hasked
      rw [ha] at hask
      obtain ⟨u, -, hu, -⟩ := Program.exists_run ht hask
      exact ⟨true, t, none, u, hr, hnames.symm, hu, iff_of_true rfl fun _ => nofun⟩
  | false =>
      obtain ⟨id, reason, ha⟩ := hasked
      rw [ha] at hask
      obtain ⟨u, -, hu, -⟩ := Program.exists_run ht hask
      exact ⟨false, t, _, u, hr, hnames.symm, hu, iff_of_false nofun fun h => h _ rfl⟩

-- However a block is left, it is left as its body was, and its resource is dead.
theorem Program.block_ends (library : Native.Library) {object : String} {id : ResourceId}
    (hs : Settled s) (hl : s.2.names.lookup object = some (.held session item))
    (hh : handle? item = some id) (body : Program) :
    (∃ stop, (body.run library).run s = .error stop ∧
      ((Program.block object body .done).run library).run s = .error stop) ∨
    ∃ failure t u, (body.run library).run s = .ok (failure, t) ∧
      ((Program.block object body .done).run library).run s = .ok (failure, u) ∧
      (Session.isAlive session id).run u.1 = (.ok false, u.1) := by
  have hstop {program : Program} {stop : Stop}
      (ha : (program.ask library).run (s.1, s.2.names) = .error stop) :
      (program.run library).run s = .error stop := by
    obtain ⟨stop', hr, ha'⟩ | ⟨failure, t, -, -, ha'⟩ := program.ends library hs.2
    · cases ha.symm.trans ha'
      exact hr
    · exact nomatch ha.symm.trans ha'
  obtain ⟨stop, hb, ha⟩ | ⟨failure, t, u, hb, ha, hdead⟩ :=
    body.ask_block library (t := (s.1, s.2.names)) hs.1 hl hh
  · exact .inl ⟨stop, hstop hb, hstop ha⟩
  · obtain ⟨t', -, hr, rfl⟩ := Program.exists_run hs.2 hb
    obtain ⟨u', -, hr', rfl⟩ := Program.exists_run hs.2 ha
    exact .inr ⟨failure, t', u', hr, hr', hdead⟩

end Acts

-- From the interface as it was made, a program of the host ends as its course in the sessions
-- does: with the same failure, the same values under its names, and the same thread, with its
-- sessions and with the log of native calls. Each fault is raised as an exception of its class with
-- its words. What a callback raises goes through the traversal as it is, and no callback is called
-- after it. A token is told valid if and only if the next question about it is not refused as one
-- about a dead handle. However a block is left, it is left as its body was, with its resource dead.
theorem programs_refine_sessions (library : Native.Library) :
    (∀ interface (thread : Thread), thread.Free → ∃ desk,
      settle.run (thread, .clear interface) = .ok ((), (thread, desk)) ∧
        Settled (thread, desk) ∧ desk.names = []) ∧
    (∀ s, Settled s → ∀ program : Program,
      ((program.run library).run s).map revealed = (program.ask library).run (s.1, s.2.names) ∧
        (∀ failure t, (program.run library).run s = .ok (failure, t) → Settled t) ∧
        ∀ conflict, (program.run library).run s ≠ .error (.conflict conflict)) ∧
    (∀ s, Settled s → ∀ (request : Request) fault after,
      (request.perform library).run s.1 = (.error (.fault fault), after) →
        (fulfil library request).run.run s = .ok (.error (refused fault), (after, s.2)) ∧
        ∃ desk, (failureOf (Host.ofDepth library Traversal.ample mostLevels) (refused fault)).run
          (after, s.2) = .ok (.raised (Failure.className fault) (some fault.message),
            (after, desk))) ∧
    (∀ s : Thread × Desk,
      (∀ root identity session token callback,
        s.2.labels.lookup root = some (.held identity session (.cursor token)) →
          Surfaces library session token (visitOnce session callback) s
            (fun fuel => (visiting library fuel root callback).run.run s) ∧
          ∀ fuel, Propagates ((visiting library fuel root callback).run.run s)
            ((traverse library fuel session refused
              (noting (visitOnce session callback)) token).run s)) ∧
      ∀ host f values named (root : Held CursorToken) callback,
        Invocation.ofCall s.2.listAt f values named = .ok (.visit root callback) →
          Surfaces library root.session root.item
            (visitOnce root.session fun child parent => host.call callback [child, parent]) s
            (fun fuel => (invoke library fuel host f values named).run.run s) ∧
          ∀ fuel, Propagates ((invoke library fuel host f values named).run.run s)
            ((traverse library fuel root.session refused (noting (visitOnce root.session
              fun child parent => host.call callback [child, parent])) root.item).run s)) ∧
    (∀ s, Settled s → ∀ name session item act kept answer,
      s.2.names.lookup name = some (.held session item) → Act.Asks name item act → kept ≠ name →
        ∃ valid t failure u,
          ((Program.act (.isValid name) kept .done).run library).run s = .ok (none, t) ∧
          t.2.names = (kept, .flag valid) :: s.2.names ∧
          ((Program.act act answer .done).run library).run t = .ok (failure, u) ∧
          (valid = true ↔ ∀ text, failure ≠ some (.raised "InvalidHandleError" text))) ∧
    ∀ s, Settled s → ∀ object session item id (body : Program),
      s.2.names.lookup object = some (.held session item) → handle? item = some id →
        (∃ stop, (body.run library).run s = .error stop ∧
          ((Program.block object body .done).run library).run s = .error stop) ∨
        ∃ failure t u, (body.run library).run s = .ok (failure, t) ∧
          ((Program.block object body .done).run library).run s = .ok (failure, u) ∧
          (Session.isAlive session id).run u.1 = (.ok false, u.1) := by
  refine ⟨fun interface thread hs => ?_, fun s hs program => ⟨?_, ?_, ?_⟩,
    fun s hs request fault after h => ⟨?_, ?_⟩, fun s => ⟨?_, ?_⟩, ?_, ?_⟩
  · obtain ⟨desk, hr, hfresh, hnames⟩ := settle_run thread interface
    exact ⟨desk, hr, ⟨hs, hfresh⟩, hnames⟩
  · exact program.run_eq_ask library hs.2
  · exact fun _ _ => Program.settled_of_run hs
  · exact program.run_ne_conflict library hs
  · exact run_fulfil_fault h
  · exact run_failureOf_refused library _ fault (s := (after, s.2)) hs.2
  · exact fun _ _ _ _ callback hl => ⟨surfaces_of_walk fun _ => run_visiting hl callback,
      fun _ => propagates_of_walk (run_visiting hl callback)⟩
  · exact fun host _ _ _ _ _ hc => ⟨surfaces_of_walk fun _ => run_invoke_visit host hc,
      fun _ => propagates_of_walk (run_invoke_visit host hc)⟩
  · exact fun s hs _ _ _ _ _ answer hl asks hkept =>
      exists_validity library hs hkept hl asks answer
  · exact fun s hs _ _ _ _ body hl hh => Program.block_ends library hs hl hh body

-- Parses a file and gets the root of its unit.
def openingProgram : Program :=
  .act (.createIndex none none) "i" (.act (.parse "i" "a.c" none none) "u"
    (.act (.root "u") "c" .done))

def sampleRoot : CursorToken :=
  .wrap (Session.sampleFamily.cursor (some 0)) Session.sampleUnit

-- The first node below it.
def sampleFirst : CursorToken :=
  .wrap (Session.sampleFamily.cursor (some 1)) Session.sampleUnit

def raisingCallback (_ _ : Value) : Part Value :=
  raise (.type none)

-- Visits the children of the root with a function that raises at once.
def raisingProgram : Program :=
  .visit "c" "x" "p" (.raise "x") "a" "v" .done

theorem exists_label {desk : Desk} {name : String} {session : Nat} {item : Item}
    (hl : desk.names.lookup name = some (.held session item)) :
    ∃ identity, desk.labels.lookup name = some (.held identity session item) := by
  rw [Desk.names, lookup_names, Option.map_eq_some_iff] at hl
  obtain ⟨value, hv, hsight⟩ := hl
  cases value <;> cases hsight
  exact ⟨_, hv⟩

theorem programs_refine_sessions_of_opening :
    ∃ desk t, settle.run ({}, .clear "clang_bridge") = .ok ((), ({}, desk)) ∧
      (openingProgram.run Session.sampleFamily.library).run ({}, desk) = .ok (none, t) ∧
      (fulfil Session.sampleFamily.library (.root ⟨1, ⟨Session.sampleUnit⟩⟩)).run.run ({}, desk) =
        .ok (.error (refused (.invalidHandle Session.sampleUnit Refusal.disposed)), ({}, desk)) ∧
      (∃ enough u, ∀ fuel, enough ≤ fuel →
        (visiting Session.sampleFamily.library fuel "c" raisingCallback).run.run t =
          .ok (.error (.raised (.type none)), u)) ∧
      Propagates ((visiting Session.sampleFamily.library 9 "c" raisingCallback).run.run t)
        ((traverse Session.sampleFamily.library 9 1 refused
          (noting (visitOnce 1 raisingCallback)) sampleRoot).run t) ∧
      (∃ u, (raisingProgram.run Session.sampleFamily.library).run t =
        .ok (some (.raised "KeyError" (some (Text.literal "x"))), u)) ∧
      Propagates ((invoke Session.sampleFamily.library 9 .exhausted .visitChildren
          [.held 0 1 (.cursor sampleRoot), .function .cursorKind] []).run.run t)
        ((traverse Session.sampleFamily.library 9 1 refused (noting (visitOnce 1
          fun child parent => Host.exhausted.call (.function .cursorKind) [child, parent]))
            sampleRoot).run t) ∧
      (∃ valid u, u.2.names = ("v", .flag valid) :: t.2.names ∧
        ((Program.act (.isValid "c") "v" .done).run Session.sampleFamily.library).run t =
          .ok (none, u)) ∧
      ∃ u, ((Program.block "u" (.raise "x") .done).run Session.sampleFamily.library).run t =
        .ok (some (.raised "KeyError" (some (Text.literal "x"))), u) ∧
          (Session.isAlive 1 Session.sampleUnit).run u.1 = (.ok false, u.1) := by
  obtain ⟨starts, refines, faults, traversals, validity, blocks⟩ :=
    programs_refine_sessions Session.sampleFamily.library
  obtain ⟨desk, hsettle, hs, hnames⟩ := starts "clang_bridge" {} fun _ => rfl
  obtain ⟨opened, listed, after, raised, hask, hkept, hlisted, hraised⟩ :
      ∃ opened listed after raised,
        (openingProgram.ask Session.sampleFamily.library).run ({}, desk.names) =
          .ok (none, opened) ∧
        opened.2 = [("c", .held 1 (.cursor sampleRoot)),
          ("u", .held 1 (.unit ⟨Session.sampleUnit⟩)),
          ("i", .held 1 (.index ⟨⟨1, 1, .index⟩⟩))] ∧
        (Session.children Session.sampleFamily.library 1 sampleRoot).run opened.1 =
          (.ok (sampleFirst :: listed), after) ∧
        (raisingProgram.ask Session.sampleFamily.library).run opened =
          .ok (some (.raised "KeyError" (some (Text.literal "x"))), raised) := by
    rw [hnames]
    exact ⟨_, _, _, _, rfl, rfl, rfl, rfl⟩
  obtain ⟨t, -, hrun, rfl⟩ := Program.exists_run hs.2 hask
  have ht := (refines ({}, desk) hs openingProgram).2.1 none t hrun
  have hroot : t.2.names.lookup "c" = some (.held 1 (.cursor sampleRoot)) := by
    rw [show t.2.names = _ from hkept]
    rfl
  have hunit : t.2.names.lookup "u" = some (.held 1 (.unit ⟨Session.sampleUnit⟩)) := by
    rw [show t.2.names = _ from hkept]
    rfl
  obtain ⟨identity, hlabel⟩ := exists_label hroot
  have passes : Traversal.Passes (host Session.sampleFamily.library 1 refused
      (visitOnce 1 raisingCallback)) sampleRoot t [⟨sampleRoot, sampleFirst :: listed⟩]
        (after, t.2) := .start (Session.host_children hlisted)
  obtain ⟨surfaces, propagates⟩ :=
    (traversals t).1 "c" identity 1 sampleRoot raisingCallback hlabel
  obtain ⟨enough, hends⟩ := surfaces _ _ _ _ _ _ _ passes rfl
  refine ⟨desk, t, hsettle, hrun, ?_, ⟨enough, _, hends⟩, propagates 9, ?_, ?_, ?_, ?_⟩
  · exact (faults ({}, desk) hs (.root ⟨1, ⟨Session.sampleUnit⟩⟩) _ {} rfl).1
  · obtain ⟨u, -, hu, -⟩ := Program.exists_run ht.2 hraised
    exact ⟨u, hu⟩
  · exact ((traversals t).2 .exhausted .visitChildren _ [] ⟨1, sampleRoot⟩
      (.function .cursorKind) rfl).2 9
  · obtain ⟨valid, u, _, _, hr, hu, -, -⟩ := validity t ht "c" 1 (.cursor sampleRoot)
      (.askCursor .kind "c") "v" "k" hroot (.cursor .kind sampleRoot) (by decide)
    exact ⟨valid, u, hu, hr⟩
  · have hbody : ((Program.raise "x").ask Session.sampleFamily.library).run (t.1, t.2.names) =
        .ok (some (.raised "KeyError" (some (Text.literal "x"))), (t.1, t.2.names)) := rfl
    obtain ⟨v, -, hv, -⟩ := Program.exists_run ht.2 hbody
    obtain ⟨stop, hb, -⟩ | ⟨failure, v', u, hb, hblock, hdead⟩ := blocks t ht "u" 1
      (.unit ⟨Session.sampleUnit⟩) Session.sampleUnit (.raise "x") hunit rfl
    · exact nomatch hv.symm.trans hb
    · cases hv.symm.trans hb
      exact ⟨u, hblock, hdead⟩

end SyntaxHandles.Dynamic
