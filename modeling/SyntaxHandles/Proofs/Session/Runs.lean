import SyntaxHandles.Proofs.Session.Sound
import SyntaxHandles.Proofs.Traversal.Passing
import SyntaxHandles.Proofs.Traversal.Trace

-- Runs of operations, in any order. A traversal is one step of a run, and what its visitor does at
-- each visit is a run of its own.

namespace SyntaxHandles

-- The library may answer otherwise from one operation to the next.
inductive Thread.Runs (act : Thread → Thread → Prop) (on : Thread → Nat → Prop) :
    Thread → Thread → Prop
  | nothing {s : Thread} : Runs act on s s
  | act {s t u : Thread} (earlier : Runs act on s t) (last : act t u) : Runs act on s u
  | visit {s t u : Thread} (earlier : Runs act on s t) {τ ε : Type} {library : Native.Library}
      {key : Nat} {convert : Interrupt → ε}
      {visit : (child parent : CursorToken) → Thread × τ → Except ε ChildVisit × (Thread × τ)}
      {fuel : Nat} {root : CursorToken} {result : Except ε VisitOutcome} {own own' : τ}
      (session : on t key)
      (visitor : ∀ child parent thread own,
        Runs act on thread (visit child parent (thread, own)).2.1)
      (traversal : Session.visitChildren library key convert visit fuel root (t, own) =
        some (result, (u, own'))) : Runs act on s u

namespace Thread

variable {act : Thread → Thread → Prop} {on : Thread → Nat → Prop}
  {Ready : Thread → Prop} {R : Thread → Thread → Prop} {s t u : Thread}

theorem Runs.trans (h : Runs act on s t) (h' : Runs act on t u) : Runs act on s u := by
  induction h' with
  | nothing => exact h
  | act _ last ih => exact .act (ih h) last
  | visit _ session visitor traversal ih => exact .visit (ih h) session visitor traversal

-- What operations, and the listings of a traversal, keep is kept by a run.
theorem Runs.keeps (refl : ∀ {s}, Ready s → R s s) (trans : ∀ {s t u}, R s t → R t u → R s u)
    (ready : ∀ {s t}, R s t → Ready t) (stable : ∀ {s t key}, R s t → on s key → on t key)
    (step : ∀ {s t}, Ready s → act s t → R s t)
    (listing : ∀ {s key library} node, Ready s → on s key →
      R s ((Session.children library key node).run s).2)
    (h : Runs act on s t) (hs : Ready s) : R s t := by
  induction h with
  | nothing => exact refl hs
  | act _ last ih => exact trans (ih hs) (step (ready (ih hs)) last)
  | @visit s t u earlier τ ε library key convert visit fuel root result own own' session visitor
      traversal ih ihv =>
      have hkeeps : Traversal.Host.Keeps (fun p q => Ready p.1 → on p.1 key → R p.1 q.1)
          (Session.host library key convert visit) := {
        refl := fun _ hp _ => refl hp
        trans := fun hst htu hp hk =>
          trans (hst hp hk) (htu (ready (hst hp hk)) (stable (hst hp hk) hk))
        children := fun node _ hp hk => listing node hp hk
        visit := fun child parent (thread, own) hp _ => ihv child parent thread own hp }
      simp only [Session.visitChildren, Option.map_eq_some_iff] at traversal
      obtain ⟨ended, hrun, he⟩ := traversal
      have hr := Traversal.run_keeps hkeeps hrun (ready (ih hs)) session
      rw [(Prod.mk.inj he).2] at hr
      exact trans (ih hs) hr

end Thread

namespace Session

variable {key : Nat} {s t : Thread}

-- One operation on a session, whatever it answers.
inductive Step (key : Nat) (s : Thread) : Thread → Prop
  | createIndex (library : Native.Library) (options : IndexOptions) :
      Step key s ((createIndex library key options).run s).2
  | parse (library : Native.Library) (handle : IndexHandle) (filename : String)
      (options : ParseOptions) : Step key s ((parse library key handle filename options).run s).2
  | root (handle : UnitHandle) : Step key s ((root key handle).run s).2
  | filename (handle : UnitHandle) : Step key s ((Session.filename key handle).run s).2
  | dispose (id : ResourceId) : Step key s ((dispose key id).run s).2
  | isAlive (id : ResourceId) : Step key s ((Session.isAlive key id).run s).2
  | isValid {ν : Type} (token : Token ν) : Step key s ((isValid key token).run s).2
  | askCursor (library : Native.Library) (query : CursorQuery) (token : CursorToken) :
      Step key s ((askCursor library key query token).run s).2
  | askType (library : Native.Library) (query : TypeQuery) (token : TypeToken) :
      Step key s ((askType library key query token).run s).2

theorem Step.changes (hf : (s.sessions key).borrow = .free) (h : Step key s t) :
    Changes key s t := by
  cases h with
  | createIndex => exact createIndex_changes hf _
  | parse => exact parse_changes hf _ _ _
  | root => exact (root_asksFor _).changes
  | filename => exact filename_changes _
  | dispose => exact dispose_changes _
  | isAlive => exact isAlive_changes _
  | isValid => exact isValid_changes _
  | askCursor => exact (askCursor_inquiry _ _).asksFor.changes
  | askType => exact (askType_inquiry _ _).asksFor.changes

theorem Step.acts (hf : (s.sessions key).borrow = .free) (h : Step key s t) : Acts key s t :=
  (h.changes hf).acts hf

-- Runs that keep to one session.
abbrev Run (key : Nat) : Thread → Thread → Prop :=
  Thread.Runs (Step key) fun _ k => k = key

theorem children_acts (hf : (s.sessions key).borrow = .free) {library : Native.Library}
    (node : CursorToken) : Acts key s ((children library key node).run s).2 :=
  (children_inquiry node).asksFor.changes.acts hf

theorem Run.acts (hf : (s.sessions key).borrow = .free) (h : Run key s t) : Acts key s t := by
  refine h.keeps .refl .trans Acts.free (fun _ hk => hk) (fun hf h => h.acts hf) ?_ hf
  rintro s _ library node hf rfl
  exact children_acts hf node

section Stages

-- One operation on a session, or one listing of a traversal.
inductive Stage (key : Nat) (s : Thread) : Thread → Prop
  | step {t : Thread} (step : Step key s t) : Stage key s t
  | list (library : Native.Library) (node : CursorToken) :
      Stage key s ((children library key node).run s).2

-- From one moment in the life of a session to a later one, the visits of its traversals included.
abbrev Stages (key : Nat) : Thread → Thread → Prop :=
  Relation.ReflTransGen (Stage key)

theorem Stage.acts (hf : (s.sessions key).borrow = .free) (h : Stage key s t) : Acts key s t := by
  cases h with
  | step step => exact step.acts hf
  | list library node => exact children_acts hf node

theorem Stages.acts (hf : (s.sessions key).borrow = .free) (h : Stages key s t) :
    Acts key s t := by
  induction h with
  | refl => exact .refl hf
  | tail _ last ih => exact ih.trans (last.acts ih.free)

theorem Run.stages (h : Run key s t) : Stages key s t := by
  refine h.keeps (fun (_ : True) => .refl) .trans (fun _ => trivial) (fun _ hk => hk)
    (fun _ step => .single (.step step)) ?_ trivial
  rintro s _ library node - rfl
  exact .single (.list library node)

-- So does each visit of a traversal begin at such a moment.
theorem stages_of_passes {τ ε : Type} {library : Native.Library} {convert : Interrupt → ε}
    {visit : (child parent : CursorToken) → Thread × τ → Except ε ChildVisit × (Thread × τ)}
    (visitor : ∀ child parent thread own, Run key thread (visit child parent (thread, own)).2.1)
    {root : CursorToken} {own : τ} {stack : List (Traversal.Frame CursorToken)} {p : Thread × τ}
    (passes : Traversal.Passes (host library key convert visit) root (s, own) stack p) :
    Stages key s p.1 := by
  exact passes.keeps (R := fun p q => Stages key p.1 q.1) {
    refl := fun _ => .refl
    trans := .trans
    children := fun node _ => .single (.list library node)
    visit := fun child parent (thread, own) => (visitor child parent thread own).stages }

end Stages

end Session

end SyntaxHandles
