import SyntaxHandles.Proofs.Traversal.Passing

-- How traversals end, and the state in which they leave their walker. One that is cut off, because
-- the children of a visited node cannot be listed, leaves the walker visiting.

namespace SyntaxHandles.Traversal

variable {ν δ ε σ : Type}

inductive Ending
  -- The children of the root could not be listed, and nothing was visited.
  | unbegun
  | completed
  -- The visitor stopped the traversal, or failed.
  | stopped
  -- The children of a visited node could not be listed, with so many levels open.
  | cutOff (depth : Nat)

-- How a traversal ends is told by the answers of the host alone, whatever walker it uses.
inductive EndsBy (host : Host ν δ ε σ) (root : ν) (s : σ) :
    Ending → Except ε VisitOutcome → σ → Prop
  | unbegun {error t} (children : host.children root s = (.error error, t)) :
      EndsBy host root s .unbegun (.error (host.convert error)) t
  | completed {t} (passes : Passes host root s [] t) :
      EndsBy host root s .completed (.ok .completed) t
  | halted {parent child pending outer t u}
      (passes : Passes host root s (⟨parent, child :: pending⟩ :: outer) t)
      (visit : host.visit child parent t = (.ok .halt, u)) :
      EndsBy host root s .stopped (.ok .aborted) u
  | failed {parent child pending outer t error u}
      (passes : Passes host root s (⟨parent, child :: pending⟩ :: outer) t)
      (visit : host.visit child parent t = (.error error, u)) :
      EndsBy host root s .stopped (.error error) u
  | cutOff {parent child pending outer t u error v}
      (passes : Passes host root s (⟨parent, child :: pending⟩ :: outer) t)
      (visit : host.visit child parent t = (.ok .recurse, u))
      (children : host.children child u = (.error error, v)) :
      EndsBy host root s (.cutOff (outer.length + 1)) (.error (host.convert error)) v

def State.after : State → Ending → State
  | before, .unbegun => before
  | _, .completed => .idle
  | _, .stopped => .aborted
  | _, .cutOff depth => .visiting depth

section Run

variable {host : Host ν δ ε σ} {root : ν} {walker : Walker} {s t : σ} {ended : Ended ε σ}
  {stack : List (Frame ν)} {ending : Ending} {result : Except ε VisitOutcome}

-- The loop sets the state of the walker anew, so what it was before does not matter.
theorem Walks.endsBy (h : Walks host stack walker t ended) (passes : Passes host root s stack t) :
    ∃ ending, EndsBy host root s ending ended.result ended.host ∧
      ∀ before : State, ended.walker.state = before.after ending := by
  induction h with
  | completed => exact ⟨_, .completed passes, fun _ => rfl⟩
  | left _ ih => exact ih passes.left
  | failed visit => exact ⟨_, .failed passes visit, fun _ => rfl⟩
  | halted visit => exact ⟨_, .halted passes visit, fun _ => rfl⟩
  | next visit _ ih => exact ih (passes.next visit)
  | unlisted visit children => exact ⟨_, .cutOff passes visit children, fun _ => rfl⟩
  | recursed visit children _ ih => exact ih (passes.recursed visit children)

theorem exists_endsBy {fuel : Nat} (h : run host fuel root walker s = some ended) :
    ∃ ending, EndsBy host root s ending ended.result ended.host ∧
      ended.walker.state = walker.state.after ending := by
  rcases hc : host.children root s with ⟨error | listed, t⟩ <;> simp only [run, hc] at h
  · cases h
    exact ⟨_, .unbegun hc, rfl⟩
  · obtain ⟨ending, he, hs⟩ := (walks_of_walk fuel _ walker t h).endsBy (.start hc)
    exact ⟨ending, he, hs walker.state⟩

-- What the loop comes to from open levels on, it comes to from the start on.
theorem Passes.exists_run_of_walks (h : Passes host root s stack t) (walker : Walker) :
    ∃ visits, ∀ state ended, Walks host stack ⟨state, walker.visited + visits⟩ t ended →
      ∃ fuel, run host fuel root walker s = some ended := by
  induction h with
  | start children =>
      refine ⟨0, fun state ended hw => ?_⟩
      have hown : Walks host _ walker _ ended := hw.of_visited rfl
      obtain ⟨fuel, hf⟩ := exists_walk_of_walks hown
      exact ⟨fuel, by simpa only [run, children] using hf⟩
  | left _ ih =>
      obtain ⟨visits, hrun⟩ := ih
      exact ⟨visits, fun state ended hw => hrun state ended (.left hw)⟩
  | next _ visit ih =>
      obtain ⟨visits, hrun⟩ := ih
      exact ⟨visits + 1, fun state ended hw => hrun state ended (.next visit (hw.of_visited rfl))⟩
  | recursed _ visit children ih =>
      obtain ⟨visits, hrun⟩ := ih
      exact ⟨visits + 1, fun state ended hw =>
        hrun state ended (.recursed visit children (hw.of_visited rfl))⟩

-- A traversal that ends in some way returns, and leaves the state that belongs to this way.
theorem EndsBy.exists_run (h : EndsBy host root s ending result t) (walker : Walker) :
    ∃ fuel visited,
      run host fuel root walker s = some ⟨result, ⟨walker.state.after ending, visited⟩, t⟩ := by
  cases h with
  | unbegun children => exact ⟨0, walker.visited, by simp only [run, children, State.after]⟩
  | completed passes =>
      obtain ⟨visits, hrun⟩ := passes.exists_run_of_walks walker
      obtain ⟨fuel, hf⟩ := hrun .idle _ .completed
      exact ⟨fuel, _, hf⟩
  | halted passes visit =>
      obtain ⟨visits, hrun⟩ := passes.exists_run_of_walks walker
      obtain ⟨fuel, hf⟩ := hrun .idle _ (.halted visit)
      exact ⟨fuel, _, hf⟩
  | failed passes visit =>
      obtain ⟨visits, hrun⟩ := passes.exists_run_of_walks walker
      obtain ⟨fuel, hf⟩ := hrun .idle _ (.failed visit)
      exact ⟨fuel, _, hf⟩
  | cutOff passes visit children =>
      obtain ⟨visits, hrun⟩ := passes.exists_run_of_walks walker
      obtain ⟨fuel, hf⟩ := hrun .idle _ (.unlisted visit children)
      exact ⟨fuel, _, hf⟩

theorem run_unique {fuel fuel' : Nat} {other : Ended ε σ}
    (h : run host fuel root walker s = some ended)
    (h' : run host fuel' root walker s = some other) : ended = other := by
  have hm := run_mono h (Nat.le_max_left fuel fuel')
  rw [run_mono h' (Nat.le_max_right fuel fuel')] at hm
  exact (Option.some.inj hm).symm

theorem EndsBy.ended_eq {fuel : Nat} (h : EndsBy host root s ending result t)
    (hr : run host fuel root walker s = some ended) :
    ended.result = result ∧ ended.host = t ∧
      ended.walker.state = walker.state.after ending := by
  obtain ⟨fuel', visited, hf⟩ := h.exists_run walker
  rw [run_unique hr hf]
  exact ⟨rfl, rfl, rfl⟩

theorem EndsBy.eq_completed (h : EndsBy host root s ending result t)
    (hr : result = .ok .completed) : ending = .completed := by
  cases h with
  | completed => rfl
  | unbegun | halted | failed | cutOff => exact nomatch hr

end Run

-- Traversals one after the other, on a walker that is new at first, and how they ended, the last
-- one first. Each may have a visitor, a root and a source of its own.
inductive Series : List Ending → Walker → Prop
  | new : Series [] {}
  | run {ν δ ε σ : Type} {host : Host ν δ ε σ} {fuel : Nat} {root : ν} {s : σ}
      {ended : Ended ε σ} {walker : Walker} {endings : List Ending} {ending : Ending}
      (before : Series endings walker) (returned : run host fuel root walker s = some ended)
      (ends : EndsBy host root s ending ended.result ended.host) :
      Series (ending :: endings) ended.walker

-- The last traversal that got beyond its root was cut off.
def LeftOff : List Ending → Prop
  | [] => False
  | .unbegun :: endings => LeftOff endings
  | ending :: _ => ∃ depth, ending = .cutOff depth

theorem Series.isVisiting_iff {endings : List Ending} {walker : Walker}
    (h : Series endings walker) :
    ((∃ depth, walker.state = .visiting depth) ↔ LeftOff endings) ∧
      (¬LeftOff endings → walker.state = .idle ∨ walker.state = .aborted) := by
  induction h with
  | new => exact ⟨iff_of_false (fun ⟨_, h⟩ => nomatch h) id, fun _ => .inl rfl⟩
  | @run _ _ _ _ _ _ _ _ ended walker endings ending before returned ends ih =>
      rw [(ends.ended_eq returned).2.2]
      cases ending with
      | unbegun => exact ih
      | completed =>
          refine ⟨iff_of_false ?_ ?_, fun _ => .inl rfl⟩ <;> exact fun ⟨_, h⟩ => nomatch h
      | stopped =>
          refine ⟨iff_of_false ?_ ?_, fun _ => .inr rfl⟩ <;> exact fun ⟨_, h⟩ => nomatch h
      | cutOff depth =>
          exact ⟨iff_of_true ⟨depth, rfl⟩ ⟨depth, rfl⟩, fun h => absurd ⟨depth, rfl⟩ h⟩

-- A completed traversal leaves the walker idle, one that the visitor ends leaves it aborted, and
-- one whose root cannot be listed leaves it as it was. One that is cut off leaves it visiting, and
-- so do those after it that do not get beyond their root. In no other way is a walker visiting
-- between two traversals.
theorem state_left_by_endings {endings : List Ending} {walker : Walker}
    (used : Series endings walker) {host : Host ν δ ε σ} {fuel : Nat} {root : ν} {s : σ}
    {ended : Ended ε σ} (returned : run host fuel root walker s = some ended) :
    (∃ ending, EndsBy host root s ending ended.result ended.host ∧
      Series (ending :: endings) ended.walker) ∧
    (∀ ending result t, EndsBy host root s ending result t → ended.result = result ∧
      ended.host = t ∧ ended.walker.state = walker.state.after ending) ∧
    (ended.result = .ok .completed → ended.walker.state = .idle) ∧
    ((∃ depth, walker.state = .visiting depth) ↔ LeftOff endings) ∧
    (¬LeftOff endings → walker.state = .idle ∨ walker.state = .aborted) := by
  obtain ⟨ending, ends, hs⟩ := exists_endsBy returned
  refine ⟨⟨ending, ends, used.run returned ends⟩, fun _ _ _ h => h.ended_eq returned, fun hr => ?_,
    used.isVisiting_iff⟩
  rw [hs, ends.eq_completed hr]
  rfl

-- One child, whose own children cannot be listed.
def frail : Host Nat String String Unit where
  children node s := (if node = 0 then .ok [1] else .error "gone", s)
  visit _ _ s := (.ok .recurse, s)
  convert := id

-- Cut off at the child, and then refused at its root.
theorem state_left_by_endings_of_frail :
    Series [.cutOff 1] ⟨.visiting 1, 1⟩ ∧
      run frail 0 1 ⟨.visiting 1, 1⟩ () = some ⟨.error "gone", ⟨.visiting 1, 1⟩, ()⟩ ∧
      ((∃ depth, State.visiting 1 = .visiting depth) ↔ LeftOff [.cutOff 1]) := by
  have ends : EndsBy frail 0 () (.cutOff 1) (.error "gone") () := .cutOff (.start rfl) rfl rfl
  have first : run frail 1 0 {} () = some ⟨.error "gone", ⟨.visiting 1, 1⟩, ()⟩ := rfl
  have used : Series [.cutOff 1] ⟨.visiting 1, 1⟩ := Series.new.run first ends
  have returned : run frail 0 1 ⟨.visiting 1, 1⟩ () = some ⟨.error "gone", ⟨.visiting 1, 1⟩, ()⟩ :=
    rfl
  exact ⟨used, returned, (state_left_by_endings used returned).2.2.2.1⟩

-- The traversal is over, and it ended early after a visit, but its walker is neither idle nor
-- aborted.
theorem cut_off_leaves_visiting : ∃ ended, run frail 1 0 {} () = some ended ∧
    ended.walker.visited = 1 ∧ ended.result = .error "gone" ∧ ended.walker.state ≠ .aborted ∧
      ended.walker.state ≠ .idle :=
  ⟨_, rfl, rfl, rfl, nofun, nofun⟩

end SyntaxHandles.Traversal
