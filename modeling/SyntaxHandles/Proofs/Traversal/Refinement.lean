import SyntaxHandles.Proofs.Traversal.Trace

-- The loop over open levels does what the recursion on levels does. What is left of a traversal is
-- told by its open levels: the recursion on each of them in turn, the innermost one first.

namespace SyntaxHandles.Traversal

variable {ν δ ε σ : Type} {host : Host ν δ ε σ}

-- What the recursion makes of open levels: their result, the number of their visits, and the state
-- that they leave.
inductive Unwinds (host : Host ν δ ε σ) :
    List (Frame ν) → σ → Except ε VisitOutcome → Nat → σ → Prop
  | completed {s} : Unwinds host [] s (.ok .completed) 0 s
  | stopped {parent pending outer s result visits t}
      (level : Descends host parent pending s (.stopped result visits t)) :
      Unwinds host (⟨parent, pending⟩ :: outer) s result visits t
  | finished {parent pending outer s visits t result later u}
      (level : Descends host parent pending s (.finished visits t))
      (rest : Unwinds host outer t result later u) :
      Unwinds host (⟨parent, pending⟩ :: outer) s result (visits + later) u

section Loop

-- Each visit, and the end of the loop, sets the state of the walker anew.
theorem Walks.of_visited {stack : List (Frame ν)} {walker other : Walker} {s : σ}
    {ended : Ended ε σ} (h : Walks host stack walker s ended)
    (hv : other.visited = walker.visited) : Walks host stack other s ended := by
  induction h with
  | completed => exact hv ▸ .completed
  | left _ ih => exact .left (ih hv)
  | failed visit => exact hv ▸ .failed visit
  | halted visit => exact hv ▸ .halted visit
  | next visit rest => exact .next visit (hv ▸ rest)
  | unlisted visit children => exact hv ▸ .unlisted visit children
  | recursed visit children rest => exact .recursed visit children (hv ▸ rest)

-- What one level comes to, as the loop sees it: either it goes on with the outer levels or it ends.
def LeadsTo (host : Host ν δ ε σ) (stack outer : List (Frame ν)) (walker : Walker) (s : σ) :
    Level ε σ → Prop
  | .finished visits t => ∀ state ended,
      Walks host outer ⟨state, walker.visited + visits⟩ t ended → Walks host stack walker s ended
  | .stopped result visits t =>
      ∃ state, Walks host stack walker s ⟨result, ⟨state, walker.visited + visits⟩, t⟩

theorem LeadsTo.after {stack inner outer : List (Frame ν)} {walker : Walker} {state : State}
    {visits : Nat} {s t : σ} {level : Level ε σ}
    (h : LeadsTo host inner outer ⟨state, walker.visited + visits⟩ t level)
    (step : ∀ ended, Walks host inner ⟨state, walker.visited + visits⟩ t ended →
      Walks host stack walker s ended) :
    LeadsTo host stack outer walker s (level.after visits) := by
  cases level with
  | finished later u =>
      intro state' ended he
      exact step ended (h state' ended (by simpa only [Nat.add_assoc] using he))
  | stopped result later u =>
      obtain ⟨state', he⟩ := h
      exact ⟨state', step _ (by simpa only [Nat.add_assoc] using he)⟩

theorem Descends.leadsTo {parent : ν} {pending : List ν} {s : σ} {level : Level ε σ}
    (h : Descends host parent pending s level) (outer : List (Frame ν)) (walker : Walker) :
    LeadsTo host (⟨parent, pending⟩ :: outer) outer walker s level := by
  induction h generalizing outer walker with
  | finished => exact fun _ _ he => .left (he.of_visited rfl)
  | failed visit => exact ⟨_, .failed visit⟩
  | halted visit => exact ⟨_, .halted visit⟩
  | next visit _ ih => exact (ih outer _).after fun _ => .next visit
  | unlisted visit children => exact ⟨_, .unlisted visit children⟩
  | stopped visit children _ ih =>
      obtain ⟨state, he⟩ := ih (_ :: outer) ⟨_, walker.visited + 1⟩
      exact ⟨state, .recursed visit children (by simpa only [Nat.add_assoc] using he)⟩
  | @recursed _ _ _ _ _ _ _ visits _ _ visit children _ _ ihi ihr =>
      refine (ihr outer ⟨.idle, walker.visited + (1 + visits)⟩).after fun ended he => ?_
      apply Walks.recursed visit children
      exact ihi _ _ .idle ended (by simpa only [Nat.add_assoc] using he)

theorem Unwinds.walks {stack : List (Frame ν)} {s : σ} {result : Except ε VisitOutcome}
    {visits : Nat} {t : σ} (h : Unwinds host stack s result visits t) (walker : Walker) :
    ∃ state, Walks host stack walker s ⟨result, ⟨state, walker.visited + visits⟩, t⟩ := by
  induction h generalizing walker with
  | completed => exact ⟨.idle, .completed⟩
  | stopped level => exact level.leadsTo _ walker
  | @finished _ _ outer _ visits _ _ _ _ level _ ih =>
      obtain ⟨state, he⟩ := ih ⟨.idle, walker.visited + visits⟩
      exact ⟨state, level.leadsTo outer walker .idle _ (by simpa only [Nat.add_assoc] using he)⟩

end Loop

section Recursion

theorem Unwinds.next {parent child : ν} {pending : List ν} {outer : List (Frame ν)} {s t u : σ}
    {result : Except ε VisitOutcome} {visits : Nat}
    (visit : host.visit child parent s = (.ok .next, t))
    (h : Unwinds host (⟨parent, pending⟩ :: outer) t result visits u) :
    Unwinds host (⟨parent, child :: pending⟩ :: outer) s result (1 + visits) u := by
  cases h with
  | stopped level => exact .stopped (.next visit level)
  | finished level rest =>
      rw [← Nat.add_assoc]
      exact .finished (.next visit level) rest

theorem Unwinds.recursed {parent child : ν} {pending listed : List ν} {outer : List (Frame ν)}
    {s t u v : σ} {result : Except ε VisitOutcome} {visits : Nat}
    (visit : host.visit child parent s = (.ok .recurse, t))
    (children : host.children child t = (.ok listed, u))
    (h : Unwinds host (⟨child, listed⟩ :: ⟨parent, pending⟩ :: outer) u result visits v) :
    Unwinds host (⟨parent, child :: pending⟩ :: outer) s result (1 + visits) v := by
  cases h with
  | stopped level => exact .stopped (.stopped visit children level)
  | finished inner rest =>
      cases rest with
      | stopped level =>
          rw [← Nat.add_assoc]
          exact .stopped (.recursed visit children inner level)
      | finished level rest =>
          rw [← Nat.add_assoc, ← Nat.add_assoc]
          exact .finished (.recursed visit children inner level) rest

theorem Walks.unwinds {stack : List (Frame ν)} {walker : Walker} {s : σ} {ended : Ended ε σ}
    (h : Walks host stack walker s ended) :
    ∃ visits, ended.walker.visited = walker.visited + visits ∧
      Unwinds host stack s ended.result visits ended.host := by
  induction h with
  | completed => exact ⟨0, rfl, .completed⟩
  | left _ ih =>
      obtain ⟨visits, hv, hu⟩ := ih
      exact ⟨visits, hv, Nat.zero_add visits ▸ .finished .finished hu⟩
  | failed visit => exact ⟨1, rfl, .stopped (.failed visit)⟩
  | halted visit => exact ⟨1, rfl, .stopped (.halted visit)⟩
  | next visit _ ih =>
      obtain ⟨visits, hv, hu⟩ := ih
      exact ⟨1 + visits, by simp only [hv, Nat.add_assoc], hu.next visit⟩
  | unlisted visit children => exact ⟨1, rfl, .stopped (.unlisted visit children)⟩
  | recursed visit children _ ih =>
      obtain ⟨visits, hv, hu⟩ := ih
      exact ⟨1 + visits, by simp only [hv, Nat.add_assoc], hu.recursed visit children⟩

end Recursion

section Trace

-- Each visit is written down, and counted, once.
theorem Descends.countP_visit {parent : ν} {pending : List ν} {s : σ × List (Request ν)}
    {level : Level ε (σ × List (Request ν))} (h : Descends host.traced parent pending s level) :
    level.host.2.countP Request.isVisit = s.2.countP Request.isVisit + level.visits := by
  have one : ∀ {child parent : ν} {s t : σ × List (Request ν)} {answer : Except ε ChildVisit},
      host.traced.visit child parent s = (answer, t) →
        t.2.countP Request.isVisit = s.2.countP Request.isVisit + 1 := by
    intro child parent s t answer hv
    obtain ⟨-, rfl⟩ := Prod.mk.injEq .. ▸ hv
    simp [Request.isVisit]
  have none : ∀ {node : ν} {s t : σ × List (Request ν)} {listed : Except δ (List ν)},
      host.traced.children node s = (listed, t) →
        t.2.countP Request.isVisit = s.2.countP Request.isVisit := by
    intro node s t listed hc
    obtain ⟨-, rfl⟩ := Prod.mk.injEq .. ▸ hc
    simp [Request.isVisit]
  induction h with
  | finished => rfl
  | failed visit => exact one visit
  | halted visit => exact one visit
  | next visit _ ih =>
      rw [Level.host_after, Level.visits_after, ih, one visit, Nat.add_assoc]
  | unlisted visit children => exact (none children).trans (one visit)
  | stopped visit children _ ih =>
      rw [none children, one visit, Nat.add_assoc] at ih
      exact ih
  | recursed visit children _ _ ihi ihr =>
      rw [none children, one visit, Nat.add_assoc] at ihi
      rw [Level.host_after, Level.visits_after, ihr, ← Nat.add_assoc]
      exact congrArg (· + _) ihi

end Trace

section Whole

theorem exists_run_iff {root : ν} {walker : Walker} {s : σ} {result : Except ε VisitOutcome}
    {visited : Nat} {t : σ} :
    (∃ fuel state, run host fuel root walker s = some ⟨result, ⟨state, visited⟩, t⟩) ↔
      ∃ fuel visits, descendFrom host fuel root s = some (result, visits, t) ∧
        visited = walker.visited + visits := by
  rcases hc : host.children root s with ⟨error | children, u⟩
  · constructor
    · rintro ⟨fuel, state, h⟩
      simp only [run, hc, Option.some.injEq, Ended.mk.injEq] at h
      obtain ⟨rfl, rfl, rfl⟩ := h
      exact ⟨fuel, 0, by simp only [descendFrom, hc], rfl⟩
    · rintro ⟨fuel, visits, h, rfl⟩
      simp only [descendFrom, hc, Option.some.injEq, Prod.mk.injEq] at h
      obtain ⟨rfl, rfl, rfl⟩ := h
      exact ⟨fuel, walker.state, by simp only [run, hc, Nat.add_zero]⟩
  · constructor
    · rintro ⟨fuel, state, h⟩
      simp only [run, hc] at h
      obtain ⟨visits, hv, hu⟩ := (walks_of_walk fuel _ walker u h).unwinds
      cases hu with
      | stopped level =>
          obtain ⟨fuel, hl⟩ := exists_descend_of_descends level
          exact ⟨fuel, visits, by simp only [descendFrom, hc, hl, Option.map_some], hv⟩
      | finished level rest =>
          cases rest
          obtain ⟨fuel, hl⟩ := exists_descend_of_descends level
          exact ⟨fuel, _, by simp only [descendFrom, hc, hl, Option.map_some, Nat.add_zero], hv⟩
    · rintro ⟨fuel, visits, h, rfl⟩
      simp only [descendFrom, hc, Option.map_eq_some_iff] at h
      obtain ⟨level, hl, h⟩ := h
      have hd := descends_of_descend fuel root children u hl
      have hu : Unwinds host [⟨root, children⟩] u result visits t := by
        cases level with
        | stopped _ _ _ =>
            obtain ⟨rfl, rfl, rfl⟩ := by simpa only [Prod.mk.injEq] using h
            exact .stopped hd
        | finished _ _ =>
            obtain ⟨rfl, rfl, rfl⟩ := by simpa only [Prod.mk.injEq] using h
            exact .finished hd .completed
      obtain ⟨state, he⟩ := hu.walks walker
      obtain ⟨fuel, hw⟩ := exists_walk_of_walks he
      exact ⟨fuel, state, by simpa only [run, hc] using hw⟩

theorem run_mono {fuel : Nat} {root : ν} {walker : Walker} {s : σ} {ended : Ended ε σ}
    (he : run host fuel root walker s = some ended) {fuel' : Nat} (hle : fuel ≤ fuel') :
    run host fuel' root walker s = some ended := by
  simp only [run] at he ⊢
  split at he
  · exact he
  · exact walk_mono fuel _ _ _ he hle

theorem descendFrom_visits {fuel : Nat} {root : ν} {s : σ} {result : Except ε VisitOutcome}
    {visits : Nat} {t : σ × List (Request ν)}
    (h : descendFrom host.traced fuel root (s, []) = some (result, visits, t)) :
    visits = t.2.countP Request.isVisit := by
  simp only [descendFrom, Host.traced, List.nil_append] at h
  split at h
  · next children =>
    obtain ⟨-, rfl⟩ := Prod.mk.injEq .. ▸ children
    obtain ⟨-, rfl, rfl⟩ := by simpa only [Option.some.injEq, Prod.mk.injEq] using h
    rfl
  · next children =>
    obtain ⟨-, rfl⟩ := Prod.mk.injEq .. ▸ children
    obtain ⟨level, hl, h⟩ := Option.map_eq_some_iff.mp h
    have hd : Descends host.traced root _ _ level := descends_of_descend fuel root _ _ hl
    have hcount := hd.countP_visit
    cases level with
    | finished _ _ =>
        obtain ⟨-, rfl, rfl⟩ := by simpa only [Prod.mk.injEq] using h
        simpa [Level.host, Level.visits, Request.isVisit] using hcount.symm
    | stopped _ _ _ =>
        obtain ⟨-, rfl, rfl⟩ := by simpa only [Prod.mk.injEq] using h
        simpa [Level.host, Level.visits, Request.isVisit] using hcount.symm

end Whole

-- The loop returns exactly when the recursion does, with the same result, after the same requests
-- in the same order, and leaves the host in the same state; the walker has counted one more visit
-- for each that the host was asked for. Writing the requests down shows what happens without them
-- being written down, and the fuel of the loop decides only whether it returns.
theorem run_refines_recursion (host : Host ν δ ε σ) (root : ν) (walker : Walker) (s : σ) :
    (∀ result visited t trace,
      (∃ fuel state, run host.traced fuel root walker (s, []) =
          some ⟨result, ⟨state, visited⟩, (t, trace)⟩) ↔
        ∃ fuel, descendFrom host.traced fuel root (s, []) =
            some (result, trace.countP Request.isVisit, (t, trace)) ∧
          visited = walker.visited + trace.countP Request.isVisit) ∧
    (∀ fuel, run host fuel root walker s =
      (run host.traced fuel root walker (s, [])).map (.map Prod.fst)) ∧
    (∀ fuel, descendFrom host fuel root s =
      (descendFrom host.traced fuel root (s, [])).map fun (result, visits, t) =>
        (result, visits, t.1)) ∧
    (∀ fuel fuel' ended, run host fuel root walker s = some ended → fuel ≤ fuel' →
      run host fuel' root walker s = some ended) := by
  refine ⟨fun result visited t trace => ?_, fun fuel => ?_, fun fuel => ?_, ?_⟩
  · rw [exists_run_iff]
    constructor
    · rintro ⟨fuel, visits, h, rfl⟩
      obtain rfl := descendFrom_visits h
      exact ⟨fuel, h, rfl⟩
    · rintro ⟨fuel, h, rfl⟩
      exact ⟨fuel, _, h, rfl⟩
  · exact run_map host.traced_projects fuel root walker (s, [])
  · exact descendFrom_map host.traced_projects fuel root (s, [])
  · exact fun _ _ _ he hle => run_mono he hle

end SyntaxHandles.Traversal
