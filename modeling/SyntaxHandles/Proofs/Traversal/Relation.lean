import SyntaxHandles.Traversal.Recursive

-- Both traversals without their fuel: what the loop over the open levels comes to, and what the
-- recursion on them comes to, as relations that follow the answers of the host.

namespace SyntaxHandles.Traversal

variable {ν δ ε σ : Type} {host : Host ν δ ε σ}

-- What the loop comes to from the open levels on.
inductive Walks (host : Host ν δ ε σ) : List (Frame ν) → Walker → σ → Ended ε σ → Prop
  | completed {walker s} :
      Walks host [] walker s ⟨.ok .completed, { walker with state := .idle }, s⟩
  | left {parent outer walker s ended} (rest : Walks host outer walker s ended) :
      Walks host (⟨parent, []⟩ :: outer) walker s ended
  | failed {parent child pending outer walker s error t}
      (visit : host.visit child parent s = (.error error, t)) :
      Walks host (⟨parent, child :: pending⟩ :: outer) walker s
        ⟨.error error, ⟨.aborted, walker.visited + 1⟩, t⟩
  | halted {parent child pending outer walker s t}
      (visit : host.visit child parent s = (.ok .halt, t)) :
      Walks host (⟨parent, child :: pending⟩ :: outer) walker s
        ⟨.ok .aborted, ⟨.aborted, walker.visited + 1⟩, t⟩
  | next {parent child pending outer walker s t ended}
      (visit : host.visit child parent s = (.ok .next, t))
      (rest : Walks host (⟨parent, pending⟩ :: outer)
        ⟨.visiting (outer.length + 1), walker.visited + 1⟩ t ended) :
      Walks host (⟨parent, child :: pending⟩ :: outer) walker s ended
  | unlisted {parent child pending outer walker s t error u}
      (visit : host.visit child parent s = (.ok .recurse, t))
      (children : host.children child t = (.error error, u)) :
      Walks host (⟨parent, child :: pending⟩ :: outer) walker s
        ⟨.error (host.convert error), ⟨.visiting (outer.length + 1), walker.visited + 1⟩, u⟩
  | recursed {parent child pending outer walker s t listed u ended}
      (visit : host.visit child parent s = (.ok .recurse, t))
      (children : host.children child t = (.ok listed, u))
      (rest : Walks host (⟨child, listed⟩ :: ⟨parent, pending⟩ :: outer)
        ⟨.visiting (outer.length + 1), walker.visited + 1⟩ u ended) :
      Walks host (⟨parent, child :: pending⟩ :: outer) walker s ended

-- What the recursion comes to on the children of one parent that are still to be visited.
inductive Descends (host : Host ν δ ε σ) : ν → List ν → σ → Level ε σ → Prop
  | finished {parent s} : Descends host parent [] s (.finished 0 s)
  | failed {parent child siblings s error t}
      (visit : host.visit child parent s = (.error error, t)) :
      Descends host parent (child :: siblings) s (.stopped (.error error) 1 t)
  | halted {parent child siblings s t} (visit : host.visit child parent s = (.ok .halt, t)) :
      Descends host parent (child :: siblings) s (.stopped (.ok .aborted) 1 t)
  | next {parent child siblings s t level} (visit : host.visit child parent s = (.ok .next, t))
      (rest : Descends host parent siblings t level) :
      Descends host parent (child :: siblings) s (level.after 1)
  | unlisted {parent child siblings s t error u}
      (visit : host.visit child parent s = (.ok .recurse, t))
      (children : host.children child t = (.error error, u)) :
      Descends host parent (child :: siblings) s (.stopped (.error (host.convert error)) 1 u)
  | stopped {parent child siblings s t listed u result visits v}
      (visit : host.visit child parent s = (.ok .recurse, t))
      (children : host.children child t = (.ok listed, u))
      (inner : Descends host child listed u (.stopped result visits v)) :
      Descends host parent (child :: siblings) s (.stopped result (1 + visits) v)
  | recursed {parent child siblings s t listed u visits v level}
      (visit : host.visit child parent s = (.ok .recurse, t))
      (children : host.children child t = (.ok listed, u))
      (inner : Descends host child listed u (.finished visits v))
      (rest : Descends host parent siblings v level) :
      Descends host parent (child :: siblings) s (level.after (1 + visits))

section Fuel

theorem walks_of_walk (fuel : Nat) (stack : List (Frame ν)) (walker : Walker) (s : σ)
    {ended : Ended ε σ} (he : walk host fuel stack walker s = some ended) :
    Walks host stack walker s ended := by
  induction fuel generalizing stack walker s with
  | zero =>
      cases stack with
      | nil =>
          simp only [walk, Option.some.injEq] at he
          exact he ▸ .completed
      | cons frame outer => simp [walk] at he
  | succ fuel ih =>
      cases stack with
      | nil =>
          simp only [walk, Option.some.injEq] at he
          exact he ▸ .completed
      | cons frame outer =>
          obtain ⟨parent, pending⟩ := frame
          cases pending with
          | nil => exact .left (ih outer walker s (by simpa only [walk] using he))
          | cons child pending =>
              simp only [walk, List.length_cons] at he
              split at he
              · next visit =>
                simp only [Option.some.injEq] at he
                exact he ▸ .failed visit
              · next visit =>
                simp only [Option.some.injEq] at he
                exact he ▸ .halted visit
              · next visit => exact .next visit (ih _ _ _ he)
              · next visit =>
                split at he
                · next children =>
                  simp only [Option.some.injEq] at he
                  exact he ▸ .unlisted visit children
                · next children => exact .recursed visit children (ih _ _ _ he)

theorem walk_mono (fuel : Nat) (stack : List (Frame ν)) (walker : Walker) (s : σ)
    {ended : Ended ε σ} (he : walk host fuel stack walker s = some ended) {fuel' : Nat}
    (hle : fuel ≤ fuel') : walk host fuel' stack walker s = some ended := by
  induction fuel generalizing stack walker s fuel' with
  | zero =>
      cases stack with
      | nil => cases fuel' <;> simpa only [walk] using he
      | cons frame outer => simp [walk] at he
  | succ fuel ih =>
      obtain ⟨fuel', rfl⟩ : ∃ n, fuel' = n + 1 := ⟨fuel' - 1, by omega⟩
      have hle' : fuel ≤ fuel' := by omega
      cases stack with
      | nil => simpa only [walk] using he
      | cons frame outer =>
          obtain ⟨parent, pending⟩ := frame
          cases pending with
          | nil =>
              simp only [walk] at he ⊢
              exact ih outer walker s he hle'
          | cons child pending =>
              simp only [walk] at he ⊢
              split at he
              · next visit => simpa only [visit] using he
              · next visit => simpa only [visit] using he
              · next visit => simpa only [visit] using ih _ _ _ he hle'
              · next visit =>
                split at he
                · next children => simpa only [visit, children] using he
                · next children => simpa only [visit, children] using ih _ _ _ he hle'

theorem exists_walk_of_walks {stack : List (Frame ν)} {walker : Walker} {s : σ} {ended : Ended ε σ}
    (h : Walks host stack walker s ended) : ∃ fuel, walk host fuel stack walker s = some ended := by
  induction h with
  | completed => exact ⟨0, rfl⟩
  | left _ ih =>
      obtain ⟨fuel, he⟩ := ih
      exact ⟨fuel + 1, by simpa only [walk] using he⟩
  | failed visit => exact ⟨1, by simp only [walk, visit]⟩
  | halted visit => exact ⟨1, by simp only [walk, visit]⟩
  | next visit _ ih =>
      obtain ⟨fuel, he⟩ := ih
      exact ⟨fuel + 1, by simpa only [walk, visit, List.length_cons] using he⟩
  | unlisted visit children =>
      exact ⟨1, by simp only [walk, visit, children, List.length_cons]⟩
  | recursed visit children _ ih =>
      obtain ⟨fuel, he⟩ := ih
      exact ⟨fuel + 1, by simpa only [walk, visit, children, List.length_cons] using he⟩

theorem descends_of_descend (fuel : Nat) (parent : ν) (pending : List ν) (s : σ)
    {level : Level ε σ} (hl : descend host fuel parent pending s = some level) :
    Descends host parent pending s level := by
  induction fuel generalizing parent pending s level with
  | zero => simp [descend] at hl
  | succ fuel ih =>
      cases pending with
      | nil =>
          simp only [descend, Option.some.injEq] at hl
          exact hl ▸ .finished
      | cons child siblings =>
          simp only [descend] at hl
          split at hl
          · next visit =>
            simp only [Option.some.injEq] at hl
            exact hl ▸ .failed visit
          · next visit =>
            simp only [Option.some.injEq] at hl
            exact hl ▸ .halted visit
          · next visit =>
            obtain ⟨rest, hr, rfl⟩ := Option.map_eq_some_iff.mp hl
            exact .next visit (ih _ _ _ hr)
          · next visit =>
            split at hl
            · next children =>
              simp only [Option.some.injEq] at hl
              exact hl ▸ .unlisted visit children
            · next children =>
              split at hl
              · simp at hl
              · next inner =>
                simp only [Option.some.injEq] at hl
                exact hl ▸ .stopped visit children (ih _ _ _ inner)
              · next inner =>
                obtain ⟨rest, hr, rfl⟩ := Option.map_eq_some_iff.mp hl
                exact .recursed visit children (ih _ _ _ inner) (ih _ _ _ hr)

theorem descend_mono (fuel : Nat) (parent : ν) (pending : List ν) (s : σ) {level : Level ε σ}
    (hl : descend host fuel parent pending s = some level) {fuel' : Nat} (hle : fuel ≤ fuel') :
    descend host fuel' parent pending s = some level := by
  induction fuel generalizing parent pending s level fuel' with
  | zero => simp [descend] at hl
  | succ fuel ih =>
      obtain ⟨fuel', rfl⟩ : ∃ n, fuel' = n + 1 := ⟨fuel' - 1, by omega⟩
      have hle' : fuel ≤ fuel' := by omega
      cases pending with
      | nil => simpa only [descend] using hl
      | cons child siblings =>
          simp only [descend] at hl ⊢
          split at hl
          · next visit => simpa only [visit] using hl
          · next visit => simpa only [visit] using hl
          · next visit =>
            obtain ⟨rest, hr, rfl⟩ := Option.map_eq_some_iff.mp hl
            simp only [ih _ _ _ hr hle', Option.map_some]
          · next visit =>
            split at hl
            · next children => simpa only [visit, children] using hl
            · next children =>
              split at hl
              · simp at hl
              · next inner => simpa only [visit, children, ih _ _ _ inner hle'] using hl
              · next inner =>
                obtain ⟨rest, hr, rfl⟩ := Option.map_eq_some_iff.mp hl
                simp only [ih _ _ _ inner hle', ih _ _ _ hr hle', Option.map_some]

theorem exists_descend_of_descends {parent : ν} {pending : List ν} {s : σ} {level : Level ε σ}
    (h : Descends host parent pending s level) :
    ∃ fuel, descend host fuel parent pending s = some level := by
  induction h with
  | finished => exact ⟨1, rfl⟩
  | failed visit => exact ⟨1, by simp only [descend, visit]⟩
  | halted visit => exact ⟨1, by simp only [descend, visit]⟩
  | next visit _ ih =>
      obtain ⟨fuel, hl⟩ := ih
      exact ⟨fuel + 1, by simp only [descend, visit, hl, Option.map_some]⟩
  | unlisted visit children => exact ⟨1, by simp only [descend, visit, children]⟩
  | stopped visit children _ ih =>
      obtain ⟨fuel, hl⟩ := ih
      exact ⟨fuel + 1, by simp only [descend, visit, children, hl]⟩
  | recursed visit children _ _ ihi ihr =>
      obtain ⟨inner, hi⟩ := ihi
      obtain ⟨rest, hr⟩ := ihr
      have hi' := descend_mono inner _ _ _ hi (Nat.le_max_left inner rest)
      have hr' := descend_mono rest _ _ _ hr (Nat.le_max_right inner rest)
      exact ⟨max inner rest + 1, by simp only [descend, visit, children, hi', hr', Option.map_some]⟩

end Fuel

end SyntaxHandles.Traversal
