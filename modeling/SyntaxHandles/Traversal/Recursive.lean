import SyntaxHandles.Traversal.Basic

-- The same traversal by recursion on the levels, without a stack of them.

namespace SyntaxHandles.Traversal

variable {ν δ ε σ : Type}

-- How one level ends: at its last child, or early and with it every level above.
inductive Level (ε σ : Type)
  | finished (visits : Nat) (host : σ)
  | stopped (result : Except ε VisitOutcome) (visits : Nat) (host : σ)

def Level.after (earlier : Nat) : Level ε σ → Level ε σ
  | finished visits s => finished (earlier + visits) s
  | stopped result visits s => stopped result (earlier + visits) s

-- Visits the children of one parent, each with its subtree where the visitor asks for it. The fuel
-- bounds how deep levels lie inside one another.
def descend (host : Host ν δ ε σ) : Nat → ν → List ν → σ → Option (Level ε σ)
  | 0, _, _, _ => none
  | _ + 1, _, [], s => some (.finished 0 s)
  | fuel + 1, parent, child :: siblings, s =>
    match host.visit child parent s with
    | (.error error, s) => some (.stopped (.error error) 1 s)
    | (.ok .halt, s) => some (.stopped (.ok .aborted) 1 s)
    | (.ok .next, s) => (descend host fuel parent siblings s).map (.after 1)
    | (.ok .recurse, s) =>
      match host.children child s with
      | (.error error, s) => some (.stopped (.error (host.convert error)) 1 s)
      | (.ok children, s) =>
        match descend host fuel child children s with
        | none => none
        | some (.stopped result visits s) => some (.stopped result (1 + visits) s)
        | some (.finished visits s) =>
          (descend host fuel parent siblings s).map (.after (1 + visits))

-- The result of a whole traversal, the number of its visits, and the state that it leaves.
def descendFrom (host : Host ν δ ε σ) (fuel : Nat) (root : ν) (s : σ) :
    Option (Except ε VisitOutcome × Nat × σ) :=
  match host.children root s with
  | (.error error, s) => some (.error (host.convert error), 0, s)
  | (.ok children, s) =>
    (descend host fuel root children s).map fun
      | .finished visits s => (.ok .completed, visits, s)
      | .stopped result visits s => (result, visits, s)

end SyntaxHandles.Traversal
