import SyntaxHandles.Constants.ChildVisit
import SyntaxHandles.Constants.VisitOutcome

-- Depth-first, pre-order traversal that a visitor steers. Children are listed one level at a time:
-- a level in full before its first child is visited, and a deeper one only when the visitor asks
-- for it. The levels that are open are kept on a stack, so the visitor may fail, or start
-- traversals of its own, at any point.

namespace SyntaxHandles.Traversal

-- What a traversal is given: children of a node, and what to do at each of them. Both may change a
-- state of the host and may fail; a failed listing ends the traversal with the host's own error.
structure Host (ν δ ε σ : Type) where
  children : ν → σ → Except δ (List ν) × σ
  visit : (child parent : ν) → σ → Except ε ChildVisit × σ
  convert : δ → ε

inductive State
  | idle
  | visiting (depth : Nat)
  | aborted
  deriving DecidableEq, Repr

-- A walker can be used for several traversals, one after the other. It counts the visits of all.
structure Walker where
  state : State := .idle
  visited : Nat := 0
  deriving DecidableEq, Repr

-- An open level: the children that are still to be visited, and their parent.
structure Frame (ν : Type) where
  parent : ν
  pending : List ν

variable {ν δ ε σ : Type}

structure Ended (ε σ : Type) where
  result : Except ε VisitOutcome
  walker : Walker
  host : σ

-- Visits the pending children of all open levels. Nothing is returned if the fuel, which bounds the
-- visits and the ends of levels, does not suffice.
def walk (host : Host ν δ ε σ) : Nat → List (Frame ν) → Walker → σ → Option (Ended ε σ)
  | _, [], walker, s => some ⟨.ok .completed, { walker with state := .idle }, s⟩
  | 0, _, _, _ => none
  | fuel + 1, ⟨_, []⟩ :: stack, walker, s => walk host fuel stack walker s
  | fuel + 1, ⟨parent, child :: pending⟩ :: outer, walker, s =>
    let stack := ⟨parent, pending⟩ :: outer
    let walker : Walker := ⟨.visiting stack.length, walker.visited + 1⟩
    match host.visit child parent s with
    | (.error error, s) => some ⟨.error error, { walker with state := .aborted }, s⟩
    | (.ok .halt, s) => some ⟨.ok .aborted, { walker with state := .aborted }, s⟩
    | (.ok .next, s) => walk host fuel stack walker s
    | (.ok .recurse, s) =>
      match host.children child s with
      | (.error error, s) => some ⟨.error (host.convert error), walker, s⟩
      | (.ok children, s) => walk host fuel (⟨child, children⟩ :: stack) walker s

-- Visits the descendants of a node. If they cannot be listed, the walker stays as it was.
def run (host : Host ν δ ε σ) (fuel : Nat) (root : ν) (walker : Walker) (s : σ) :
    Option (Ended ε σ) :=
  match host.children root s with
  | (.error error, s) => some ⟨.error (host.convert error), walker, s⟩
  | (.ok children, s) => walk host fuel [⟨root, children⟩] walker s

-- More visits than anyone waits for.
def ample : Nat := 0x1000000000000000

end SyntaxHandles.Traversal
