import SyntaxHandles.Registry.Basic

-- Scripts over any number of registries. They may re-enter: building a resource, releasing one and
-- looking at one can each run further steps on the same registries.

namespace SyntaxHandles.RegistryScript

-- How a resource is made and what happens when it is released.
inductive Step
  -- Makes a registry under a label. One that had the label loses it first.
  | create (registry : String)
  | drop (registry : String)
  -- Runs `building` and makes a probe, then tracks it, or lets go of it again on a failure. The
  -- release of the probe runs `atRelease`.
  | acquireProbe (registry name : String) (kind : ResourceKind) (building : List Step)
      (failure : Option ResourceKind) (atRelease : List Step)
  -- Tracks a text, whose release nobody notices.
  | acquireText (registry name : String) (kind : ResourceKind)
  | dispose (registry name : String)
  | isAlive (registry name : String)
  -- Runs `body` while it looks at the resource, as a text or as a probe.
  | look (registry name : String) (asText : Bool) (body : List Step)
  | liveCount (registry : String)
  | disposeAll (registry : String)
  | same (name other : String)

mutual

-- A bound on the steps that a script can take, those at the release of its resources included.
def Step.weight : Step → Nat
  | .create _ => 4
  | .drop _ => 4
  | .acquireProbe _ _ _ building _ atRelease => weights building + weights atRelease + 8
  | .acquireText .. => 8
  | .dispose .. => 4
  | .isAlive .. => 4
  | .look _ _ _ body => weights body + 4
  | .liveCount _ => 4
  | .disposeAll _ => 4
  | .same .. => 4

def weights : List Step → Nat
  | [] => 1
  | step :: steps => step.weight + weights steps + 1

end

inductive Contents
  | probe (atRelease : List Step)
  | text

-- Every resource that is made has a number of its own, besides the label that it is made with.
structure Resource where
  number : Nat
  label : String
  contents : Contents

inductive Outcome
  | done
  | flag (b : Bool)
  | count (n : Nat)
  | acquired (id : ResourceId)
  | found (label : String)
  | fault (fault : Fault)
  | noRegistry
  | noName

mutual

-- What a step answers, what the steps inside it answer, and what it released.
inductive Report
  | mk (outcome : Outcome) (inner : List Report) (released : List Release)

-- A released probe, and what the steps at its release answer.
inductive Release
  | probe (label : String)
  | steps (label : String) (reports : List Report)

end

-- What happens to resources and registries, in the order of time.
inductive Event
  | built (resource : Nat)
  | registered (registry resource : Nat) (id : ResourceId)
  -- A resource loses its entry.
  | taken (registry resource : Nat)
  | released (resource : Nat)
  | asked (registry : Nat) (id : ResourceId) (alive : Bool)
  -- An identity is disposed of, and the resource behind it is taken out if there is one.
  | disposed (registry : Nat) (id : ResourceId) (resource : Option Nat)
  -- Steps of a constructor or at a release start, inside an operation on the registry.
  | entered (registry : Nat) (borrow : Borrow)
  deriving DecidableEq

end SyntaxHandles.RegistryScript
