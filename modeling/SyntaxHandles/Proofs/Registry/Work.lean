import SyntaxHandles.Registry.Run

-- What steps do with the registry behind their label. All of them hold it meanwhile, and let go of
-- it when they are done.

namespace SyntaxHandles.RegistryScript

inductive Work
  | acquireProbe (name : String) (kind : ResourceKind) (building : List Step)
      (failure : Option ResourceKind) (atRelease : List Step)
  | acquireText (name : String) (kind : ResourceKind)
  | dispose (name : String)
  | isAlive (name : String)
  | look (name : String) (asText : Bool) (body : List Step)
  | liveCount
  | disposeAll

def Step.work? : Step → Option (String × Work)
  | .acquireProbe label name kind building failure atRelease =>
    some (label, .acquireProbe name kind building failure atRelease)
  | .acquireText label name kind => some (label, .acquireText name kind)
  | .dispose label name => some (label, .dispose name)
  | .isAlive label name => some (label, .isAlive name)
  | .look label name asText body => some (label, .look name asText body)
  | .liveCount label => some (label, .liveCount)
  | .disposeAll label => some (label, .disposeAll)
  | .create _ | .drop _ | .same .. => none

def Work.run (fuel key : Nat) : Work → Run Report
  | .acquireProbe name kind building failure atRelease => do
    enter key
    let inner ← runSteps fuel building
    let resource ← build name (.probe atRelease)
    match failure with
    | some failed =>
      return .mk (.fault (.resourceExhausted failed)) inner (← release fuel key resource)
    | none =>
      let .mk outcome _ released ← track fuel key name kind resource
      return .mk outcome inner released
  | .acquireText name kind => do
    let resource ← build name .text
    track fuel key name kind resource
  | .dispose name => withName name fun id => do
    let resource? ← takeOut key (·.take id)
    note (.disposed key id (resource?.map (·.number)))
    match resource? with
    | none => return report (.flag false)
    | some resource => return .mk (.flag true) [] (← release fuel key resource)
  | .isAlive name => withName name fun id => do
    let alive ← ask key (·.isAlive id)
    note (.asked key id alive)
    return report (.flag alive)
  | .look name asText body => withName name fun id => do
    match ← ask key (·.look id (Resource.isOfType asText)) with
    | .error fault => return report (.fault fault)
    | .ok resource =>
      change key (·.share)
      let inner ← runSteps fuel body
      change key (·.unshare)
      return .mk (.found resource.label) inner []
  | .liveCount => do
    ask key (·.toRead)
    return report (.count ((← get).registries key).liveCount)
  | .disposeAll => return .mk .done [] (← drain fuel key)

-- What is left of the weight of a step when it has got hold of its registry.
def Work.weight : Work → Nat
  | .acquireProbe _ _ building _ atRelease => weights building + weights atRelease + 4
  | .acquireText .. => 4
  | .look _ _ body => weights body
  | _ => 0

section Step

variable {step : Step} {label : String} {work : Work}

theorem Step.weight_of_work? (hw : step.work? = some (label, work)) :
    step.weight = work.weight + 4 := by
  cases step <;> simp only [Step.work?, Option.some.injEq, Prod.mk.injEq, reduceCtorEq] at hw <;>
    obtain ⟨-, rfl⟩ := hw <;> simp only [Step.weight, Work.weight, Nat.zero_add, Nat.add_assoc]

theorem runStep_of_work? (hw : step.work? = some (label, work)) (fuel : Nat) :
    runStep (fuel + 1) step = within label (letGo fuel) fun key => work.run fuel key := by
  cases step <;> simp only [Step.work?, Option.some.injEq, Prod.mk.injEq, reduceCtorEq] at hw <;>
    obtain ⟨rfl, rfl⟩ := hw <;> rfl

end Step

end SyntaxHandles.RegistryScript
