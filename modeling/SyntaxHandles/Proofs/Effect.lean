import Mathlib.Tactic.Common

-- Parts of a program that change a state and may end early, told by what one run of them does.

namespace SyntaxHandles.Effect

variable {ε σ α β : Type}

theorem run_bind (x : ExceptT ε (StateM σ) α) (f : α → ExceptT ε (StateM σ) β) (s : σ) :
    (x >>= f).run s = match x.run s with
      | (.ok a, t) => (f a).run t
      | (.error e, t) => (.error e, t) := by
  change (match x.run s with | (a, t) => ExceptT.bindCont f a t) = _
  rcases x.run s with ⟨_ | _, _⟩ <;> rfl

theorem run_pure (a : α) (s : σ) : (pure a : ExceptT ε (StateM σ) α).run s = (.ok a, s) := rfl

theorem run_get (s : σ) : (get : ExceptT ε (StateM σ) σ).run s = (.ok s, s) := rfl

theorem run_modify (f : σ → σ) (s : σ) :
    (modify f : ExceptT ε (StateM σ) Unit).run s = (.ok (), f s) := rfl

end SyntaxHandles.Effect
