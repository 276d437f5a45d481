import SyntaxHandles.Traversal.Basic

-- Hosts that answer alike in states that are related, and may call the nodes by other names. They
-- are led alike by the same traversal. So are hosts that put what goes wrong in other words.

namespace SyntaxHandles.Traversal

variable {μ ν δ ε ζ σ τ : Type}

def Frame.map (name : μ → ν) (frame : Frame μ) : Frame ν :=
  ⟨name frame.parent, frame.pending.map name⟩

-- From related states two hosts answer alike, and come to related states again.
structure Host.Matches (R : σ → τ → Prop) (name : μ → ν) (coarse : Host μ δ ε σ)
    (fine : Host ν δ ε τ) : Prop where
  children : ∀ node s t, R s t → ∃ listed s' t', R s' t' ∧ coarse.children node s = (listed, s') ∧
    fine.children (name node) t = (listed.map (List.map name), t')
  visit : ∀ child parent s t, R s t → ∃ answer s' t', R s' t' ∧
    coarse.visit child parent s = (answer, s') ∧
    fine.visit (name child) (name parent) t = (answer, t')
  convert : fine.convert = coarse.convert

def Ended.Matches (R : σ → τ → Prop) (coarse : Ended ε σ) (fine : Ended ε τ) : Prop :=
  fine.result = coarse.result ∧ fine.walker = coarse.walker ∧ R coarse.host fine.host

variable {R : σ → τ → Prop} {name : μ → ν} {coarse : Host μ δ ε σ} {fine : Host ν δ ε τ}

theorem walk_matches (h : Host.Matches R name coarse fine) (fuel : Nat) (stack : List (Frame μ))
    (walker : Walker) {s : σ} {t : τ} (hst : R s t) :
    Option.Rel (Ended.Matches R) (walk coarse fuel stack walker s)
      (walk fine fuel (stack.map (.map name)) walker t) := by
  induction fuel generalizing stack walker s t with
  | zero =>
      cases stack with
      | nil => exact .some ⟨rfl, rfl, hst⟩
      | cons frame outer => exact .none
  | succ fuel ih =>
      cases stack with
      | nil => exact .some ⟨rfl, rfl, hst⟩
      | cons frame outer =>
          obtain ⟨parent, pending⟩ := frame
          cases pending with
          | nil => exact ih outer walker hst
          | cons child pending =>
              obtain ⟨answer, s', t', hst', hcoarse, hfine⟩ := h.visit child parent s t hst
              simp only [walk, List.map_cons, Frame.map, List.length_cons, List.length_map,
                hcoarse, hfine]
              cases answer with
              | error error => exact .some ⟨rfl, rfl, hst'⟩
              | ok decision =>
                  cases decision with
                  | halt => exact .some ⟨rfl, rfl, hst'⟩
                  | next => exact ih (⟨parent, pending⟩ :: outer) _ hst'
                  | recurse =>
                      obtain ⟨listed, u, v, huv, hcoarse, hfine⟩ := h.children child s' t' hst'
                      simp only [hcoarse, hfine, Except.map]
                      cases listed with
                      | error error => exact .some ⟨by simp only [h.convert], rfl, huv⟩
                      | ok children =>
                          exact ih (⟨child, children⟩ :: ⟨parent, pending⟩ :: outer) _ huv

theorem run_matches (h : Host.Matches R name coarse fine) (fuel : Nat) (root : μ)
    (walker : Walker) {s : σ} {t : τ} (hst : R s t) :
    Option.Rel (Ended.Matches R) (run coarse fuel root walker s)
      (run fine fuel (name root) walker t) := by
  obtain ⟨listed, s', t', hst', hcoarse, hfine⟩ := h.children root s t hst
  simp only [run, hcoarse, hfine, Except.map]
  cases listed with
  | error error => exact .some ⟨by simp only [h.convert], rfl, hst'⟩
  | ok children => exact walk_matches h fuel [⟨root, children⟩] walker hst'

theorem map_eq_map {α : Type} {e : Option (Ended ε σ)} {e' : Option (Ended ε τ)}
    {f : Ended ε σ → α} {g : Ended ε τ → α} (h : Option.Rel (Ended.Matches R) e e')
    (hfg : ∀ coarse fine, Ended.Matches R coarse fine → f coarse = g fine) :
    e.map f = e'.map g := by
  cases h with
  | none => rfl
  | some hm => exact congrArg some (hfg _ _ hm)

def Host.mapError (f : ε → ζ) (host : Host ν δ ε σ) : Host ν δ ζ σ where
  children := host.children
  visit child parent s := ((host.visit child parent s).1.mapError f, (host.visit child parent s).2)
  convert error := f (host.convert error)

def Ended.mapError (f : ε → ζ) (ended : Ended ε σ) : Ended ζ σ :=
  ⟨ended.result.mapError f, ended.walker, ended.host⟩

theorem Host.mapError_children (f : ε → ζ) (host : Host ν δ ε σ) :
    (host.mapError f).children = host.children := rfl

theorem Host.mapError_visit_ok {f : ε → ζ} {host : Host ν δ ε σ} {child parent : ν} {s t : σ}
    {decision : ChildVisit} (h : host.visit child parent s = (.ok decision, t)) :
    (host.mapError f).visit child parent s = (.ok decision, t) := by
  simp only [Host.mapError, h]
  rfl

theorem walk_mapError (f : ε → ζ) (host : Host ν δ ε σ) (fuel : Nat) (stack : List (Frame ν))
    (walker : Walker) (s : σ) :
    walk (host.mapError f) fuel stack walker s =
      (walk host fuel stack walker s).map (.mapError f) := by
  induction fuel generalizing stack walker s with
  | zero => cases stack <;> rfl
  | succ fuel ih =>
      cases stack with
      | nil => rfl
      | cons frame outer =>
          obtain ⟨parent, pending⟩ := frame
          cases pending with
          | nil => exact ih outer walker s
          | cons child pending =>
              rcases hv : host.visit child parent s with ⟨error | decision, t⟩
              · simp only [walk, Host.mapError, hv]
                rfl
              · simp only [walk, Host.mapError_visit_ok hv, hv, Host.mapError_children]
                cases decision with
                | halt => rfl
                | next => exact ih _ _ t
                | recurse =>
                    rcases hc : host.children child t with ⟨error | children, u⟩ <;> simp only [hc]
                    · rfl
                    · exact ih _ _ u

theorem run_mapError (f : ε → ζ) (host : Host ν δ ε σ) (fuel : Nat) (root : ν) (walker : Walker)
    (s : σ) :
    run (host.mapError f) fuel root walker s = (run host fuel root walker s).map (.mapError f) := by
  simp only [run, Host.mapError]
  rcases host.children root s with ⟨error | children, t⟩
  · rfl
  · exact walk_mapError f host fuel _ walker t

end SyntaxHandles.Traversal
