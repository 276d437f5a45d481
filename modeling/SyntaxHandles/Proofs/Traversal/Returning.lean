import SyntaxHandles.Proofs.Traversal.Exchanges

-- When a traversal comes to an end, and what it has asked for by then. It may go round in circles
-- only as long as its visitor asks for more, and it goes down only as far as there are children
-- below one another.

namespace SyntaxHandles.Traversal

variable {ν δ ε σ : Type}

-- A traversal comes to an end, with any fuel that suffices for it.
def Returns (host : Host ν δ ε σ) (root : ν) (walker : Walker) (s : σ) : Prop :=
  ∃ enough ended, ∀ fuel, enough ≤ fuel → run host fuel root walker s = some ended

-- A node is listed for another one, in some state of the host.
def Host.ChildOf (host : Host ν δ ε σ) (child parent : ν) : Prop :=
  ∃ s listed t, host.children parent s = (.ok listed, t) ∧ child ∈ listed

-- A node is listed for another one in the course of a traversal.
def Host.Lists (host : Host ν δ ε σ) (root : ν) (s : σ) (child parent : ν) : Prop :=
  ∃ pending outer t, Passes host root s (⟨parent, pending⟩ :: outer) t ∧ child ∈ pending

section Returning

variable {host : Host ν δ ε σ} {root parent : ν} {pending : List ν} {outer stack : List (Frame ν)}
  {walker : Walker} {s t u : σ}

theorem returns_of_unlisted {error : δ} (children : host.children root s = (.error error, t)) :
    Returns host root walker s :=
  ⟨0, _, fun fuel _ => by rw [run, children]⟩

theorem Returns.of_logged (h : Returns host.logged root walker (s, [])) :
    Returns host root walker s := by
  obtain ⟨enough, ended, hrun⟩ := h
  refine ⟨enough, ended.map Prod.fst, fun fuel hle => ?_⟩
  rw [← Option.map_some, ← hrun fuel hle]
  exact run_map host.logged_projects fuel root walker (s, [])

-- Each frame is shorter after a visit, and each new frame takes one of the answers that are left,
-- so the induction is on these answers, then on the open levels, then on what is pending.
theorem exists_walks_of_recursions_le {bound : Nat}
    (hb : ∀ stack t log, Passes host.logged root (s, []) stack (t, log) →
      recursionsIn log ≤ bound)
    (left : Nat) {t : σ × List (Exchange ν δ ε)}
    (passes : Passes host.logged root (s, []) stack t)
    (hleft : bound ≤ recursionsIn t.2 + left) (walker : Walker) :
    ∃ ended, Walks host.logged stack walker t ended := by
  induction left using Nat.strong_induction_on generalizing stack t walker with
  | h left ih =>
    induction stack generalizing t walker with
    | nil => exact ⟨_, .completed⟩
    | cons frame outer iho =>
      obtain ⟨parent, pending⟩ := frame
      induction pending generalizing t walker with
      | nil =>
          obtain ⟨ended, rest⟩ := iho passes.left hleft walker
          exact ⟨ended, .left rest⟩
      | cons child pending ihp =>
          rcases hv : host.logged.visit child parent t with ⟨error | decision, u⟩
          · exact ⟨_, .failed hv⟩
          cases decision with
          | halt => exact ⟨_, .halted hv⟩
          | next =>
              have hsame : recursionsIn u.2 = recursionsIn t.2 := by
                rw [Host.log_of_visit hv, recursionsIn_append]
                rfl
              obtain ⟨ended, rest⟩ := ihp (hsame ▸ hleft) _ (passes.next hv)
              exact ⟨ended, .next hv rest⟩
          | recurse =>
              rcases hc : host.logged.children child u with ⟨error | listed, v⟩
              · exact ⟨_, .unlisted hv hc⟩
              have hpasses := passes.recursed hv hc
              have hmore : recursionsIn v.2 = recursionsIn t.2 + 1 := by
                rw [Host.log_of_recurse hv hc, recursionsIn_append]
                rfl
              have hle : recursionsIn v.2 ≤ bound := hb _ _ _ hpasses
              obtain ⟨ended, rest⟩ := ih (left - 1) (by omega) hpasses (by omega) _
              exact ⟨ended, .recursed hv hc rest⟩

theorem returns_of_recursions_le {bound : Nat}
    (hb : ∀ stack t log, Passes host.logged root (s, []) stack (t, log) →
      recursionsIn log ≤ bound) : Returns host root walker s := by
  rcases hc : host.logged.children root (s, []) with ⟨error | listed, t⟩
  · exact .of_logged (returns_of_unlisted hc)
  · obtain ⟨ended, hw⟩ :=
      exists_walks_of_recursions_le hb bound (.start hc) (Nat.le_add_left _ _) walker
    obtain ⟨enough, hrun⟩ := exists_run_of_walks hc hw
    exact .of_logged ⟨enough, ended, hrun⟩

-- What is visited below a node leads the traversal to the end of the children of this node.
theorem Passes.of_descends {level : Level ε σ} (h : Descends host parent pending t level)
    {visits : Nat} (hl : level = .finished visits u)
    (passes : Passes host root s (⟨parent, pending⟩ :: outer) t) :
    Passes host root s (⟨parent, []⟩ :: outer) u := by
  induction h generalizing visits u outer with
  | finished =>
      cases hl
      exact passes
  | failed | halted | unlisted | stopped => exact nomatch hl
  | @next _ _ _ _ _ level visit _ ih =>
      cases level with
      | stopped => exact nomatch hl
      | finished =>
          cases hl
          exact ih rfl (passes.next visit)
  | @recursed _ _ _ _ _ _ _ _ _ level visit children _ _ ihi ihr =>
      cases level with
      | stopped => exact nomatch hl
      | finished =>
          cases hl
          exact ihr rfl (ihi rfl (passes.recursed visit children)).left

theorem exists_descends_of_acc (h : Acc (host.Lists root s) parent)
    (passes : Passes host root s (⟨parent, pending⟩ :: outer) t) :
    ∃ level, Descends host parent pending t level := by
  induction h generalizing pending outer t with
  | intro parent _ ih =>
    induction pending generalizing t with
    | nil => exact ⟨_, .finished⟩
    | cons child siblings ihs =>
      rcases hv : host.visit child parent t with ⟨error | decision, u⟩
      · exact ⟨_, .failed hv⟩
      cases decision with
      | halt => exact ⟨_, .halted hv⟩
      | next =>
          obtain ⟨level, rest⟩ := ihs (passes.next hv)
          exact ⟨_, .next hv rest⟩
      | recurse =>
          rcases hc : host.children child u with ⟨error | listed, v⟩
          · exact ⟨_, .unlisted hv hc⟩
          have hinner := passes.recursed hv hc
          obtain ⟨inner, below⟩ := ih child ⟨_, _, _, passes, .head _⟩ hinner
          cases inner with
          | stopped => exact ⟨_, .stopped hv hc below⟩
          | finished visits w =>
              obtain ⟨level, rest⟩ := ihs (hinner.of_descends below rfl).left
              exact ⟨_, .recursed hv hc below rest⟩

theorem returns_of_acc (h : Acc (host.Lists root s) root) : Returns host root walker s := by
  rcases hc : host.children root s with ⟨error | listed, t⟩
  · exact returns_of_unlisted hc
  · obtain ⟨level, hd⟩ := exists_descends_of_acc h (.start hc)
    obtain ⟨visits, hu⟩ := Level.exists_unwinds hd
    obtain ⟨state, hw⟩ := hu.walks walker
    obtain ⟨enough, hrun⟩ := exists_run_of_walks hc hw
    exact ⟨enough, _, hrun⟩

-- What is pending in a traversal was listed for its parent.
theorem Passes.childOf (h : Passes host root s stack t) :
    ∀ frame ∈ stack, ∀ child ∈ frame.pending, host.ChildOf child frame.parent := by
  induction h with
  | start children =>
      exact List.forall_mem_singleton.mpr fun child hm => ⟨_, _, _, children, hm⟩
  | left _ ih => exact (List.forall_mem_cons.mp ih).2
  | next _ _ ih =>
      obtain ⟨hframe, houter⟩ := List.forall_mem_cons.mp ih
      exact List.forall_mem_cons.mpr ⟨fun child hm => hframe child (.tail _ hm), houter⟩
  | recursed _ _ children ih =>
      obtain ⟨hframe, houter⟩ := List.forall_mem_cons.mp ih
      refine List.forall_mem_cons.mpr ⟨fun child hm => ⟨_, _, _, children, hm⟩, ?_⟩
      exact List.forall_mem_cons.mpr ⟨fun child hm => hframe child (.tail _ hm), houter⟩

theorem Host.Lists.childOf {child : ν} (h : host.Lists root s child parent) :
    host.ChildOf child parent := by
  obtain ⟨pending, outer, t, passes, hm⟩ := h
  exact passes.childOf _ (.head _) child hm

end Returning

section Ended

variable {host : Host ν δ ε σ} {root : ν} {walker : Walker} {s : σ}

-- What a traversal that came to an end has asked for.
structure Ended.Accounts (root : ν) (walker : Walker)
    (ended : Ended ε (σ × List (Exchange ν δ ε))) : Prop where
  visited : ended.walker.visited = walker.visited + visitsIn ended.host.2
  -- The root is listed, and then each node that is asked for, whether or not it can be.
  listings : listingsIn ended.host.2 = 1 + recursionsIn ended.host.2
  le : visitsIn ended.host.2 ≤ nodesIn ended.host.2
  eq : ended.result = .ok .completed → visitsIn ended.host.2 = nodesIn ended.host.2
  unfolded : ∀ source, (∀ exchange ∈ ended.host.2, exchange.Unfolds source) →
    ended.result = .ok .completed ∧
      {p | p ≠ [] ∧ (nodeAt? source root p).isSome}.encard = visitsIn ended.host.2

-- Only the loop ends a traversal as completed.
theorem Descends.result?_ne {parent : ν} {pending : List ν} {level : Level ε σ}
    (h : Descends host parent pending s level) : level.result? ≠ some (.ok .completed) := by
  induction h with
  | finished | failed | halted | unlisted => exact nofun
  | next _ _ ih => exact fun h => ih (Level.result?_after _ _ ▸ h)
  | stopped _ _ _ ih => exact ih
  | recursed _ _ _ _ _ ih => exact fun h => ih (Level.result?_after _ _ ▸ h)

-- A traversal with one open level comes to what the recursion on this level comes to.
theorem Walks.exists_level {listed : List ν} {ended : Ended ε σ}
    (h : Walks host [⟨root, listed⟩] walker s ended) :
    ∃ level, Descends host root listed s level ∧ ended.host = level.host ∧
      ended.result = level.result?.getD (.ok .completed) ∧
      ended.walker.visited = walker.visited + level.visits := by
  obtain ⟨visits, hv, hu⟩ := h.unwinds
  generalize ended.result = result at hu ⊢
  generalize ended.host = t at hu ⊢
  cases hu with
  | stopped level => exact ⟨_, level, rfl, rfl, hv⟩
  | finished level rest =>
      cases rest
      exact ⟨_, level, rfl, rfl, hv⟩

theorem Ended.accounts_of_run {fuel : Nat} {ended : Ended ε (σ × List (Exchange ν δ ε))}
    (h : run host.logged fuel root walker (s, []) = some ended) :
    ended.Accounts root walker := by
  rcases hc : host.logged.children root (s, []) with ⟨error | listed, t⟩ <;>
    simp only [run, hc] at h
  · cases h
    have hlog : t.2 = [.listed root (.error error)] := Host.log_of_children hc
    constructor <;> rw [hlog]
    · rfl
    · rfl
    · exact Nat.le_refl 0
    · intro h
      cases h
    · intro source hu
      cases hu _ (.head _)
  · obtain ⟨level, hd, hhost, hresult, hvisited⟩ := (walks_of_walk fuel _ walker t h).exists_level
    obtain ⟨log, hl, ha⟩ := hd.exists_log
    have hlog : ended.host.2 = .listed root (.ok listed) :: log := by
      rw [hhost, hl, Host.log_of_children hc]
      rfl
    constructor <;> rw [hlog]
    · rw [hvisited, ha.visits, visitsIn_listed]
    · rw [listingsIn_listed, recursionsIn_listed, ha.listings]
      exact Nat.add_comm _ 1
    · rw [visitsIn_listed, nodesIn_listed]
      exact ha.le
    · intro hcompleted
      have hnone : level.result? = none := by
        rcases hr : level.result? with _ | result
        · rfl
        · rw [hresult, hr] at hcompleted
          exact absurd (hr.trans (congrArg some hcompleted)) hd.result?_ne
      rw [visitsIn_listed, nodesIn_listed]
      exact ha.eq hnone
    · intro source hu
      obtain ⟨hroot, hbelow⟩ := List.forall_mem_cons.mp hu
      obtain ⟨hnone, hcard⟩ := ha.unfolded source hbelow
      have hlisted : listed = source root := Except.ok.inj hroot
      rw [hresult, hnone, ← beneath_root, ← hlisted, hcard, visitsIn_listed]
      exact ⟨rfl, rfl⟩

end Ended

-- A traversal returns if its visitor asks for more only finitely often, however its nodes are
-- connected, and also if there is no endless descent in what is listed for the root and below it,
-- whatever its visitor answers. By then each answer that asked for more has led to one listing
-- after that of the root, and no node was visited that was not listed; if it was completed, all of
-- them were. If nothing failed and everything was asked for, these are the places below the root.
theorem run_returns_and_accounts (host : Host ν δ ε σ) (root : ν) (walker : Walker) (s : σ) :
    ((∃ bound, ∀ stack t log, Passes host.logged root (s, []) stack (t, log) →
      recursionsIn log ≤ bound) → Returns host root walker s) ∧
    (Acc (host.Lists root s) root → Returns host root walker s) ∧
    (Acc host.ChildOf root → Returns host root walker s) ∧
    (∀ fuel, run host fuel root walker s =
      (run host.logged fuel root walker (s, [])).map (.map Prod.fst)) ∧
    (∀ fuel ended, run host.logged fuel root walker (s, []) = some ended →
      ended.Accounts root walker) := by
  refine ⟨fun ⟨bound, hb⟩ => returns_of_recursions_le hb, returns_of_acc, fun h => ?_,
    fun fuel => ?_, fun fuel ended => Ended.accounts_of_run⟩
  · exact returns_of_acc (Subrelation.accessible Host.Lists.childOf h)
  · exact run_map host.logged_projects fuel root walker (s, [])

-- One node that is listed twice as a child of itself. So many times it is asked for more.
def circling : Host Nat String String Nat where
  children _ left := (.ok [0, 0], left)
  visit _ _ left := (if left = 0 then .ok .next else .ok .recurse, left - 1)
  convert := id

theorem circling_keeps : Host.Keeps (fun s t => recursionsIn t.2 + t.1 = recursionsIn s.2 + s.1)
    circling.logged where
  refl _ := rfl
  trans h h' := h'.trans h
  children _ s := by
    simp only [Host.logged, circling, recursionsIn_append]
    rfl
  visit child parent s := by
    obtain ⟨left, log⟩ := s
    cases left with
    | zero => simp only [Host.logged, circling, recursionsIn_append]; rfl
    | succ left =>
        have hone : recursionsIn [(.visited child parent (.ok .recurse) :
          Exchange Nat String String)] = 1 := rfl
        simp only [Host.logged, circling, recursionsIn_append, Nat.succ_ne_zero, if_false, hone]
        omega

-- Everything is asked for, and some nodes are listed more than once.
def unfolding : Host Nat String String Unit where
  children node s := (.ok (shared node), s)
  visit _ _ s := (.ok .recurse, s)
  convert := id

theorem unfolding_keeps : Host.Keeps (fun s t => (∀ exchange ∈ s.2, exchange.Unfolds shared) →
    ∀ exchange ∈ t.2, exchange.Unfolds shared) unfolding.logged where
  refl _ := id
  trans h h' := h' ∘ h
  children _ _ hs := List.forall_mem_append.mpr ⟨hs, List.forall_mem_singleton.mpr rfl⟩
  visit _ _ _ hs := List.forall_mem_append.mpr ⟨hs, List.forall_mem_singleton.mpr rfl⟩

theorem acc_unfolding : Acc unfolding.ChildOf 0 := by
  refine Subrelation.accessible ?_ (acc_of_finite finite_shared)
  rintro child parent ⟨_, listed, _, hc, hm⟩
  cases hc
  exact hm

theorem run_returns_and_accounts_of_samples :
    Returns circling 0 {} 2 ∧
    (∃ ended, run circling.logged 9 0 {} (2, []) = some ended ∧ ended.Accounts 0 {} ∧
      listingsIn ended.host.2 = 3 ∧ visitsIn ended.host.2 = 6) ∧
    Returns unfolding 0 {} () ∧
    {p | p ≠ [] ∧ (nodeAt? shared 0 p).isSome}.encard = 5 := by
  have hcircling := run_returns_and_accounts circling 0 {} 2
  have hunfolding := run_returns_and_accounts unfolding 0 {} ()
  refine ⟨hcircling.1 ⟨2, fun stack t log passes => ?_⟩, ?_, hunfolding.2.2.1 acc_unfolding, ?_⟩
  · have hkept := passes.keeps circling_keeps
    exact Nat.le_of_add_right_le (Nat.le_of_eq hkept)
  · exact ⟨_, rfl, hcircling.2.2.2.2 9 _ rfl, rfl, rfl⟩
  · obtain ⟨ended, hrun, hvisits⟩ : ∃ ended, run unfolding.logged 11 0 {} ((), []) = some ended ∧
      visitsIn ended.host.2 = 5 := ⟨_, rfl, rfl⟩
    obtain ⟨-, hcard⟩ := (hunfolding.2.2.2.2 11 ended hrun).unfolded shared
      (run_keeps unfolding_keeps hrun nofun)
    rw [hcard, hvisits]
    rfl

end SyntaxHandles.Traversal
