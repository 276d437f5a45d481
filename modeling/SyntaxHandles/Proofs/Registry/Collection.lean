import SyntaxHandles.Token
import SyntaxHandles.Proofs.Registry.Issued
import Mathlib.Logic.Relation

-- Any number of registries, used in any order and at any depth. Whichever way one of them is asked
-- about an identity, it says the same.

namespace SyntaxHandles

section Tokens

variable {ρ ν : Type} {registry : Registry ρ} (token : Token ν)

theorem Token.unwrap_of_isAlive {alive : Bool} (hk : token.owner.kind = .translationUnit)
    (ha : registry.isAlive token.owner = .ok alive) :
    token.unwrap registry = .ok (if alive then .ok token.raw
      else .error (.invalidHandle token.owner Refusal.unitGone)) := by
  cases alive <;>
    simp [unwrap, Registry.checkOwner, hk, ha, bind, Except.bind, pure, Except.pure, Except.map]

-- The registry is not even asked about an owner of another kind.
theorem Token.unwrap_of_kind_ne (hk : token.owner.kind ≠ .translationUnit) :
    token.unwrap registry =
      .ok (.error (.invalidHandle token.owner Refusal.notOwnedByUnit)) := by
  simp [unwrap, Registry.checkOwner, hk, bind, Except.bind, pure, Except.pure, Except.map]

end Tokens

-- An identity that a registry gave out, and the resource that it gave it out for.
structure Grant (ρ : Type) where
  key : Nat
  id : ResourceId
  resource : ρ

-- Registries that were not made yet are there as well, and empty.
structure Collection (ρ : Type) where
  registries : Nat → Registry ρ := fun key => { id := UInt32.ofNat key }
  made : Nat := 0
  -- Newest first.
  grants : List (Grant ρ) := []

namespace Collection

variable {ρ : Type}

def withRegistry (c : Collection ρ) (key : Nat) (registry : Registry ρ) : Collection ρ :=
  { c with registries := fun k => if k = key then registry else c.registries k }

def granting (c : Collection ρ) (grant : Grant ρ) : Collection ρ :=
  { c with grants := grant :: c.grants }

-- How many identities a registry gave out.
def count (c : Collection ρ) (key : Nat) : Nat :=
  c.grants.countP (·.key = key)

def Few (c : Collection ρ) : Prop :=
  ∀ key, c.count key < UInt32.size

section Fields

variable {c : Collection ρ} {key k : Nat} {registry : Registry ρ}

@[simp] theorem granting_registries (grant : Grant ρ) :
    (c.granting grant).registries = c.registries := rfl

@[simp] theorem withRegistry_count : (c.withRegistry key registry).count k = c.count k := rfl

theorem withRegistry_same : (c.withRegistry key registry).registries key = registry :=
  if_pos rfl

theorem withRegistry_of_ne (hk : k ≠ key) :
    (c.withRegistry key registry).registries k = c.registries k :=
  if_neg hk

theorem count_granting (c : Collection ρ) (grant : Grant ρ) :
    (c.granting grant).count key = c.count key + if grant.key = key then 1 else 0 := by
  simp only [count, granting, List.countP_cons, decide_eq_true_eq]

end Fields

-- The least that is done to a registry at a time. Constructors, releases and what is done while a
-- resource is looked at are further steps, wherever they stand in a program.
inductive Step (c : Collection ρ) : Collection ρ → Prop
  | make : Step c { c with made := c.made + 1 }
  | acquire {key : Nat} {kind : ResourceKind} {resource : ρ} {id : ResourceId}
      {displaced : Option ρ} {registry : Registry ρ} (has : key ≤ c.made)
      (register : (c.registries key).register kind resource = .ok (id, displaced, registry)) :
      Step c ((c.withRegistry key registry).granting ⟨key, id, resource⟩)
  | dispose {key : Nat} {id : ResourceId} {resource? : Option ρ} {registry : Registry ρ}
      (take : (c.registries key).take id = .ok (resource?, registry)) :
      Step c (c.withRegistry key registry)
  | disposeNewest {key : Nat} {resource? : Option ρ} {registry : Registry ρ}
      (takeNewest : (c.registries key).takeNewest = .ok (resource?, registry)) :
      Step c (c.withRegistry key registry)
  -- Accesses to the entries begin and end.
  | access (key : Nat) (borrow : Borrow) :
      Step c (c.withRegistry key { c.registries key with borrow })

abbrev Steps : Collection ρ → Collection ρ → Prop :=
  Relation.ReflTransGen Step

-- What was given out tells identities and resources apart, and every entry was given out.
structure Ruled (c : Collection ρ) : Prop where
  ids : ∀ key, (c.registries key).id = UInt32.ofNat key
  issued : ∀ key, (c.registries key).Issued (c.count key)
  granted : ∀ grant ∈ c.grants, grant.key ≤ c.made ∧
    grant.id.registry = UInt32.ofNat grant.key ∧ grant.id.serial.toNat ≤ c.count grant.key
  unique : ∀ grant ∈ c.grants, ∀ other ∈ c.grants, grant.key = other.key →
    grant.id.serial = other.id.serial → grant = other
  stored : ∀ key, ∀ entry ∈ (c.registries key).live,
    ⟨key, (c.registries key).identity entry, entry.resource⟩ ∈ c.grants

theorem ruled_new : Ruled ({} : Collection ρ) where
  ids _ := rfl
  issued _ := .fresh _
  granted _ h := nomatch h
  unique _ h := nomatch h
  stored _ _ h := nomatch h

section Steps

variable {c d : Collection ρ} {key : Nat} {registry : Registry ρ}

-- A registry that loses entries, or lets its accesses begin and end.
theorem Ruled.withRegistry (h : Ruled c) (hid : registry.id = (c.registries key).id)
    (hnext : registry.nextSerial = (c.registries key).nextSerial)
    (hlive : registry.live.Sublist (c.registries key).live) :
    Ruled (c.withRegistry key registry) where
  ids k := by
    by_cases hk : k = key
    · rw [hk, withRegistry_same, hid, h.ids]
    · rw [withRegistry_of_ne hk, h.ids]
  issued k := by
    by_cases hk : k = key
    · rw [hk, withRegistry_same]
      have hi := h.issued key
      exact ⟨hnext.trans hi.next, hi.descending.sublist hlive,
        fun entry hm => hi.given entry (hlive.subset hm)⟩
    · rw [withRegistry_of_ne hk]
      exact h.issued k
  granted := h.granted
  unique := h.unique
  stored k entry hm := by
    by_cases hk : k = key
    · subst hk
      rw [withRegistry_same] at hm ⊢
      have hs := h.stored k entry (hlive.subset hm)
      simp only [Registry.identity, hid] at hs ⊢
      exact hs
    · rw [withRegistry_of_ne hk] at hm ⊢
      exact h.stored k entry hm

-- A registry that tracks one more resource, under the next serial.
theorem Ruled.grown (h : Ruled c) (has : key ≤ c.made) (few : c.count key + 1 < UInt32.size)
    (kind : ResourceKind) (resource : ρ) :
    Ruled ((c.withRegistry key ((c.registries key).grown (c.count key) kind resource)).granting
      ⟨key, ⟨(c.registries key).id, UInt32.ofNat (c.count key + 1), kind⟩, resource⟩) := by
  have hserial := Registry.toNat_ofNat_of_lt few
  have hnew : ∀ grant ∈ c.grants, grant.key = key →
      grant.id.serial ≠ UInt32.ofNat (c.count key + 1) := fun grant hm hk he => by
    have hle := (h.granted grant hm).2.2
    rw [hk, he, hserial] at hle
    omega
  refine ⟨fun k => ?_, fun k => ?_, fun grant hm => ?_, fun grant hm other ho hk hs => ?_,
    fun k entry hm => ?_⟩
  · rw [granting_registries]
    by_cases hk : k = key
    · rw [hk, withRegistry_same]
      exact h.ids key
    · rw [withRegistry_of_ne hk, h.ids]
  · rw [granting_registries, count_granting, withRegistry_count]
    by_cases hk : key = k
    · subst hk
      rw [if_pos rfl, withRegistry_same]
      exact (h.issued key).grown few kind resource
    · rw [if_neg hk, withRegistry_of_ne (Ne.symm hk)]
      exact h.issued k
  · rw [count_granting, withRegistry_count]
    rcases List.mem_cons.mp hm with rfl | hm
    · refine ⟨has, h.ids key, ?_⟩
      rw [if_pos rfl]
      exact Nat.le_of_eq hserial
    · obtain ⟨hmade, hid, hle⟩ := h.granted grant hm
      exact ⟨hmade, hid, Nat.le_add_right_of_le hle⟩
  · rcases List.mem_cons.mp hm with rfl | hm <;> rcases List.mem_cons.mp ho with rfl | ho
    · rfl
    · exact absurd hs.symm (hnew other ho hk.symm)
    · exact absurd hs (hnew grant hm hk)
    · exact h.unique grant hm other ho hk hs
  · rw [granting_registries] at hm ⊢
    by_cases hk : k = key
    · subst hk
      rw [withRegistry_same] at hm ⊢
      rcases List.mem_cons.mp hm with rfl | hm
      · exact .head _
      · exact .tail _ (h.stored k entry hm)
    · rw [withRegistry_of_ne hk] at hm ⊢
      exact .tail _ (h.stored k entry hm)

theorem Step.count_le (h : Step c d) (key : Nat) : c.count key ≤ d.count key := by
  cases h with
  | acquire =>
      rw [count_granting]
      exact Nat.le_add_right _ _
  | make | dispose | disposeNewest | access => exact Nat.le_refl _

theorem Ruled.step (h : Ruled c) (hs : Step c d) (few : d.Few) : Ruled d := by
  cases hs with
  | make =>
      exact ⟨h.ids, h.issued, fun grant hm => ⟨Nat.le_succ_of_le (h.granted grant hm).1,
        (h.granted grant hm).2⟩, h.unique, h.stored⟩
  | @acquire key kind resource id displaced registry has register =>
      have hcount := few key
      rw [count_granting, if_pos rfl, withRegistry_count] at hcount
      have hfree : (c.registries key).borrow = .free := by
        by_contra hb
        rw [Registry.register_of_borrowed hb] at register
        exact nomatch register
      rw [(h.issued key).register_eq hcount hfree] at register
      simp only [Except.ok.injEq, Prod.mk.injEq] at register
      obtain ⟨rfl, -, rfl⟩ := register
      exact h.grown has hcount kind resource
  | dispose take =>
      obtain ⟨hnext, hlive⟩ := Registry.take_sublist take
      exact h.withRegistry (Registry.take_eq_ok take).1 hnext hlive
  | disposeNewest takeNewest =>
      obtain ⟨hnext, hlive⟩ := Registry.takeNewest_sublist takeNewest
      exact h.withRegistry (Registry.takeNewest_eq_ok takeNewest).1 hnext hlive
  | access key borrow => exact h.withRegistry rfl rfl (.refl _)

theorem Steps.ruled (h : Steps {} c) (few : c.Few) : Ruled c := by
  induction h with
  | refl => exact ruled_new
  | tail _ last ih =>
      exact (ih fun key => Nat.lt_of_le_of_lt (last.count_le key) (few key)).step last few

end Steps

section Views

variable {c : Collection ρ} {key : Nat} {grant : Grant ρ}

-- A resource that has an entry under an identity is the one that the identity was given out for.
theorem Ruled.mem_or_dead (h : Ruled c) (hm : grant ∈ c.grants) :
    (∃ entry ∈ (c.registries grant.key).live,
        (c.registries grant.key).identity entry = grant.id ∧ entry.resource = grant.resource) ∨
      ∀ entry ∈ (c.registries grant.key).live, entry.serial ≠ grant.id.serial := by
  by_cases hlive : ∃ entry ∈ (c.registries grant.key).live, entry.serial = grant.id.serial
  · obtain ⟨entry, he, hs⟩ := hlive
    have hsame := h.unique _ (h.stored grant.key entry he) grant hm rfl hs
    exact .inl ⟨entry, he, congrArg Grant.id hsame, congrArg Grant.resource hsame⟩
  · exact .inr fun entry he hs => hlive ⟨entry, he, hs⟩

theorem Ruled.foreign (h : Ruled c) (made : c.made < UInt32.size) (hm : grant ∈ c.grants)
    (has : key ≤ c.made) (hk : grant.key ≠ key) :
    grant.id.registry ≠ (c.registries key).id := by
  obtain ⟨hmade, hid, -⟩ := h.granted grant hm
  rw [hid, h.ids]
  exact fun he => hk (Registry.eq_of_ofNat (Nat.lt_of_le_of_lt hmade made)
    (Nat.lt_of_le_of_lt has made) he)

theorem unwrap_eq {ν : Type} {registry : Registry ρ} {id : ResourceId} {alive : Bool}
    (ha : registry.isAlive id = .ok alive) (raw : ν) :
    (Token.wrap raw id).unwrap registry = .ok (
      if id.kind = .translationUnit then
        if alive then .ok raw else .error (.invalidHandle id Refusal.unitGone)
      else .error (.invalidHandle id Refusal.notOwnedByUnit)) := by
  by_cases hk : id.kind = .translationUnit
  · rw [if_pos hk]
    exact Token.unwrap_of_isAlive (Token.wrap raw id) hk ha
  · rw [if_neg hk]
    exact Token.unwrap_of_kind_ne (Token.wrap raw id) hk

-- Whether an identity is alive is answered, and the same in all four ways to ask: by name, by
-- disposing of it, by a look at its resource and by its tokens. A refusal says why.
theorem liveness_views_agree (reached : Steps {} c) (few : c.Few) (made : c.made < UInt32.size)
    (given : grant ∈ c.grants) (has : key ≤ c.made) (free : (c.registries key).borrow = .free) :
    ∃ alive : Bool, (alive = true → grant.key = key) ∧
      (c.registries key).isAlive grant.id = .ok alive ∧
      (∃ after, (c.registries key).take grant.id =
        .ok (if alive then some grant.resource else none, after)) ∧
      (∀ (α : Type) (view : ρ → Option α), (c.registries key).look grant.id view = .ok (
        if grant.key ≠ key then .error (.invalidHandle grant.id Refusal.otherSession)
        else if alive = false then .error (.invalidHandle grant.id Refusal.disposed)
        else match view grant.resource with
          | some a => .ok a
          | none => .error (.invalidHandle grant.id Refusal.typeMismatch))) ∧
      ∀ (ν : Type) (raw : ν), (Token.wrap raw grant.id).unwrap (c.registries key) = .ok (
        if grant.id.kind = .translationUnit then
          if alive then .ok raw else .error (.invalidHandle grant.id Refusal.unitGone)
        else .error (.invalidHandle grant.id Refusal.notOwnedByUnit)) := by
  have h := reached.ruled few
  have hi := h.issued key
  have hb : (c.registries key).borrow ≠ .exclusive := by simp [free]
  by_cases hk : grant.key = key
  · subst hk
    rcases h.mem_or_dead given with ⟨entry, hm, hid, hres⟩ | hgone
    · have ha := hi.isAlive_of_mem hb hm
      rw [hid] at ha
      have htake := hi.take_of_mem free hm
      rw [hid, hres] at htake
      refine ⟨true, fun _ => rfl, ha, ⟨_, htake⟩, fun α view => ?_, fun ν raw => unwrap_eq ha raw⟩
      have hl := hi.look_of_mem hb hm view
      rw [hid, hres] at hl
      refine hl.trans ?_
      cases view grant.resource <;> simp
    · have hd : (c.registries grant.key).Dead grant.id := fun entry hm he =>
        hgone entry hm (congrArg ResourceId.serial he)
      have ha := Registry.isAlive_of_dead hb hd
      refine ⟨false, nofun, ha, ⟨_, Registry.take_of_dead hb hd⟩, fun α view => ?_,
        fun ν raw => unwrap_eq ha raw⟩
      have hr : grant.id.registry = (c.registries grant.key).id := by
        rw [h.ids]
        exact (h.granted grant given).2.1
      rw [Registry.look_of_gone hb hr hgone view, if_neg (not_not.mpr rfl), if_pos rfl]
  · have hr := h.foreign made given has hk
    have hd : (c.registries key).Dead grant.id := fun entry _ he =>
      hr (congrArg ResourceId.registry he).symm
    have ha := Registry.isAlive_of_dead hb hd
    refine ⟨false, nofun, ha, ⟨_, Registry.take_of_dead hb hd⟩, fun α view => ?_,
      fun ν raw => unwrap_eq ha raw⟩
    rw [Registry.look_of_foreign hr view, if_pos hk]

-- Two registries, and a unit in the first one.
def sample : Collection String :=
  (withRegistry { made := 2 } 1
    { id := 1, nextSerial := 2, live := [⟨1, .translationUnit, "a"⟩] }).granting
      ⟨1, ⟨1, 1, .translationUnit⟩, "a"⟩

theorem liveness_views_agree_of_sample :
    (sample.registries 1).isAlive ⟨1, 1, .translationUnit⟩ = .ok true ∧
      (sample.registries 1).look ⟨1, 1, .translationUnit⟩ some = .ok (.ok "a") ∧
      (sample.registries 2).look ⟨1, 1, .translationUnit⟩ some = .ok (.error
        (.invalidHandle ⟨1, 1, .translationUnit⟩ Refusal.otherSession)) := by
  have reached : Steps {} sample :=
    .tail (.tail (.single .make) .make) (.acquire (by decide) (show Registry.register _ _ _ =
      .ok (⟨1, 1, .translationUnit⟩, none,
        { id := 1, nextSerial := 2, live := [⟨1, .translationUnit, "a"⟩] }) from rfl))
  have few : sample.Few := fun key => by
    have hle : sample.count key ≤ 1 := List.countP_le_length
    exact Nat.lt_of_le_of_lt hle (by decide)
  obtain ⟨alive, -, ha, -, hl, -⟩ :=
    liveness_views_agree reached few (by decide) (.head _) (show 1 ≤ sample.made by decide) rfl
  obtain ⟨other, -, -, -, hforeign, -⟩ :=
    liveness_views_agree reached few (by decide) (.head _) (show 2 ≤ sample.made by decide) rfl
  obtain rfl : alive = true := (Except.ok.inj ha).symm
  exact ⟨ha, hl String some, hforeign String some⟩

end Views

end Collection

end SyntaxHandles
