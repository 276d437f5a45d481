import Mathlib.Algebra.GroupWithZero.Nat
import SyntaxHandles.Proofs.Keys
import SyntaxHandles.Proofs.Registry.Recorded

-- What holds of a store at every point of a run where other steps may run: who holds the
-- registries, which of them are looked into, and what running the steps at all releases may still
-- cost.

namespace SyntaxHandles

-- The accesses to entries while they are looked at this many times.
def Borrow.ofLooks : Nat → Borrow
  | 0 => .free
  | others + 1 => .shared others

theorem Borrow.ofLooks_ne_exclusive (looks : Nat) : ofLooks looks ≠ .exclusive := by
  cases looks <;> exact nofun

namespace RegistryScript

-- What is under way: operations on registries, looks into them, which are operations too, and
-- registries that are being ended.
structure Context where
  operations : Nat → Nat
  looks : Nat → Nat
  looking : ∀ key, looks key ≤ operations key
  ending : Nat → Prop

namespace Context

def none : Context where
  operations _ := 0
  looks _ := 0
  looking _ := Nat.le_refl 0
  ending _ := False

def entering (context : Context) (key : Nat) : Context where
  operations k := context.operations k + if k = key then 1 else 0
  looks := context.looks
  looking k := Nat.le_add_right_of_le (context.looking k)
  ending := context.ending

def lookingInto (context : Context) (key : Nat) : Context where
  operations k := context.operations k + if k = key then 1 else 0
  looks k := context.looks k + if k = key then 1 else 0
  looking k := Nat.add_le_add_right (context.looking k) _
  ending := context.ending

def endingOf (context : Context) (key : Nat) : Context where
  operations := context.operations
  looks := context.looks
  looking := context.looking
  ending k := k = key ∨ context.ending k

end Context

structure Held (context : Context) (store : Store) : Prop where
  borrow : ∀ key, (store.registries key).borrow = .ofLooks (context.looks key)
  holders : ∀ key, store.holders key = store.labels.countP (·.2 = key) + context.operations key
  ended : ∀ key, store.holders key = 0 → context.ending key ∨ (store.registries key).live = []
  unmade : ∀ key, store.created < key →
    store.holders key = 0 ∧ (store.registries key).live = []
  labels : (store.labels.map Prod.fst).Nodup

namespace Store

def holding (store : Store) (key : Nat) : Store :=
  { store with holders := fun k => if k = key then store.holders k + 1 else store.holders k }

def unholding (store : Store) (key : Nat) : Store :=
  { store with holders := fun k => if k = key then store.holders k - 1 else store.holders k }

def unbound (store : Store) (label : String) : Store :=
  { store with labels := store.labels.filter (·.1 ≠ label) }

def making (store : Store) (label : String) : Store :=
  ({ store with
      created := store.created + 1
      labels := (label, store.created + 1) :: store.labels } : Store).holding (store.created + 1)

end Store

section Labels

variable {labels : List (String × Nat)} {label : String} {key : Nat}

theorem lookup_eq_none (hl : labels.lookup label = none) : label ∉ labels.map Prod.fst := by
  induction labels with
  | nil => exact List.not_mem_nil
  | cons bound rest ih =>
      obtain ⟨other, k⟩ := bound
      by_cases he : label = other
      · simp [he] at hl
      · simp only [List.lookup_cons, beq_eq_false_iff_ne.mpr he] at hl
        simpa [he] using ih hl

theorem filter_of_not_mem (hl : label ∉ labels.map Prod.fst) :
    labels.filter (·.1 ≠ label) = labels := by
  refine List.filter_eq_self.mpr fun bound hm => ?_
  have hne : bound.1 ≠ label := fun he => hl (he ▸ List.mem_map_of_mem hm)
  simpa using hne

theorem not_mem_filter (labels : List (String × Nat)) (label : String) :
    label ∉ (labels.filter (·.1 ≠ label)).map Prod.fst := by
  intro hm
  obtain ⟨bound, hb, he⟩ := List.mem_map.mp hm
  have hne : bound.1 ≠ label := by simpa using (List.mem_filter.mp hb).2
  exact hne he

-- A label is bound once, so that the registry behind it has one bound label less without it.
theorem countP_of_lookup (hn : (labels.map Prod.fst).Nodup)
    (hl : labels.lookup label = some key) (k : Nat) :
    labels.countP (·.2 = k) =
      (labels.filter (·.1 ≠ label)).countP (·.2 = k) + if k = key then 1 else 0 := by
  induction labels with
  | nil => exact nomatch hl
  | cons bound rest ih =>
      obtain ⟨other, v⟩ := bound
      obtain ⟨hother, hn⟩ := List.nodup_cons.mp hn
      by_cases he : label = other
      · subst he
        obtain rfl : v = key := by simpa using hl
        rw [List.filter_cons_of_neg (by simp), filter_of_not_mem hother, List.countP_cons]
        by_cases hk : k = v
        · simp [hk]
        · simp [hk, Ne.symm hk]
      · simp only [List.lookup_cons, beq_eq_false_iff_ne.mpr he] at hl
        rw [List.filter_cons_of_pos (by simpa using Ne.symm he), List.countP_cons, List.countP_cons,
          ih hn hl]
        omega

end Labels

namespace Held

variable {context : Context} {store : Store} {key : Nat}

theorem noted (h : Held context store) (event : Event) : Held context (store.noted event) :=
  ⟨h.borrow, h.holders, h.ended, h.unmade, h.labels⟩

-- Another registry is put in place of one, perhaps with looks into it that have begun or ended.
theorem replace (h : Held context store) {after : Context} {registry : Registry Resource}
    (ho : after.operations = context.operations) (he : after.ending = context.ending)
    (hlooks : ∀ k, k ≠ key → after.looks k = context.looks k)
    (hb : registry.borrow = .ofLooks (after.looks key))
    (hl : (store.registries key).live = [] → registry.live = [] ∨ store.holders key ≠ 0) :
    Held after (store.withRegistry key registry) where
  borrow k := by
    by_cases hk : k = key
    · rw [hk, store.withRegistry_same, hb]
    · rw [Store.withRegistry_of_ne hk, hlooks k hk, h.borrow]
  holders := ho ▸ h.holders
  ended k hz := by
    rw [he]
    by_cases hk : k = key
    · subst hk
      rw [store.withRegistry_same]
      exact (h.ended k hz).imp_right fun hnone => (hl hnone).resolve_right fun hn => hn hz
    · rw [Store.withRegistry_of_ne hk]
      exact h.ended k hz
  unmade k hu := by
    obtain ⟨hz, hnone⟩ := h.unmade k hu
    by_cases hk : k = key
    · subst hk
      rw [store.withRegistry_same]
      exact ⟨hz, (hl hnone).resolve_right fun hn => hn hz⟩
    · rw [Store.withRegistry_of_ne hk]
      exact ⟨hz, hnone⟩
  labels := h.labels

theorem withRegistry (h : Held context store) {registry : Registry Resource}
    (hb : registry.borrow = (store.registries key).borrow)
    (hl : (store.registries key).live = [] → registry.live = [] ∨ store.holders key ≠ 0) :
    Held context (store.withRegistry key registry) :=
  h.replace rfl rfl (fun _ _ => rfl) (hb.trans (h.borrow key)) hl

theorem share (h : Held (context.entering key) store) :
    Held (context.lookingInto key) (store.withRegistry key (store.registries key).share) := by
  have hb : (store.registries key).borrow = .ofLooks (context.looks key) := h.borrow key
  refine h.replace rfl rfl (fun k hk => ?_) ?_ fun hnone => .inl ?_
  · simp only [Context.lookingInto, Context.entering, if_neg hk, Nat.add_zero]
  · simp only [Context.lookingInto, if_true]
    cases hl : context.looks key <;> simp [Registry.share, hb, hl, Borrow.ofLooks]
  · cases hl : context.looks key <;> simpa [Registry.share, hb, hl, Borrow.ofLooks] using hnone

theorem unshare (h : Held (context.lookingInto key) store) :
    Held (context.entering key) (store.withRegistry key (store.registries key).unshare) := by
  have hb : (store.registries key).borrow = .ofLooks (context.looks key + 1) := by
    simpa only [Context.lookingInto, if_true] using h.borrow key
  refine h.replace rfl rfl (fun k hk => ?_) ?_ fun hnone => .inl ?_
  · simp only [Context.lookingInto, Context.entering, if_neg hk, Nat.add_zero]
  · simp only [Context.entering]
    cases hl : context.looks key <;> simp [Registry.unshare, hb, hl, Borrow.ofLooks]
  · cases hl : context.looks key <;> simpa [Registry.unshare, hb, hl, Borrow.ofLooks] using hnone

theorem hold (h : Held context store) (hk : key ≤ store.created) :
    Held (context.entering key) (store.holding key) where
  borrow := h.borrow
  holders k := by
    have hh := h.holders k
    simp only [Store.holding, Context.entering]
    split <;> omega
  ended k hz := by
    simp only [Store.holding] at hz
    split at hz
    · omega
    · exact h.ended k hz
  unmade k hu := by
    have hne : k ≠ key := by
      simp only [Store.holding] at hu
      omega
    simpa only [Store.holding, if_neg hne] using h.unmade k hu
  labels := h.labels

theorem holders_unholding (h : Held (context.entering key) store) (k : Nat) :
    (store.unholding key).holders k = store.labels.countP (·.2 = k) + context.operations k := by
  have hh := h.holders k
  simp only [Store.unholding, Context.entering] at hh ⊢
  split at hh <;> simp_all

-- The last one to hold a registry ends it.
theorem unhold_last (h : Held (context.entering key) store) :
    Held (context.endingOf key) (store.unholding key) where
  borrow := h.borrow
  holders := h.holders_unholding
  ended k hz := by
    by_cases hk : k = key
    · exact .inl (.inl hk)
    · simp only [Store.unholding, if_neg hk] at hz
      exact (h.ended k hz).imp_left .inr
  unmade k hu := by
    obtain ⟨hz, he⟩ := h.unmade k hu
    refine ⟨?_, he⟩
    simp only [Store.unholding, hz]
    split <;> rfl
  labels := h.labels

theorem unhold (h : Held (context.entering key) store) (hn : ¬store.holders key ≤ 1) :
    Held context (store.unholding key) where
  borrow := h.borrow
  holders := h.holders_unholding
  ended k hz := by
    by_cases hk : k = key
    · subst hk
      simp only [Store.unholding, if_true] at hz
      omega
    · simp only [Store.unholding, if_neg hk] at hz
      exact h.ended k hz
  unmade := h.unhold_last.unmade
  labels := h.labels

theorem finish (h : Held (context.endingOf key) store) (he : (store.registries key).live = []) :
    Held context store where
  borrow := h.borrow
  holders := h.holders
  ended k hz := by
    rcases h.ended k hz with (rfl | hk) | hk
    · exact .inr he
    · exact .inl hk
    · exact .inr hk
  unmade := h.unmade
  labels := h.labels

theorem holders_ne_zero (h : Held (context.entering key) store) : store.holders key ≠ 0 := by
  have hh := h.holders key
  simp only [Context.entering, if_true] at hh
  omega

theorem le_created (h : Held context store) (hh : store.holders key ≠ 0) : key ≤ store.created := by
  by_contra hn
  exact hh (h.unmade key (by omega)).1

theorem holders_of_lookup (h : Held context store) {label : String}
    (hl : store.labels.lookup label = some key) : store.holders key ≠ 0 := by
  have hh := h.holders key
  have hc := countP_of_lookup h.labels hl key
  rw [if_pos rfl] at hc
  omega

theorem unbind (h : Held context store) {label : String}
    (hl : store.labels.lookup label = some key) :
    Held (context.entering key) (store.unbound label) where
  borrow := h.borrow
  holders k := by
    have hh := h.holders k
    rw [countP_of_lookup h.labels hl k] at hh
    simp only [Store.unbound, Context.entering]
    omega
  ended := h.ended
  unmade := h.unmade
  labels := h.labels.sublist (List.filter_sublist.map Prod.fst)

theorem making (h : Held context store) {label : String}
    (hl : label ∉ store.labels.map Prod.fst) : Held context (store.making label) where
  borrow := h.borrow
  holders k := by
    have hh := h.holders k
    simp only [Store.making, Store.holding, List.countP_cons, decide_eq_true_eq]
    by_cases hk : k = store.created + 1
    · rw [if_pos hk, if_pos hk.symm]
      omega
    · rw [if_neg hk, if_neg (Ne.symm hk)]
      omega
  ended k hz := by
    simp only [Store.making, Store.holding] at hz
    split at hz
    · omega
    · exact h.ended k hz
  unmade k hu := by
    simp only [Store.making, Store.holding] at hu ⊢
    rw [if_neg (by omega)]
    exact h.unmade k (by omega)
  labels := List.nodup_cons.mpr ⟨hl, h.labels⟩

end Held

theorem weights_pos (steps : List Step) : 0 < weights steps := by
  cases steps <;> rw [weights] <;> omega

theorem Step.weight_pos (step : Step) : 0 < step.weight := by
  cases step <;> rw [Step.weight] <;> omega

-- What the release of a resource may take, in steps that run inside one another.
def Resource.cost (resource : Resource) : Nat :=
  match resource.contents with
  | .text => 1
  | .probe steps => weights steps + 1

theorem Resource.cost_pos (resource : Resource) : 0 < resource.cost := by
  rw [Resource.cost]
  split <;> omega

def costOf (registry : Registry Resource) : Nat :=
  (registry.live.map fun entry => entry.resource.cost).sum

namespace Store

def cost (store : Store) : Nat :=
  ((List.range (store.created + 1)).map fun key => costOf (store.registries key)).sum

theorem cost_eq {store : Store} {key : Nat} (hk : key ≤ store.created) :
    store.cost = costOf (store.registries key) +
      (((List.range (store.created + 1)).filter (· != key)).map
        fun k => costOf (store.registries k)).sum := by
  have hp := (perm_range (Nat.lt_succ_of_le hk)).map fun k => costOf (store.registries k)
  rw [cost, hp.sum_nat, List.map_cons, List.sum_cons]

theorem cost_withRegistry {store : Store} {key : Nat} (hk : key ≤ store.created)
    (registry : Registry Resource) :
    (store.withRegistry key registry).cost + costOf (store.registries key) =
      store.cost + costOf registry := by
  have hk' : key ≤ (store.withRegistry key registry).created := hk
  rw [cost_eq hk, cost_eq hk', withRegistry_same]
  have hrest : ((List.range (store.created + 1)).filter (· != key)).map
        (fun k => costOf ((store.withRegistry key registry).registries k)) =
      ((List.range (store.created + 1)).filter (· != key)).map
        fun k => costOf (store.registries k) :=
    List.map_congr_left fun k hm => by
      rw [withRegistry_of_ne (by simpa using (List.mem_filter.mp hm).2)]
  change _ + (((List.range (store.created + 1)).filter (· != key)).map
    (fun k => costOf ((store.withRegistry key registry).registries k))).sum + _ = _
  rw [hrest]
  omega

end Store

structure Kept (context : Context) (onWay : Option Nat) (budget : Nat) (store : Store) : Prop where
  recorded : Recorded onWay store
  held : Held context store
  cost : store.cost ≤ budget

namespace Kept

variable {context : Context} {onWay : Option Nat} {budget : Nat} {store : Store} {key : Nat}

theorem mono (h : Kept context onWay budget store) {more : Nat} (hb : budget ≤ more) :
    Kept context onWay more store :=
  ⟨h.recorded, h.held, Nat.le_trans h.cost hb⟩

theorem note_mute (h : Kept context onWay budget store) {event : Event} (hm : event.Mute)
    (ha : event.Allowed store.history) : Kept context onWay budget (store.noted event) :=
  ⟨h.recorded.note_mute hm ha, h.held.noted event, h.cost⟩

theorem build (h : Kept context none budget store) :
    Kept context (some store.built) budget
      (({ store with built := store.built + 1 } : Store).noted (.built store.built)) :=
  ⟨h.recorded.build, ⟨h.held.borrow, h.held.holders, h.held.ended, h.held.unmade, h.held.labels⟩,
    h.cost⟩

theorem release {n : Nat} (h : Kept context (some n) budget store)
    (hl : Loose store.history n) : Kept context none budget (store.noted (.released n)) :=
  ⟨h.recorded.release hl, h.held.noted _, h.cost⟩

-- A change of what holds the registries leaves everything else as it was.
theorem of_held (h : Kept context onWay budget store) {after : Store} {other : Context}
    (hheld : Held other after) (hh : after.history = store.history)
    (hr : after.registries = store.registries) (hb : after.built = store.built)
    (hc : after.cost = store.cost) : Kept other onWay budget after :=
  ⟨h.recorded.congr hh hr hb, hheld, hc ▸ h.cost⟩

theorem hold (h : Kept context onWay budget store) (hk : key ≤ store.created) :
    Kept (context.entering key) onWay budget (store.holding key) :=
  h.of_held (h.held.hold hk) rfl rfl rfl rfl

theorem hold_of_lookup (h : Kept context onWay budget store) {label : String}
    (hl : store.labels.lookup label = some key) :
    Kept (context.entering key) onWay budget (store.holding key) :=
  h.hold (h.held.le_created (h.held.holders_of_lookup hl))

theorem unhold (h : Kept (context.entering key) onWay budget store)
    (hn : ¬store.holders key ≤ 1) : Kept context onWay budget (store.unholding key) :=
  h.of_held (h.held.unhold hn) rfl rfl rfl rfl

theorem unhold_last (h : Kept (context.entering key) onWay budget store) :
    Kept (context.endingOf key) onWay budget (store.unholding key) :=
  h.of_held h.held.unhold_last rfl rfl rfl rfl

theorem finish (h : Kept (context.endingOf key) onWay budget store)
    (he : (store.registries key).live = []) : Kept context onWay budget store :=
  h.of_held (h.held.finish he) rfl rfl rfl rfl

theorem unbind (h : Kept context onWay budget store) {label : String}
    (hl : store.labels.lookup label = some key) :
    Kept (context.entering key) onWay budget (store.unbound label) :=
  h.of_held (h.held.unbind hl) rfl rfl rfl rfl

theorem making (h : Kept context onWay budget store) {label : String}
    (hl : label ∉ store.labels.map Prod.fst) :
    Kept context onWay budget (store.making label) := by
  refine h.of_held (h.held.making hl) rfl rfl rfl ?_
  have hnone : costOf (store.registries (store.created + 1)) = 0 := by
    rw [costOf, (h.held.unmade _ (Nat.lt_succ_self _)).2]
    rfl
  change ((List.range (store.created + 1 + 1)).map fun key => costOf (store.registries key)).sum = _
  rw [List.range_succ, List.map_append, List.sum_append, List.map_singleton, List.sum_singleton,
    hnone, Nat.add_zero]
  rfl

theorem name (h : Kept context onWay budget store) (names : List (String × ResourceId)) :
    Kept context onWay budget { store with names } :=
  h.of_held ⟨h.held.borrow, h.held.holders, h.held.ended, h.held.unmade, h.held.labels⟩
    rfl rfl rfl rfl

-- Looks into a registry cost nothing.
theorem borrowed (h : Kept context onWay budget store) {other : Context} {borrow : Borrow}
    (hk : key ≤ store.created)
    (hheld : Held other (store.withRegistry key { store.registries key with borrow })) :
    Kept other onWay budget (store.withRegistry key { store.registries key with borrow }) := by
  refine ⟨h.recorded.borrowed key borrow, hheld, ?_⟩
  have hc := Store.cost_withRegistry hk { store.registries key with borrow }
  have hsame : costOf { store.registries key with borrow } = costOf (store.registries key) := rfl
  have hb := h.cost
  omega

theorem share (h : Kept (context.entering key) onWay budget store) :
    Kept (context.lookingInto key) onWay budget
      (store.withRegistry key (store.registries key).share) := by
  have hk := h.held.le_created h.held.holders_ne_zero
  have hheld := h.held.share
  rw [Registry.share] at hheld ⊢
  split at hheld <;> exact h.borrowed hk hheld

theorem unshare (h : Kept (context.lookingInto key) onWay budget store) :
    Kept (context.entering key) onWay budget
      (store.withRegistry key (store.registries key).unshare) := by
  have hheld := h.held.unshare
  have hk : key ≤ store.created := hheld.le_created hheld.holders_ne_zero
  rw [Registry.unshare] at hheld ⊢
  split at hheld <;> exact h.borrowed hk hheld

-- A resource that loses its entry takes its cost along.
theorem lose (h : Kept context none budget store) {resource : Resource}
    {after : Registry Resource} (hl : (store.registries key).Loses resource after) :
    resource.cost ≤ budget ∧ Loose (.taken key resource.number :: store.history) resource.number ∧
      Kept context (some resource.number) (budget - resource.cost)
        ((store.withRegistry key after).noted (.taken key resource.number)) := by
  obtain ⟨entry, rfl, hp⟩ := hl.perm
  have hm : entry ∈ (store.registries key).live := hp.mem_iff.mpr (.head _)
  -- a registry that has entries was made
  have hk : key ≤ store.created := by
    by_contra hn
    rw [(h.held.unmade key (by omega)).2] at hm
    exact nomatch hm
  have hcost : costOf (store.registries key) = entry.resource.cost + costOf after := by
    rw [costOf, (hp.map fun entry => entry.resource.cost).sum_nat, List.map_cons, List.sum_cons,
      costOf]
  have hc := Store.cost_withRegistry hk after
  have hb := h.cost
  have hheld : Held context (store.withRegistry key after) :=
    h.held.withRegistry (by rw [hl.same]) fun hnone => by
      rw [hnone] at hm
      exact nomatch hm
  refine ⟨by omega, h.recorded.lawful.loose_of_taken (h.recorded.alive_of_mem hm),
    h.recorded.lose hm hp hl.sublist hl.same, hheld.noted _, ?_⟩
  change (store.withRegistry key after).cost ≤ _
  omega

theorem register {resource : Resource} {count : Nat} (kind : ResourceKind)
    (h : Kept context (some resource.number) budget store) (hh : store.holders key ≠ 0)
    (hl : Loose store.history resource.number)
    (hnew : ∀ k i, .registered k resource.number i ∉ store.history)
    (hcount : count = registrations store.history key) (hc : count + 1 < UInt32.size) :
    Kept context none (budget + resource.cost)
      ((store.withRegistry key ((store.registries key).grown count kind resource)).noted
        (.registered key resource.number
          ⟨(store.registries key).id, UInt32.ofNat (count + 1), kind⟩)) := by
  have hcost : costOf ((store.registries key).grown count kind resource) =
      resource.cost + costOf (store.registries key) := List.sum_cons
  have hw := Store.cost_withRegistry (h.held.le_created hh)
    ((store.registries key).grown count kind resource)
  have hb := h.cost
  have hheld : Held context
      (store.withRegistry key ((store.registries key).grown count kind resource)) :=
    h.held.withRegistry rfl fun _ => .inr hh
  refine ⟨h.recorded.register kind hl hnew hcount hc, hheld.noted _, ?_⟩
  change (store.withRegistry key _).cost ≤ _
  omega

end Kept

end RegistryScript

end SyntaxHandles
