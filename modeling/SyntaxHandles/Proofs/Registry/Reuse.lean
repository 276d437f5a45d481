import SyntaxHandles.Proofs.Registry.Collection

-- Registries used for any length of time. An identity is given out again after as many others as
-- there are serials. What has the serial then is displaced, and an identity that was dead is alive
-- again.

namespace SyntaxHandles

section Serials

variable {ρ : Type} {registry after : Registry ρ}

theorem Registry.ofNat_eq_iff {m n : Nat} :
    UInt32.ofNat m = UInt32.ofNat n ↔ m % UInt32.size = n % UInt32.size := by
  rw [← UInt32.toNat_inj]
  rfl

-- Numbers that are apart by a multiple of all serials have the same serial.
theorem Registry.ofNat_add_eq_iff {n apart : Nat} :
    UInt32.ofNat (n + apart) = UInt32.ofNat n ↔ UInt32.size ∣ apart := by
  rw [ofNat_eq_iff]
  simp only [UInt32.size]
  omega

-- What is taken out of a registry was alive, and its identity is dead.
theorem Registry.dead_of_take {id : ResourceId} {resource : ρ}
    (ht : registry.take id = .ok (some resource, after)) :
    id.registry = registry.id ∧
      (∃ entry ∈ registry.live, registry.identity entry = id ∧ entry.resource = resource) ∧
      after.Dead id := by
  rcases ha : registry.isAlive id with _ | alive
  · simp [take, ha, bind, Except.bind] at ht
  · cases alive with
    | false => simp [take, ha, bind, Except.bind, pure, Except.pure] at ht
    | true =>
        obtain ⟨hr, entry, hf, hk⟩ := isAlive_eq_true ha
        have hs : entry.serial = id.serial := by simpa using List.find?_some hf
        rcases hw : registry.toWrite .take with _ | _
        · simp [take, ha, hw, bind, Except.bind] at ht
        · simp [take, ha, hw, hf, bind, Except.bind, pure, Except.pure] at ht
          obtain ⟨rfl, rfl⟩ := ht
          refine ⟨hr, ⟨entry, List.mem_of_find?_eq_some hf, ?_, rfl⟩, fun other ho hi => ?_⟩
          · simp only [identity, hs, hk, ← hr]
          · have hne := (List.mem_filter.mp ho).2
            simp [← hi, identity] at hne

-- What is registered can be taken out again, and nothing but its serial is used up.
theorem Registry.take_of_register (hb : registry.borrow = .free)
    (hd : Registry.Descending registry.live)
    (hnew : ∀ entry ∈ registry.live, entry.serial ≠ registry.nextSerial) (kind : ResourceKind)
    (resource : ρ) : ∃ registered,
      registry.register kind resource =
        .ok (⟨registry.id, registry.nextSerial, kind⟩, none, registered) ∧
      registered.take ⟨registry.id, registry.nextSerial, kind⟩ =
        .ok (some resource, { registry with nextSerial := registry.nextSerial + 1 }) := by
  have hnone : registry.find? registry.nextSerial = none := by
    rcases registry.find?_eq_none_or registry.nextSerial with hf | ⟨entry, hm, hs, -⟩
    · exact hf
    · exact absurd hs (hnew entry hm)
  have hregister := Registry.register_of_free hb kind resource
  rw [hnone] at hregister
  refine ⟨_, hregister, ?_⟩
  let entry : Entry ρ := ⟨registry.nextSerial, kind, resource⟩
  let grown : Registry ρ := { registry with
    nextSerial := registry.nextSerial + 1
    live := insert entry registry.live }
  have hf : grown.find? entry.serial = some entry :=
    (hd.insert entry).find?_eq_some_iff.mpr ⟨hd.mem_insert_iff.mpr (.inl rfl), rfl⟩
  have hfree : grown.borrow = .free := hb
  have htake := take_of_find? hfree hf
  have hlive : grown.live.filter (·.serial ≠ entry.serial) = registry.live := filter_insert hnew
  rw [hlive] at htake
  exact htake

end Serials

namespace Collection

variable {ρ : Type} {c d : Collection ρ} {key : Nat}

-- What is true of registries however many identities they give out: the identities are numbered in
-- turn, and a serial is what is left of the number.
structure Numbered (c : Collection ρ) : Prop where
  ids : ∀ key, (c.registries key).id = UInt32.ofNat key
  next : ∀ key, (c.registries key).nextSerial = UInt32.ofNat (c.count key + 1)
  descending : ∀ key, Registry.Descending (c.registries key).live
  numbered : ∀ later grant earlier, c.grants = later ++ grant :: earlier →
    grant.id = ⟨UInt32.ofNat grant.key, UInt32.ofNat (earlier.countP (·.key = grant.key) + 1),
      grant.id.kind⟩
  stored : ∀ key, ∀ entry ∈ (c.registries key).live,
    ⟨key, (c.registries key).identity entry, entry.resource⟩ ∈ c.grants

theorem numbered_new : Numbered ({} : Collection ρ) where
  ids _ := rfl
  next _ := rfl
  descending _ := .nil
  numbered later grant earlier h := by simp at h
  stored _ _ h := nomatch h

section Steps

theorem Numbered.withRegistry (h : Numbered c) {registry : Registry ρ}
    (hid : registry.id = (c.registries key).id)
    (hnext : registry.nextSerial = (c.registries key).nextSerial)
    (hlive : registry.live.Sublist (c.registries key).live) :
    Numbered (c.withRegistry key registry) where
  ids k := by
    by_cases hk : k = key
    · rw [hk, withRegistry_same, hid, h.ids]
    · rw [withRegistry_of_ne hk, h.ids]
  next k := by
    by_cases hk : k = key
    · rw [hk, withRegistry_same, hnext, h.next, withRegistry_count]
    · rw [withRegistry_of_ne hk, h.next, withRegistry_count]
  descending k := by
    by_cases hk : k = key
    · rw [hk, withRegistry_same]
      exact (h.descending key).sublist hlive
    · rw [withRegistry_of_ne hk]
      exact h.descending k
  numbered := h.numbered
  stored k entry hm := by
    by_cases hk : k = key
    · subst hk
      rw [withRegistry_same] at hm ⊢
      have hs := h.stored k entry (hlive.subset hm)
      simp only [Registry.identity, hid] at hs ⊢
      exact hs
    · rw [withRegistry_of_ne hk] at hm ⊢
      exact h.stored k entry hm

theorem Numbered.acquire (h : Numbered c) {kind : ResourceKind} {resource : ρ} {id : ResourceId}
    {displaced : Option ρ} {registry : Registry ρ}
    (hr : (c.registries key).register kind resource = .ok (id, displaced, registry)) :
    Numbered ((c.withRegistry key registry).granting ⟨key, id, resource⟩) := by
  have hd := (h.descending key).register hr
  rw [Registry.register_of_free (Registry.borrow_of_register hr)] at hr
  simp only [Except.ok.injEq, Prod.mk.injEq] at hr
  obtain ⟨rfl, rfl, rfl⟩ := hr
  refine ⟨fun k => ?_, fun k => ?_, fun k => ?_, fun later grant earlier hg => ?_,
    fun k entry hm => ?_⟩
  · rw [granting_registries]
    by_cases hk : k = key
    · rw [hk, withRegistry_same, h.ids]
    · rw [withRegistry_of_ne hk, h.ids]
  · rw [granting_registries, count_granting, withRegistry_count]
    by_cases hk : k = key
    · subst hk
      rw [withRegistry_same, if_pos rfl, h.next]
      exact (UInt32.ofNat_add _ 1).symm
    · rw [withRegistry_of_ne hk, if_neg (Ne.symm hk), h.next, Nat.add_zero]
  · rw [granting_registries]
    by_cases hk : k = key
    · rw [hk, withRegistry_same]
      exact hd.1
    · rw [withRegistry_of_ne hk]
      exact h.descending k
  · rcases later with _ | ⟨newest, later⟩
    · obtain ⟨rfl, rfl⟩ := List.cons.inj hg
      simp only [h.ids, h.next]
      rfl
    · exact h.numbered later grant earlier (List.cons.inj hg).2
  · rw [granting_registries] at hm ⊢
    by_cases hk : k = key
    · subst hk
      rw [withRegistry_same] at hm ⊢
      rcases hd.2.2 entry hm with hm | rfl
      · exact .tail _ (h.stored k entry hm)
      · exact .head _
    · rw [withRegistry_of_ne hk] at hm ⊢
      exact .tail _ (h.stored k entry hm)

theorem Numbered.step (h : Numbered c) (hs : Step c d) : Numbered d := by
  cases hs with
  | make => exact ⟨h.ids, h.next, h.descending, h.numbered, h.stored⟩
  | acquire has register => exact h.acquire register
  | dispose take =>
      obtain ⟨hnext, hlive⟩ := Registry.take_sublist take
      exact h.withRegistry (Registry.take_eq_ok take).1 hnext hlive
  | disposeNewest takeNewest =>
      obtain ⟨hnext, hlive⟩ := Registry.takeNewest_sublist takeNewest
      exact h.withRegistry (Registry.takeNewest_eq_ok takeNewest).1 hnext hlive
  | access key borrow => exact h.withRegistry rfl rfl (.refl _)

theorem Numbered.steps (h : Numbered c) (hs : Steps c d) : Numbered d := by
  induction hs with
  | refl => exact h
  | tail _ last ih => exact ih.step last

end Steps

section Repeats

variable {later middle earlier : List (Grant ρ)} {grant other : Grant ρ}

theorem countP_split (hk : grant.key = key) : (later ++ grant :: earlier).countP (·.key = key) =
    later.countP (·.key = key) + 1 + earlier.countP (·.key = key) := by
  simp only [List.countP_append, List.countP_cons, hk, decide_true, if_true]
  omega

-- How many identities of the same registry lie between two of them tells whether they are the same.
theorem Numbered.id_eq_iff (h : Numbered c)
    (hg : c.grants = later ++ grant :: (middle ++ other :: earlier)) (hk : other.key = grant.key) :
    grant.id = other.id ↔ grant.id.kind = other.id.kind ∧
      UInt32.size ∣ middle.countP (·.key = grant.key) + 1 := by
  have hgrant := h.numbered later grant (middle ++ other :: earlier) hg
  have hother := h.numbered (later ++ grant :: middle) other earlier (by simp [hg])
  have hcount : (middle ++ other :: earlier).countP (·.key = grant.key) + 1 =
      earlier.countP (·.key = grant.key) + 1 + (middle.countP (·.key = grant.key) + 1) := by
    rw [countP_split hk]
    omega
  rw [hk] at hother
  rw [hcount] at hgrant
  rw [← Registry.ofNat_add_eq_iff]
  constructor
  · intro he
    refine ⟨congrArg ResourceId.kind he, ?_⟩
    have hserial := congrArg ResourceId.serial he
    rwa [hgrant, hother] at hserial
  · rintro ⟨hkind, hserial⟩
    rw [hgrant, hother, hserial, hkind]

-- There are not enough identities in between for one to come again.
theorem Numbered.id_ne (h : Numbered c) (few : c.count grant.key ≤ UInt32.size)
    (hg : c.grants = later ++ grant :: (middle ++ other :: earlier)) (hk : other.key = grant.key) :
    other.id ≠ grant.id := by
  intro he
  have hdvd := ((h.id_eq_iff hg hk).mp he.symm).2
  have hle := Nat.le_of_dvd (Nat.succ_pos _) hdvd
  rw [count, hg, countP_split rfl, countP_split hk] at few
  omega

-- An entry with the next serial was given out before as many identities as there are serials.
theorem Numbered.serial_eq_next_iff (h : Numbered c) (hg : c.grants = later ++ grant :: earlier)
    (hk : grant.key = key) : grant.id.serial = (c.registries key).nextSerial ↔
      UInt32.size ∣ later.countP (·.key = key) + 1 := by
  have hgrant := congrArg ResourceId.serial (h.numbered later grant earlier hg)
  have hcount : c.count key + 1 =
      earlier.countP (·.key = key) + 1 + (later.countP (·.key = key) + 1) := by
    rw [count, hg, countP_split hk]
    omega
  rw [hk] at hgrant
  rw [hgrant, h.next, hcount, ← Registry.ofNat_add_eq_iff]
  exact eq_comm

theorem Numbered.isAlive_grant (h : Numbered c) (hg : c.grants = later ++ grant :: earlier)
    (hb : (c.registries grant.key).borrow ≠ .exclusive) :
    (c.registries grant.key).isAlive grant.id = .ok (((c.registries grant.key).find?
      grant.id.serial).any (·.kind = grant.id.kind)) := by
  have hid : grant.id.registry = (c.registries grant.key).id := by
    rw [h.numbered later grant earlier hg, h.ids]
  simp [Registry.isAlive, hid, Registry.toRead, hb, bind, Except.bind, pure, Except.pure]

-- Something is displaced only if it was registered before as many others as there are serials, and
-- is still alive.
theorem Numbered.displaced_eq_none_iff (h : Numbered c) {kind : ResourceKind} {resource : ρ}
    {id : ResourceId} {displaced : Option ρ} {registry : Registry ρ}
    (hr : (c.registries key).register kind resource = .ok (id, displaced, registry)) :
    displaced = none ↔ ∀ later grant earlier, c.grants = later ++ grant :: earlier →
      grant.key = key → UInt32.size ∣ later.countP (·.key = key) + 1 →
        (c.registries key).isAlive grant.id = .ok false := by
  have hb := Registry.borrow_of_register hr
  have hnot : (c.registries key).borrow ≠ .exclusive := by simp [hb]
  rw [Registry.register_of_free hb] at hr
  simp only [Except.ok.injEq, Prod.mk.injEq] at hr
  rw [← hr.2.1, Option.map_eq_none_iff]
  constructor
  · intro hnone later grant earlier hg hk hdvd
    subst hk
    rw [h.isAlive_grant hg hnot, (h.serial_eq_next_iff hg rfl).mpr hdvd, hnone]
    rfl
  · intro hdead
    rcases (c.registries key).find?_eq_none_or (c.registries key).nextSerial with
      hf | ⟨entry, hm, hs, hf⟩
    · exact hf
    · obtain ⟨later, earlier, hg⟩ := List.append_of_mem (h.stored key entry hm)
      have hdvd := (h.serial_eq_next_iff hg rfl).mp hs
      rw [← hs] at hf
      have ha := Registry.isAlive_of_find? hnot hf
      have hcontra := ha.symm.trans (hdead later _ earlier hg rfl hdvd)
      cases Except.ok.inj hcontra

end Repeats

section Death

variable {registry : Registry ρ} {id : ResourceId} {resource : ρ} {since : List (Grant ρ)}

theorem Steps.grants_suffix (h : Steps c d) : c.grants <:+ d.grants := by
  induction h with
  | refl => exact List.suffix_rfl
  | tail _ last ih =>
      refine ih.trans ?_
      cases last with
      | acquire => exact List.suffix_cons ..
      | make | dispose | disposeNewest | access => exact List.suffix_rfl

-- An identity that is dead stays dead until it is given out again.
theorem Step.dead (h : Numbered c) (hs : Step c d) (hd : (c.registries key).Dead id)
    (hnew : ∀ grant, d.grants = grant :: c.grants → grant.key = key → grant.id ≠ id) :
    (d.registries key).Dead id := by
  have lose {k : Nat} {registry : Registry ρ} (hid : registry.id = (c.registries k).id)
      (hsub : registry.live.Sublist (c.registries k).live) :
      ((c.withRegistry k registry).registries key).Dead id := by
    by_cases hk : key = k
    · subst hk
      rw [withRegistry_same]
      intro entry hm
      have hne := hd entry (hsub.subset hm)
      rwa [Registry.identity, ← hid] at hne
    · rw [withRegistry_of_ne hk]
      exact hd
  cases hs with
  | make => exact hd
  | @acquire k kind resource new displaced registry has register =>
      by_cases hk : key = k
      · subst hk
        have hfresh := hnew _ rfl rfl
        have hlive := ((h.descending key).register register).2.2
        rw [Registry.register_of_free (Registry.borrow_of_register register)] at register
        simp only [Except.ok.injEq, Prod.mk.injEq] at register
        obtain ⟨rfl, rfl, rfl⟩ := register
        rw [granting_registries, withRegistry_same]
        intro entry hm
        rcases hlive entry hm with hm | rfl
        · exact hd entry hm
        · exact hfresh
      · rw [granting_registries, withRegistry_of_ne hk]
        exact hd
  | dispose take => exact lose (Registry.take_eq_ok take).1 (Registry.take_sublist take).2
  | disposeNewest takeNewest =>
      exact lose (Registry.takeNewest_eq_ok takeNewest).1
        (Registry.takeNewest_sublist takeNewest).2
  | access k borrow => exact lose rfl (.refl _)

theorem Steps.dead (h : Numbered c) (hs : Steps c d) (hd : (c.registries key).Dead id)
    (hnew : ∀ since, d.grants = since ++ c.grants → ∀ grant ∈ since, grant.key = key →
      grant.id ≠ id) : (d.registries key).Dead id := by
  induction hs with
  | refl => exact hd
  | @tail d e earlier last ih =>
      obtain ⟨now, hnow⟩ := (Steps.grants_suffix (.single last))
      obtain ⟨since, hsince⟩ := Steps.grants_suffix earlier
      have hall := hnew (now ++ since) (by rw [← hnow, ← hsince, List.append_assoc])
      have hdead := ih fun before hb grant hm => by
        obtain rfl := List.append_cancel_right (hb.symm.trans hsince.symm)
        exact hall grant (List.mem_append_right _ hm)
      refine last.dead (h.steps earlier) hdead fun grant hg => hall grant ?_
      have hgrant : now = [grant] := List.append_cancel_right (hnow.trans hg)
      simp [hgrant]

-- After a disposal the identity cannot come again before the serials do.
theorem Numbered.id_ne_of_taken (hc : Numbered c) (hd : Numbered d)
    (ht : (c.registries key).take id = .ok (some resource, registry))
    (few : d.count key ≤ UInt32.size) (hs : d.grants = since ++ c.grants) :
    ∀ grant ∈ since, grant.key = key → grant.id ≠ id := by
  intro grant hm hk he
  obtain ⟨-, ⟨entry, hentry, rfl, -⟩, -⟩ := Registry.dead_of_take ht
  obtain ⟨newer, older, rfl⟩ := List.append_of_mem hm
  obtain ⟨later, earlier, hg⟩ := List.append_of_mem (hc.stored key entry hentry)
  rw [hg, List.append_assoc, List.cons_append, ← List.append_assoc older] at hs
  subst hk
  exact hd.id_ne few hs rfl he.symm

end Death

-- As long as a registry has given out no more identities than there are serials, each of them is a
-- new one, takes the place of nothing that is alive, and stays dead once it was disposed of. From
-- then on each serial comes again in its turn, and what is still alive under it is displaced.
theorem identities_last_as_long_as_serials (reached : Steps {} c) (key : Nat) :
    (∀ later grant middle other earlier,
      c.grants = later ++ grant :: (middle ++ other :: earlier) →
        grant.key = key → other.key = key →
          (c.count key ≤ UInt32.size → other.id ≠ grant.id) ∧
          (grant.id = other.id ↔ grant.id.kind = other.id.kind ∧
            UInt32.size ∣ middle.countP (·.key = key) + 1)) ∧
    (∀ kind resource id displaced registry,
      (c.registries key).register kind resource = .ok (id, displaced, registry) →
        (c.count key < UInt32.size → displaced = none) ∧
        (displaced = none ↔ ∀ later grant earlier, c.grants = later ++ grant :: earlier →
          grant.key = key → UInt32.size ∣ later.countP (·.key = key) + 1 →
            (c.registries key).isAlive grant.id = .ok false)) ∧
    ∀ id resource registry d, (c.registries key).take id = .ok (some resource, registry) →
      Steps (c.withRegistry key registry) d → (d.registries key).borrow ≠ .exclusive →
        (d.count key ≤ UInt32.size ∨ ∀ since, d.grants = since ++ c.grants →
          ∀ grant ∈ since, grant.key = key → grant.id ≠ id) →
            (d.registries key).isAlive id = .ok false ∧
            (d.registries key).take id = .ok (none, d.registries key) ∧
            ∀ (α : Type) (view : ρ → Option α), ∃ reason,
              (d.registries key).look id view = .ok (.error (.invalidHandle id reason)) := by
  have h := numbered_new.steps reached
  refine ⟨fun later grant middle other earlier hg hk hk' => ?_,
    fun kind resource id displaced registry hr => ⟨fun few => ?_, h.displaced_eq_none_iff hr⟩,
    fun id resource registry d ht later hb hnew => ?_⟩
  · subst hk
    exact ⟨fun few => h.id_ne few hg hk', h.id_eq_iff hg hk'⟩
  · refine (h.displaced_eq_none_iff hr).mpr fun later grant earlier hg hk hdvd => ?_
    have hle := Nat.le_of_dvd (Nat.succ_pos _) hdvd
    rw [count, hg, countP_split hk] at few
    omega
  · have htaken : Numbered (c.withRegistry key registry) := h.step (.dispose ht)
    have hdead : ((c.withRegistry key registry).registries key).Dead id := by
      rw [withRegistry_same]
      exact (Registry.dead_of_take ht).2.2
    have hfresh : ∀ since, d.grants = since ++ (c.withRegistry key registry).grants →
        ∀ grant ∈ since, grant.key = key → grant.id ≠ id := by
      rcases hnew with few | hnew
      · exact fun since hs => h.id_ne_of_taken (htaken.steps later) ht few hs
      · exact hnew
    have hdead := Steps.dead htaken later hdead hfresh
    exact ⟨Registry.isAlive_of_dead hb hdead, Registry.take_of_dead hb hdead,
      fun α view => Registry.exists_refusal_of_dead hb hdead view⟩

-- A registry with one entry, under the first serial.
def lasting (serial : UInt32) : Registry String :=
  { id := 1, nextSerial := serial, live := [⟨1, .index, "a"⟩] }

-- The first registry has given out two identities.
def sampleGiven : Collection String :=
  (((withRegistry { made := 1 } 1 (lasting 2)).granting ⟨1, ⟨1, 1, .index⟩, "a"⟩).withRegistry 1
    { lasting 3 with live := [⟨2, .index, "b"⟩, ⟨1, .index, "a"⟩] }).granting
      ⟨1, ⟨1, 2, .index⟩, "b"⟩

theorem sampleGiven_reached : Steps {} sampleGiven := by
  have first : Registry.register { id := 1 } .index "a" =
      .ok (⟨1, 1, .index⟩, none, lasting 2) := rfl
  have second : Registry.register (lasting 2) .index "b" = .ok (⟨1, 2, .index⟩, none,
      { lasting 3 with live := [⟨2, .index, "b"⟩, ⟨1, .index, "a"⟩] }) := rfl
  exact .tail (.tail (.single .make) (.acquire (Nat.le_refl 1) first))
    (.acquire (Nat.le_refl 1) second)

theorem identities_last_as_long_as_serials_of_sample :
    (⟨1, 1, .index⟩ : ResourceId) ≠ ⟨1, 2, .index⟩ ∧
      ((sampleGiven.withRegistry 1 (lasting 3)).registries 1).isAlive ⟨1, 2, .index⟩ = .ok false := by
  have last := identities_last_as_long_as_serials sampleGiven_reached 1
  have few : sampleGiven.count 1 ≤ UInt32.size := by decide
  refine ⟨(last.1 [] ⟨1, ⟨1, 2, .index⟩, "b"⟩ [] ⟨1, ⟨1, 1, .index⟩, "a"⟩ [] rfl rfl rfl).1 few, ?_⟩
  exact (last.2.2 ⟨1, 2, .index⟩ "b" (lasting 3) _ rfl .refl (by decide) (.inl few)).1

section Cycle

-- Any serial but the first is used up, and nothing is left of it.
theorem exists_used {c : Collection String} {serial : UInt32} (has : 1 ≤ c.made)
    (hc : c.registries 1 = lasting serial) (hs : 1 ≠ serial) :
    ∃ d, Steps c d ∧ 1 ≤ d.made ∧ d.registries 1 = lasting (serial + 1) := by
  have hfree : (lasting serial).borrow = .free := rfl
  have hfresh : ∀ entry ∈ (lasting serial).live, entry.serial ≠ (lasting serial).nextSerial :=
    fun entry hm => List.mem_singleton.mp hm ▸ hs
  obtain ⟨registered, hregister, htake⟩ :=
    Registry.take_of_register hfree (List.pairwise_singleton ..) hfresh .index "b"
  have hacquire : (c.registries 1).register .index "b" =
      .ok (⟨1, serial, .index⟩, none, registered) := by
    rw [hc]
    exact hregister
  have hdispose : (((c.withRegistry 1 registered).granting
      ⟨1, ⟨1, serial, .index⟩, "b"⟩).registries 1).take ⟨1, serial, .index⟩ =
        .ok (some "b", lasting (serial + 1)) := by
    rw [granting_registries, withRegistry_same]
    exact htake
  exact ⟨_, .tail (.single (.acquire has hacquire)) (.dispose hdispose), has, withRegistry_same⟩

theorem exists_all_used {c : Collection String} (has : 1 ≤ c.made)
    (hc : c.registries 1 = lasting 3) (n : Nat) (hn : 3 + n ≤ UInt32.size + 1) :
    ∃ d, Steps c d ∧ 1 ≤ d.made ∧ d.registries 1 = lasting (UInt32.ofNat (3 + n)) := by
  induction n with
  | zero => exact ⟨c, .refl, has, hc⟩
  | succ n ih =>
      obtain ⟨d, hd, hhas, hlast⟩ := ih (by omega)
      have hne : (1 : UInt32) ≠ UInt32.ofNat (3 + n) := by
        intro he
        have hmod := Registry.ofNat_eq_iff.mp (show UInt32.ofNat 1 = UInt32.ofNat (3 + n) from he)
        simp only [UInt32.size] at hmod hn
        omega
      obtain ⟨e, he, hhas', hlast'⟩ := exists_used hhas hlast hne
      exact ⟨e, hd.trans he, hhas',
        hlast'.trans (congrArg lasting (UInt32.ofNat_add (3 + n) 1).symm)⟩

-- Once all serials were used the first identity is given out again, while its resource is alive and
-- is displaced by it, and then the second one, which was disposed of and is alive again.
theorem identities_come_again : ∃ c d : Collection String, ∃ again last,
    Steps {} c ∧ ⟨1, ⟨1, 1, .index⟩, "a"⟩ ∈ c.grants ∧
    (c.registries 1).take ⟨1, 2, .index⟩ = .ok (some "b", lasting 3) ∧
    Steps (c.withRegistry 1 (lasting 3)) d ∧
    (d.registries 1).isAlive ⟨1, 1, .index⟩ = .ok true ∧
    (d.registries 1).register .index "c" = .ok (⟨1, 1, .index⟩, some "a", again) ∧
    again.register .index "d" = .ok (⟨1, 2, .index⟩, none, last) ∧
    last.isAlive ⟨1, 2, .index⟩ = .ok true := by
  obtain ⟨d, hd, -, hlast⟩ := exists_all_used (c := sampleGiven.withRegistry 1 (lasting 3))
    (Nat.le_refl 1) withRegistry_same (UInt32.size - 2) (by decide)
  have hone : UInt32.ofNat (3 + (UInt32.size - 2)) = 1 := by decide
  rw [hone] at hlast
  refine ⟨sampleGiven, d, { lasting 2 with live := [⟨1, .index, "c"⟩] },
    { lasting 3 with live := [⟨2, .index, "d"⟩, ⟨1, .index, "c"⟩] }, sampleGiven_reached,
    .tail _ (.head _), rfl, hd, ?_⟩
  rw [hlast]
  exact ⟨rfl, rfl, rfl, rfl⟩

end Cycle

end Collection

end SyntaxHandles
