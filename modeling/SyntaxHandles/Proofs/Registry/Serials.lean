import SyntaxHandles.Proofs.Registry.Answers
import SyntaxHandles.Proofs.Registry.Moves
import SyntaxHandles.Proofs.Registry.Reentry

-- In which order a registry gives out its serials. A resource gets its serial when its constructor
-- is over, and not before, so that what is acquired inside the constructor comes first; one whose
-- constructor fails gets none.

namespace SyntaxHandles.RegistryScript

open Effect Relation

-- Whether an event may come after earlier ones, as far as serials are concerned. Nothing is built
-- twice, and what is registered was built right before.
def Event.Follows (earlier : List Event) : Event → Prop
  | built resource => .built resource ∉ earlier
  | registered registry resource id =>
    id.serial = UInt32.ofNat (registrations earlier registry + 1) ∧
      ∃ before, earlier = .built resource :: before
  | _ => True

abbrev Consecutive : List Event → Prop :=
  Ordered fun earlier event => event.Follows earlier

section Consecutive

variable {history earlier before before' : List Event} {key n n' : Nat} {id id' : ResourceId}
  {next next' : Event}

theorem Consecutive.follows (h : Consecutive history) (hs : next :: earlier <:+ history) :
    next.Follows earlier :=
  (h.of_suffix hs).1

-- There is one event at most that comes right after a resource is built.
theorem Consecutive.next_eq (h : Consecutive history)
    (hs : next :: .built n :: before <:+ history) (hs' : next' :: .built n :: before' <:+ history) :
    next = next' := by
  have inside {before before' : List Event} (hb : .built n :: before' <:+ history) :
      ¬.built n :: before <:+ before' := fun hin =>
    h.follows hb (hin.mem (.head _))
  have hb := (List.suffix_cons _ _).trans hs
  have hb' := (List.suffix_cons _ _).trans hs'
  obtain rfl : before = before' := by
    rcases List.suffix_or_suffix_of_suffix hb hb' with hle | hle
    · rcases List.suffix_cons_iff.mp hle with he | hin
      · exact (List.cons.inj he).2
      · exact absurd hin (inside hb')
    · rcases List.suffix_cons_iff.mp hle with he | hin
      · exact (List.cons.inj he).2.symm
      · exact absurd hin (inside hb)
  have hsame := List.suffix_of_suffix_length_le hs hs' (Nat.le_refl _)
  exact (List.cons.inj (hsame.eq_of_length rfl)).1

theorem Consecutive.serial_toNat (h : Consecutive history)
    (few : registrations history key < UInt32.size)
    (hs : .registered key n id :: earlier <:+ history) :
    id.serial.toNat = registrations earlier key + 1 := by
  have hle := registrations_le hs key
  rw [registrations_registered, if_pos rfl] at hle
  rw [(h.follows hs).1, Registry.toNat_ofNat_of_lt (Nat.lt_of_le_of_lt hle few)]

theorem Consecutive.serial_le (h : Consecutive history)
    (few : registrations history key < UInt32.size) (hr : .registered key n id ∈ history) :
    0 < id.serial.toNat ∧ id.serial.toNat ≤ registrations history key := by
  obtain ⟨later, earlier, rfl⟩ := List.append_of_mem hr
  have hs : .registered key n id :: earlier <:+ later ++ .registered key n id :: earlier :=
    List.suffix_append later _
  have hle := registrations_le hs key
  rw [registrations_registered, if_pos rfl] at hle
  rw [h.serial_toNat few hs]
  exact ⟨Nat.succ_pos _, hle⟩

-- A serial is given out once.
theorem Consecutive.eq_of_serial (h : Consecutive history)
    (few : registrations history key + 1 < UInt32.size) (hr : .registered key n id ∈ history)
    (hr' : .registered key n' id' ∈ history) (hserial : id.serial = id'.serial) :
    n = n' ∧ id = id' := by
  have apart {n n' : Nat} {id id' : ResourceId} {earlier : List Event} (hs : earlier <:+ history)
      (hm : .registered key n id ∈ earlier)
      (hf : (Event.registered key n' id').Follows earlier) : id.serial ≠ id'.serial := by
    intro he
    have hle := registrations_le hs key
    have hbound := (Consecutive.serial_le (h.of_suffix hs) (by omega) hm).2
    rw [he, hf.1, Registry.toNat_ofNat_of_lt (by omega)] at hbound
    omega
  rcases h.earlier_or hr hr' with he | ⟨earlier, hs, hm, hf⟩ | ⟨earlier, hs, hm, hf⟩
  · injection he with _ hn hi
    exact ⟨hn, hi⟩
  · exact absurd hserial (apart hs hm hf)
  · exact absurd hserial.symm (apart hs hm hf)

end Consecutive

-- What a history tells of the registry with this key, however many serials it has given out.
structure Told (history : List Event) (key : Nat) (registry : Registry Resource) : Prop where
  next : registry.nextSerial = UInt32.ofNat (registrations history key + 1)
  descending : Registry.Descending registry.live
  registered : ∀ entry ∈ registry.live,
    .registered key entry.resource.number (registry.identity entry) ∈ history

section Told

variable {history : List Event} {key : Nat} {registry after : Registry Resource}

theorem Told.lessens (h : Told history key registry) (hl : registry.Lessens after) :
    Told history key after where
  next := hl.next.trans h.next
  descending := h.descending.sublist hl.live
  registered entry hm := by
    have hr := h.registered entry (hl.live.subset hm)
    rwa [Registry.identity, ← hl.id] at hr

theorem Told.later (h : Told history key registry) {event : Event}
    (he : event.registers key = false) : Told (event :: history) key registry where
  next := by
    rw [registrations, List.countP_cons_of_neg (by simp [he])]
    exact h.next
  descending := h.descending
  registered entry hm := .tail _ (h.registered entry hm)

theorem Told.register (h : Told history key registry) {kind : ResourceKind} {resource : Resource}
    {id : ResourceId} {displaced : Option Resource}
    (hr : registry.register kind resource = .ok (id, displaced, after)) :
    id.serial = UInt32.ofNat (registrations history key + 1) ∧
      Told (.registered key resource.number id :: history) key after := by
  obtain ⟨hdescending, -, hentries⟩ := h.descending.register hr
  rw [Registry.register_of_free (Registry.borrow_of_register hr)] at hr
  simp only [Except.ok.injEq, Prod.mk.injEq] at hr
  obtain ⟨rfl, -, rfl⟩ := hr
  refine ⟨h.next, ?_, hdescending, fun entry hm => ?_⟩
  · rw [registrations_registered, if_pos rfl, h.next]
    exact (UInt32.ofNat_add (registrations history key + 1) 1).symm
  · rcases hentries entry hm with hold | rfl
    · exact .tail _ (h.registered entry hold)
    · exact .head _

end Told

theorem forall_withRegistry {P : Nat → Registry Resource → Prop} {store : Store} {key : Nat}
    {registry : Registry Resource} (hr : P key registry)
    (ho : ∀ k, k ≠ key → P k (store.registries k)) (k : Nat) :
    P k ((store.withRegistry key registry).registries k) := by
  by_cases hk : k = key
  · rw [hk, Store.withRegistry_same]
    exact hr
  · rw [Store.withRegistry_of_ne hk]
    exact ho k hk

theorem Event.Plain.registers {event : Event} (h : event.Plain) (key : Nat) :
    event.registers key = false := by
  cases event <;> first | rfl | exact h.elim

theorem Event.Plain.follows {event : Event} (h : event.Plain) (earlier : List Event) :
    event.Follows earlier := by
  cases event <;> trivial

-- What holds of a store wherever moves lead, even if serials come again.
structure Counted (store : Store) : Prop where
  consecutive : Consecutive store.history
  built : ∀ n, .built n ∈ store.history → n < store.built
  told : ∀ key, Told store.history key (store.registries key)

section Counted

variable {store after : Store} {key : Nat} {registry : Registry Resource}

theorem counted_empty : Counted {} where
  consecutive := trivial
  built _ hm := nomatch hm
  told _ := ⟨rfl, .nil, nofun⟩

theorem Counted.arrange (h : Counted store) (hh : after.history = store.history)
    (hr : after.registries = store.registries) (hb : after.built = store.built) :
    Counted after where
  consecutive := hh ▸ h.consecutive
  built := by
    rw [hh, hb]
    exact h.built
  told := by
    rw [hh, hr]
    exact h.told

theorem Counted.note (h : Counted store) {event : Event} (hp : event.Plain) :
    Counted (store.noted event) where
  consecutive := ⟨hp.follows _, h.consecutive⟩
  built n hm := by
    rcases List.mem_cons.mp hm with rfl | hm
    · exact hp.elim
    · exact h.built n hm
  told key := (h.told key).later (hp.registers key)

theorem Counted.lessen (h : Counted store) (hl : (store.registries key).Lessens registry) :
    Counted (store.withRegistry key registry) where
  consecutive := h.consecutive
  built := h.built
  told := forall_withRegistry ((h.told key).lessens hl) fun k _ => h.told k

theorem Counted.build (h : Counted store) : Counted store.constructed where
  consecutive := ⟨fun hm => Nat.lt_irrefl _ (h.built _ hm), h.consecutive⟩
  built n hm := by
    rcases List.mem_cons.mp hm with he | hm
    · injection he with hn
      exact hn ▸ Nat.lt_succ_self _
    · exact Nat.lt_succ_of_lt (h.built n hm)
  told key := (h.told key).later rfl

theorem Counted.register (h : Counted store) {kind : ResourceKind} {resource : Resource}
    {id : ResourceId} {displaced : Option Resource} (hl : store.Latest resource)
    (hr : (store.registries key).register kind resource = .ok (id, displaced, registry)) :
    Counted ((store.withRegistry key registry).noted (.registered key resource.number id)) where
  consecutive := ⟨⟨((h.told key).register hr).1, hl⟩, h.consecutive⟩
  built n hm := h.built n ((List.mem_cons.mp hm).resolve_left nofun)
  told := forall_withRegistry ((h.told key).register hr).2 fun k hk =>
    (h.told k).later (decide_eq_false (Ne.symm hk))

theorem Counted.move (h : Counted store) (hm : Move store after) : Counted after := by
  cases hm with
  | arrange history registries built => exact h.arrange history registries built
  | note event plain => exact h.note plain
  | lessen lessens => exact h.lessen lessens
  | build => exact h.build
  | register latest registered => exact h.register latest registered

theorem Counted.moves (h : Counted store) (hm : Moves store after) : Counted after := by
  induction hm with
  | refl => exact h
  | tail _ last ih => exact ih.move last

-- As long as serials are left, none comes again.
theorem Counted.issued (h : Counted store)
    (few : registrations store.history key < UInt32.size) :
    (store.registries key).Issued (registrations store.history key) where
  next := (h.told key).next
  descending := (h.told key).descending
  given entry hm := h.consecutive.serial_le few ((h.told key).registered entry hm)

end Counted

-- What holds at every point of a run of a registry that still has serials to give out.
structure Tallied (key : Nat) (store : Store) : Prop where
  next : (store.registries key).nextSerial.toNat = registrations store.history key + 1
  distinct : ((store.registries key).live.map (·.serial)).Nodup
  bounds : ∀ entry ∈ (store.registries key).live,
    1 ≤ entry.serial ∧ entry.serial < (store.registries key).nextSerial
  issued : ∀ entry ∈ (store.registries key).live, .registered key entry.resource.number
    ((store.registries key).identity entry) ∈ store.history
  kinds : ∀ entry ∈ (store.registries key).live, ∀ n id,
    .registered key n id ∈ store.history → id.serial = entry.serial →
      n = entry.resource.number ∧ id.kind = entry.kind

theorem Counted.tallied {store : Store} {key : Nat} (h : Counted store)
    (few : registrations store.history key + 1 < UInt32.size) : Tallied key store := by
  have hissued := h.issued (Nat.lt_of_succ_lt few)
  have hnext : (store.registries key).nextSerial.toNat = registrations store.history key + 1 := by
    rw [hissued.next, Registry.toNat_ofNat_of_lt few]
  refine ⟨hnext, ?_, fun entry hm => ?_, (h.told key).registered, fun entry hm n id hr hs => ?_⟩
  · exact List.pairwise_map.mpr (hissued.descending.imp fun hlt => (UInt32.ne_of_lt hlt).symm)
  · obtain ⟨hpos, hle⟩ := hissued.given entry hm
    refine ⟨UInt32.le_iff_toNat_le.mpr hpos, UInt32.lt_iff_toNat_lt.mpr ?_⟩
    omega
  · obtain ⟨hn, hi⟩ := h.consecutive.eq_of_serial few hr
      ((h.told key).registered entry hm) hs
    exact ⟨hn, congrArg ResourceId.kind hi⟩

-- A store in which a part of a run starts, or in which it comes to its end.
def Point (first : String) (steps : List Step) (store : Store) : Prop :=
  ∃ call, Within first steps call ∧ (store = call.store ∨ call.ending = (.ok (), store))

-- An acquisition whose constructor has run its steps: the failure that it ends with, if there is
-- one, what it builds, and the store in which it does.
inductive Constructs (fuel key : Nat) (store : Store) :
    Work → Option ResourceKind → ResourceKind → Resource → Store → Prop
  | probe {name kind building failure atRelease inner made}
      (ran : (runSteps fuel building).run (store.entered key) = (.ok inner, made)) :
      Constructs fuel key store (.acquireProbe name kind building failure atRelease) failure kind
        ⟨made.built, name, .probe atRelease⟩ made
  | text {name kind} :
      Constructs fuel key store (.acquireText name kind) none kind ⟨store.built, name, .text⟩ store

-- What was built is registered at once. It is the newest entry of the registry, under the serial
-- after those that were given out, and nothing else has changed in the registries.
structure Joins (key : Nat) (kind : ResourceKind) (resource : Resource) (made : Store)
    (id : ResourceId) (after : Store) : Prop where
  serial : id.serial.toNat = registrations made.history key + 1
  ofKind : id.kind = kind
  history : after.history =
    .registered key resource.number id :: .built resource.number :: made.history
  registry : after.registries key =
    { made.registries key with
      nextSerial := (made.registries key).nextSerial + 1
      live := ⟨id.serial, kind, resource⟩ :: (made.registries key).live }
  others : ∀ k, k ≠ key → after.registries k = made.registries k

-- What was built is released at once, from registries as the constructor has left them, and what
-- that leaves is what the acquisition leaves. The resource never gets an entry.
structure Abandons (fuel key : Nat) (store : Store) (work : Work) (failed : ResourceKind)
    (resource : Resource) (made : Store) (history : List Event) : Prop where
  left : ∃ before, before.registries = made.registries ∧
    before.history = .built resource.number :: made.history ∧
    ((work.run fuel key).run store).2 = ((release fuel key resource).run before).2
  ended : ∀ report after, (work.run fuel key).run store = (.ok report, after) →
    report.outcome = .fault (.resourceExhausted failed) ∧
      ∀ k id, .registered k resource.number id ∉ history

section Acquisition

variable {first : String} {steps : List Step} {fuel key : Nat} {looks : Nat → Nat}
  {store made after : Store} {work : Work} {kind failed : ResourceKind} {resource : Resource}
  {failure : Option ResourceKind} {report : Report} {call : Call}

theorem Within.counted (h : Within first steps call) :
    Counted call.store ∧ Counted call.ending.2 := by
  have hstart := counted_empty.moves h.moves
  exact ⟨hstart, hstart.moves (Within.timely h).moves⟩

theorem counted_run (first : String) (steps : List Step) : Counted (run first steps).2 := by
  have hend : (whole first steps).ending.2 = (run first steps).2 :=
    congrArg Prod.snd (run_discard _ _)
  exact hend ▸ (Within.counted .refl).2

theorem Point.counted (h : Point first steps store) :
    Counted store ∧ store.history <:+ (run first steps).2.history := by
  obtain ⟨call, hcall, rfl | hend⟩ := h
  · exact ⟨(Within.counted hcall).1, call.grows.trans (Within.suffix hcall)⟩
  · have hs := Within.suffix hcall
    have hc := (Within.counted hcall).2
    rw [hend] at hs hc
    exact ⟨hc, hs⟩

-- What had happened when a part of a run ended has happened when the run ends.
theorem Within.suffix_of_run (h : Within first steps ⟨fuel, looks, .work key work, store⟩)
    (hr : (work.run fuel key).run store = (.ok report, after)) :
    after.history <:+ (run first steps).2.history := by
  have hs := Within.suffix h
  rwa [Call.ending, runPart, run_discard, hr] at hs

theorem Constructs.point (hc : Constructs fuel key store work failure kind resource made)
    (h : Within first steps ⟨fuel, looks, .work key work, store⟩) : Point first steps made := by
  cases hc with
  | probe ran =>
      refine ⟨_, h.tail .building, .inr ?_⟩
      rw [Call.ending, runPart, run_discard, ran]
      rfl
  | text => exact ⟨_, h, .inl rfl⟩

-- Tracking registers at once, unless the run is stopped there.
theorem Counted.joins (h : Counted made) (few : registrations made.history key + 1 < UInt32.size)
    (name : String) (hn : resource.number = made.built) :
    Ends (track fuel key name kind resource) made.constructed fun report after =>
      ∃ id, report.outcome = .acquired id ∧ Joins key kind resource made id after := by
  intro report after hr
  cases fuel with
  | zero => cases hr
  | succ fuel =>
      by_cases hb : (made.registries key).borrow = .free
      · have hissued := h.issued (Nat.lt_of_succ_lt few)
        have hregister : (made.constructed.registries key).register kind resource = _ :=
          hissued.register_eq few hb kind resource
        rw [track, run_bind, run_register_ok hregister] at hr
        cases hr
        refine ⟨_, rfl, Registry.toNat_ofNat_of_lt few, rfl, ?_, ?_, fun k hk => ?_⟩
        · rw [hn]
          rfl
        · have hnext : (made.registries key).nextSerial + 1 =
              UInt32.ofNat (registrations made.history key + 2) := by
            rw [hissued.next]
            exact (UInt32.ofNat_add (registrations made.history key + 1) 1).symm
          rw [hnext]
          exact Store.withRegistry_same ..
        · exact Store.withRegistry_of_ne hk
      · have hregister : (made.constructed.registries key).register kind resource = _ :=
          Registry.register_of_borrowed hb kind resource
        rw [track, run_bind, run_register_error hregister] at hr
        cases hr

theorem Constructs.joins (hc : Constructs fuel key store work none kind resource made)
    (h : Counted made) (few : registrations made.history key + 1 < UInt32.size) :
    Ends (work.run fuel key) store fun report after =>
      ∃ id, report.outcome = .acquired id ∧ Joins key kind resource made id after := by
  cases hc with
  | @probe name _ _ _ _ _ _ ran =>
      refine .next (run_enter key store) (.next ran (.next (run_build name _ made) ?_))
      exact .bind ((h.joins few name rfl).mono fun ⟨_, _, _⟩ after hj => .pure hj)
  | @text name _ => exact .next (run_build name .text store) (h.joins few name rfl)

-- Where the constructor fails, all that is left is to release what it built.
theorem Constructs.run_eq (hc : Constructs fuel key store work (some failed) kind resource made) :
    ∃ inner, (work.run fuel key).run store = (release fuel key resource >>= fun released =>
      pure (Report.mk (.fault (.resourceExhausted failed)) inner released)).run
        made.constructed := by
  cases hc with
  | @probe _ _ _ _ _ inner _ ran =>
      have hentered : (enter key).run store = (.ok (), store.entered key) := rfl
      refine ⟨inner, ?_⟩
      simp only [Work.run, run_bind, hentered, ran, run_build]
      rfl

theorem Constructs.number_eq (hc : Constructs fuel key store work failure kind resource made) :
    resource.number = made.built := by
  cases hc <;> rfl

theorem Constructs.abandons
    (hc : Constructs fuel key store work (some failed) kind resource made)
    (h : Within first steps ⟨fuel, looks, .work key work, store⟩)
    (hh : Consecutive (run first steps).2.history) :
    Abandons fuel key store work failed resource made (run first steps).2.history := by
  obtain ⟨inner, hrun⟩ := hc.run_eq
  have hconstructed : made.constructed.history = .built resource.number :: made.history := by
    rw [hc.number_eq]
    rfl
  refine ⟨⟨made.constructed, rfl, hconstructed, ?_⟩, fun report after hr => ?_⟩
  · rw [hrun, run_bind]
    rcases (release fuel key resource).run made.constructed with ⟨_ | _, _⟩ <;> rfl
  · have hends : Ends (release fuel key resource >>= fun released =>
        pure (Report.mk (.fault (.resourceExhausted failed)) inner released)) made.constructed
        fun report after => report.outcome = .fault (.resourceExhausted failed) ∧
          .released resource.number :: made.constructed.history <:+ after.history :=
      .bind ((release_tells key resource).mono fun _ _ hs => .pure ⟨rfl, hs⟩)
    obtain ⟨houtcome, hreleased⟩ := hends report after (hrun ▸ hr)
    rw [hconstructed] at hreleased
    refine ⟨houtcome, fun k id hm => ?_⟩
    -- it was released right after it was built, so it was not registered then
    obtain ⟨later, earlier, hsplit⟩ := List.append_of_mem hm
    have hregistered :
        .registered k resource.number id :: earlier <:+ (run first steps).2.history :=
      ⟨later, hsplit.symm⟩
    obtain ⟨before, rfl⟩ := (hh.follows hregistered).2
    exact nomatch hh.next_eq hregistered (hreleased.trans (h.suffix_of_run hr))

-- The k-th identity that a registry gives out has the serial k, and is given out as soon as the
-- constructor of its resource is over; so what is acquired inside a constructor comes before what
-- the constructor is for. A constructor that fails uses up no serial. Of any two points of the run
-- the history of one goes on from that of the other, and the next serial never goes back.
theorem serials_follow_construction (first : String) (steps : List Step) (key : Nat)
    (few : registrations (run first steps).2.history key + 1 < UInt32.size) :
    (∀ n id earlier, .registered key n id :: earlier <:+ (run first steps).2.history →
      id.serial.toNat = registrations earlier key + 1 ∧ ∃ before, earlier = .built n :: before) ∧
    (∀ store, Point first steps store → Tallied key store) ∧
    (∀ store later, Point first steps store → Point first steps later →
      store.history <:+ later.history →
        (store.registries key).nextSerial ≤ (later.registries key).nextSerial) ∧
    (∀ fuel looks store work kind resource made report after,
      Within first steps ⟨fuel, looks, .work key work, store⟩ →
      Constructs fuel key store work none kind resource made →
      (work.run fuel key).run store = (.ok report, after) →
        ∃ id, report.outcome = .acquired id ∧ Joins key kind resource made id after) ∧
    ∀ fuel looks store work failed kind resource made,
      Within first steps ⟨fuel, looks, .work key work, store⟩ →
      Constructs fuel key store work (some failed) kind resource made →
        Abandons fuel key store work failed resource made (run first steps).2.history := by
  have hcounted : Counted (run first steps).2 := counted_run first steps
  have hfew {store : Store} (hp : Point first steps store) :
      registrations store.history key + 1 < UInt32.size :=
    Nat.lt_of_le_of_lt (Nat.succ_le_succ (registrations_le hp.counted.2 key)) few
  have htallied {store : Store} (hp : Point first steps store) : Tallied key store :=
    hp.counted.1.tallied (hfew hp)
  refine ⟨fun n id earlier hs => ?_, fun store => htallied, fun store later hp hl hs => ?_, ?_, ?_⟩
  · have hf := hcounted.consecutive.follows hs
    exact ⟨hcounted.consecutive.serial_toNat (Nat.lt_of_succ_lt few) hs, hf.2⟩
  · rw [UInt32.le_iff_toNat_le, (htallied hp).next, (htallied hl).next]
    exact Nat.succ_le_succ (registrations_le hs key)
  · intro fuel looks store work kind resource made report after h hc
    have hp := hc.point h
    exact hc.joins hp.counted.1 (hfew hp) report after
  · intro fuel looks store work failed kind resource made h hc
    exact hc.abandons h hcounted.consecutive

end Acquisition

theorem exists_ok {α : Type} (x : Run α) (store : Store) (p : Store → Bool)
    (h : ((x.run store).1.isOk && p (x.run store).2) = true) :
    ∃ a after, x.run store = (.ok a, after) ∧ p after = true := by
  rcases hr : x.run store with ⟨_ | a, after⟩ <;> rw [hr] at h
  · exact nomatch h
  · exact ⟨a, after, rfl, h⟩

-- A constructor acquires a text, and then fails to acquire a probe, whose release acquires another
-- text. So what it is all for is acquired as the third.
def atFailure : List Step :=
  [.acquireText "r" "second" .translationUnit]

def nestedBuilding : List Step :=
  [.acquireText "r" "first" .translationUnit,
    .acquireProbe "r" "none" .index [] (some .index) atFailure]

def nested : List Step :=
  [.acquireProbe "r" "third" .index nestedBuilding none []]

def failing : Work :=
  .acquireProbe "none" .index [] (some .index) atFailure

def nesting : Work :=
  .acquireProbe "third" .index nestedBuilding none []

def nestedFuel : Nat := 8 * weights nested + 59

def opened : Store := ((({} : Store).unbound "r").making "r").holding 1

theorem serials_follow_construction_of_nested :
    (∀ store, Point "r" nested store → Tallied 1 store) ∧
      (∃ made id after,
        Constructs (nestedFuel + 3) 1 opened nesting none .index ⟨3, "third", .probe []⟩ made ∧
        registrations made.history 1 = 2 ∧ Joins 1 .index ⟨3, "third", .probe []⟩ made id after) ∧
      ∃ store made, ((failing.run nestedFuel 1).run store).1.isOk = true ∧
        registrations made.history 1 = 1 ∧
        registrations ((failing.run nestedFuel 1).run store).2.history 1 = 2 ∧
        Abandons nestedFuel 1 store failing .index ⟨1, "none", .probe atFailure⟩ made
          (run "r" nested).2.history := by
  have few : registrations (run "r" nested).2.history 1 + 1 < UInt32.size := by decide +kernel
  obtain ⟨-, htallied, -, hjoins, habandons⟩ := serials_follow_construction "r" nested 1 few
  have started : Within "r" nested ⟨nestedFuel + 5, fun _ => 0, .steps nested, _⟩ :=
    .single .start
  have within : Within "r" nested ⟨nestedFuel + 3, fun _ => 0, .work 1 nesting, opened⟩ :=
    (started.tail .first).tail (.work rfl (by decide))
  refine ⟨htallied, ?_, ?_⟩
  · obtain ⟨inner, made, ran, hp⟩ := exists_ok (runSteps (nestedFuel + 3) nestedBuilding)
      (opened.entered 1) (fun made => decide (made.built = 3 ∧ registrations made.history 1 = 2))
      (by decide +kernel)
    obtain ⟨hbuilt, hcount⟩ := of_decide_eq_true hp
    obtain ⟨report, after, hr, -⟩ := exists_ok (nesting.run (nestedFuel + 3) 1) opened
      (fun _ => true) (by decide +kernel)
    have hc : Constructs (nestedFuel + 3) 1 opened nesting none .index
        ⟨made.built, "third", .probe []⟩ made := .probe ran
    rw [hbuilt] at hc
    obtain ⟨id, -, hj⟩ := hjoins _ _ _ _ _ _ _ _ _ within hc hr
    exact ⟨made, id, after, hc, hcount, hj⟩
  · obtain ⟨first, between, ran, hp⟩ :=
      exists_ok (runStep (nestedFuel + 2) (.acquireText "r" "first" .translationUnit))
        (opened.entered 1) (fun between => decide (between.labels.lookup "r" = some 1 ∧
          between.built = 1 ∧ registrations between.history 1 = 1 ∧
          ((failing.run nestedFuel 1).run (between.holding 1)).1.isOk = true ∧
          registrations ((failing.run nestedFuel 1).run (between.holding 1)).2.history 1 = 2))
        (by decide +kernel)
    obtain ⟨found, hbuilt, hbefore, hok, hafter⟩ := of_decide_eq_true hp
    have inside : Within "r" nested
        ⟨nestedFuel, fun _ => 0, .work 1 failing, between.holding 1⟩ :=
      (((within.tail .building).tail (.rest ran)).tail .first).tail (.work rfl found)
    have hc : Constructs nestedFuel 1 (between.holding 1) failing (some .index) .index
        ⟨((between.holding 1).entered 1).built, "none", .probe atFailure⟩
        ((between.holding 1).entered 1) := .probe rfl
    have hentered : ((between.holding 1).entered 1).built = 1 := hbuilt
    rw [hentered] at hc
    exact ⟨_, (between.holding 1).entered 1, hok, hbefore, hafter,
      habandons _ _ _ _ _ _ _ _ inside hc⟩

end SyntaxHandles.RegistryScript
