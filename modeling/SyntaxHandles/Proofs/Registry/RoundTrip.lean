import SyntaxHandles.Proofs.Registry.Reuse

-- Native values that are wrapped and given back, at any point of any use of registries. Anything
-- may be wrapped with any owner, and only when the value is asked for is the owner looked at.

namespace SyntaxHandles

section Registry

variable {ρ : Type} {registry : Registry ρ} {id : ResourceId}

theorem Registry.dead_of_isAlive (h : Registry.Descending registry.live)
    (ha : registry.isAlive id = .ok false) : registry.Dead id := by
  rintro entry hm rfl
  by_cases hb : registry.borrow = .exclusive
  · have hconflict : registry.isAlive (registry.identity entry) =
        .error ⟨.read, registry.borrow⟩ := by
      simp [isAlive, identity, toRead, hb, bind, Except.bind]
    rw [hconflict] at ha
    cases ha
  · rw [isAlive_of_find? hb (h.find?_eq_some_iff.mpr ⟨hm, rfl⟩)] at ha
    cases ha

end Registry

section Tokens

variable {ρ ν : Type} {registry : Registry ρ} {raw back : ν} {owner : ResourceId} {fault : Fault}

-- A value is given back exactly while its owner is a unit and alive, and then as it was.
theorem Token.unwrap_eq_ok_iff : (Token.wrap raw owner).unwrap registry = .ok (.ok back) ↔
    back = raw ∧ owner.kind = .translationUnit ∧ registry.isAlive owner = .ok true := by
  by_cases hk : owner.kind = .translationUnit
  · rcases ha : registry.isAlive owner with conflict | alive
    · have hu : (Token.wrap raw owner).unwrap registry = .error conflict := by
        simp [unwrap, wrap, Registry.checkOwner, hk, ha, bind, Except.bind]
      rw [hu]
      exact iff_of_false (by simp) (by simp)
    · rw [Token.unwrap_of_isAlive (Token.wrap raw owner) hk ha]
      cases alive with
      | false => exact iff_of_false (by simp) (by simp)
      | true =>
          simp only [if_true, Except.ok.injEq, hk, and_true]
          exact eq_comm
  · rw [Token.unwrap_of_kind_ne (Token.wrap raw owner) hk]
    exact iff_of_false (by simp) fun h => hk h.2.1

-- What is wrong with an owner. Its kind is looked at first.
def ownerFault (owner : ResourceId) : Fault :=
  match owner.kind with
  | .index => .invalidHandle owner Refusal.notOwnedByUnit
  | .translationUnit => .invalidHandle owner Refusal.unitGone

theorem Token.unwrap_eq_fault (hb : registry.borrow ≠ .exclusive)
    (hn : ¬(owner.kind = .translationUnit ∧ registry.isAlive owner = .ok true)) :
    (Token.wrap raw owner).unwrap registry = .ok (.error (ownerFault owner)) := by
  rcases hk : owner.kind with _ | _
  · have hne : (Token.wrap raw owner).owner.kind ≠ .translationUnit := fun h => nomatch hk.symm.trans h
    rw [Token.unwrap_of_kind_ne _ hne, ownerFault, hk]
    rfl
  · obtain ⟨alive, ha⟩ := Registry.exists_isAlive hb owner
    obtain rfl : alive = false := Bool.eq_false_iff.mpr fun ht => hn ⟨hk, ht ▸ ha⟩
    rw [Token.unwrap_of_isAlive (Token.wrap raw owner) hk ha, ownerFault, hk]
    rfl

-- Only a unit that is dead is refused for what the registry says.
theorem Token.dead_of_fault (h : Registry.Descending registry.live)
    (hk : owner.kind = .translationUnit)
    (hu : (Token.wrap raw owner).unwrap registry = .ok (.error fault)) :
    registry.Dead owner ∧ fault = .invalidHandle owner Refusal.unitGone := by
  rcases ha : registry.isAlive owner with conflict | alive
  · simp [unwrap, wrap, Registry.checkOwner, hk, ha, bind, Except.bind] at hu
  · rw [Token.unwrap_of_isAlive (Token.wrap raw owner) hk ha] at hu
    cases alive with
    | false => exact ⟨Registry.dead_of_isAlive h ha, (Except.error.inj (Except.ok.inj hu)).symm⟩
    | true => cases hu

-- Two tokens are the same exactly if their owners and all words of their values are.
theorem CursorToken.same_iff {token other : CursorToken} : token.same other = true ↔
    token.owner = other.owner ∧ token.raw.kind = other.raw.kind ∧
      token.raw.xdata = other.raw.xdata ∧ token.raw.data = other.raw.data := by
  simp only [CursorToken.same, Bool.and_eq_true, beq_iff_eq, and_assoc]

theorem CursorToken.same_iff_eq {token other : CursorToken} :
    token.same other = true ↔ token = other := by
  refine ⟨fun h => ?_, fun h => same_iff.mpr (h ▸ ⟨rfl, rfl, rfl, rfl⟩)⟩
  obtain ⟨⟨kind, xdata, data⟩, owner⟩ := token
  obtain ⟨⟨kind', xdata', data'⟩, owner'⟩ := other
  obtain ⟨rfl, rfl, rfl, rfl⟩ := same_iff.mp h
  rfl

theorem TypeToken.same_iff {token other : TypeToken} : token.same other = true ↔
    token.owner = other.owner ∧ token.raw.kind = other.raw.kind ∧
      token.raw.data = other.raw.data := by
  simp only [TypeToken.same, Bool.and_eq_true, beq_iff_eq, and_assoc]

theorem TypeToken.same_iff_eq {token other : TypeToken} :
    token.same other = true ↔ token = other := by
  refine ⟨fun h => ?_, fun h => same_iff.mpr (h ▸ ⟨rfl, rfl, rfl⟩)⟩
  obtain ⟨⟨kind, data⟩, owner⟩ := token
  obtain ⟨⟨kind', data'⟩, owner'⟩ := other
  obtain ⟨rfl, rfl, rfl⟩ := same_iff.mp h
  rfl

end Tokens

namespace Collection

variable {ρ : Type} {c d : Collection ρ} {key : Nat} {grant : Grant ρ}

-- No identity that was given out comes again, neither from its own registry nor from another one.
theorem Steps.id_ne_of_given (reached : Steps {} c) (later : Steps c d) (few : d.Few)
    (given : grant ∈ c.grants) (apart : grant.key = key ∨ d.made < UInt32.size)
    {since : List (Grant ρ)} (hs : d.grants = since ++ c.grants) :
    ∀ other ∈ since, other.key = key → other.id ≠ grant.id := by
  intro other hm hk he
  have hd : Steps {} d := reached.trans later
  have hother : other ∈ d.grants := hs ▸ List.mem_append_left _ hm
  have hgrant : grant ∈ d.grants := hs ▸ List.mem_append_right _ given
  by_cases hsame : grant.key = key
  · obtain ⟨newer, older, rfl⟩ := List.append_of_mem hm
    obtain ⟨between, earlier, hg⟩ := List.append_of_mem given
    have hsplit : d.grants = newer ++ other :: (older ++ between ++ grant :: earlier) := by
      rw [hs, hg]
      simp
    exact (numbered_new.steps hd).id_ne (Nat.le_of_lt (few _)) hsplit (hsame.trans hk.symm) he.symm
  · have hr := hd.ruled few
    obtain ⟨hmade, hregistry, -⟩ := hr.granted other hother
    have hforeign := hr.foreign (apart.resolve_left hsame) hgrant (hk ▸ hmade) hsame
    rw [← he, hregistry, hk, ← hr.ids] at hforeign
    exact hforeign rfl

-- A native value that is wrapped with an identity comes back unchanged exactly while the identity
-- belongs to a unit that is alive in the registry that is asked; otherwise the fault carries the
-- identity, and says that it is of the wrong kind, or else that it is gone. Once it has come to this,
-- it stays so until the registry gives out that very identity, which it does not unless serials or
-- numbers of registries have all been used. What comes back makes the same token again, and tokens
-- are the same exactly if their owners and all words of their values are.
theorem tokens_round_trip (reached : Steps {} c) (given : grant ∈ c.grants) (key : Nat) :
    (∀ (ν : Type) (raw : ν),
      (∀ back, (Token.wrap raw grant.id).unwrap (c.registries key) = .ok (.ok back) ↔
        back = raw ∧ grant.id.kind = .translationUnit ∧
          (c.registries key).isAlive grant.id = .ok true) ∧
      ((c.registries key).borrow ≠ .exclusive →
        ¬(grant.id.kind = .translationUnit ∧ (c.registries key).isAlive grant.id = .ok true) →
          (Token.wrap raw grant.id).unwrap (c.registries key) =
            .ok (.error (ownerFault grant.id))) ∧
      (∀ back, (Token.wrap raw grant.id).unwrap (c.registries key) = .ok (.ok back) →
        Token.wrap back grant.id = Token.wrap raw grant.id) ∧
      ∀ fault d, (Token.wrap raw grant.id).unwrap (c.registries key) = .ok (.error fault) →
        Steps c d → (d.registries key).borrow ≠ .exclusive →
          (d.Few ∧ (grant.key = key ∨ d.made < UInt32.size) ∨ ∀ since, d.grants = since ++ c.grants →
            ∀ other ∈ since, other.key = key → other.id ≠ grant.id) →
              (Token.wrap raw grant.id).unwrap (d.registries key) = .ok (.error fault)) ∧
    (∀ (token : CursorToken) back, token.unwrap (c.registries key) = .ok (.ok back) →
      CursorToken.same (.wrap back token.owner) token = true) ∧
    (∀ (token : TypeToken) back, token.unwrap (c.registries key) = .ok (.ok back) →
      TypeToken.same (.wrap back token.owner) token = true) ∧
    (∀ token other : CursorToken, (token.same other = true ↔ token = other) ∧
      (token.same other = true ↔ token.owner = other.owner ∧ token.raw.kind = other.raw.kind ∧
        token.raw.xdata = other.raw.xdata ∧ token.raw.data = other.raw.data)) ∧
    ∀ token other : TypeToken, (token.same other = true ↔ token = other) ∧
      (token.same other = true ↔ token.owner = other.owner ∧ token.raw.kind = other.raw.kind ∧
        token.raw.data = other.raw.data) := by
  refine ⟨fun ν raw => ⟨fun back => Token.unwrap_eq_ok_iff, Token.unwrap_eq_fault,
    fun back hu => ?_, fun fault d hu later hb hnew => ?_⟩, fun token back hu => ?_,
    fun token back hu => ?_, fun _ _ => ⟨CursorToken.same_iff_eq, CursorToken.same_iff⟩,
    fun _ _ => ⟨TypeToken.same_iff_eq, TypeToken.same_iff⟩⟩
  · rw [(Token.unwrap_eq_ok_iff.mp hu).1]
  · by_cases hk : grant.id.kind = .translationUnit
    · have hc := numbered_new.steps reached
      have hfresh : ∀ since, d.grants = since ++ c.grants →
          ∀ other ∈ since, other.key = key → other.id ≠ grant.id := by
        rcases hnew with ⟨few, apart⟩ | hnew
        · exact fun since hs => reached.id_ne_of_given later few given apart hs
        · exact hnew
      obtain ⟨hdead, rfl⟩ := Token.dead_of_fault (hc.descending key) hk hu
      exact Token.unwrap_of_isAlive (Token.wrap raw grant.id) hk
        (Registry.isAlive_of_dead hb (Steps.dead hc later hdead hfresh))
    · rw [Token.unwrap_of_kind_ne (Token.wrap raw grant.id) hk] at hu ⊢
      exact hu
  · obtain rfl := (Token.unwrap_eq_ok_iff.mp hu).1
    exact CursorToken.same_iff.mpr ⟨rfl, rfl, rfl, rfl⟩
  · obtain rfl := (Token.unwrap_eq_ok_iff.mp hu).1
    exact TypeToken.same_iff.mpr ⟨rfl, rfl, rfl⟩

-- The unit of the first registry is gone.
def sampleDisposed : Collection String :=
  sample.withRegistry 1 { id := 1, nextSerial := 2 }

-- There is another one.
def sampleAgain : Collection String :=
  (sampleDisposed.withRegistry 1
    { id := 1, nextSerial := 3, live := [⟨2, .translationUnit, "b"⟩] }).granting
      ⟨1, ⟨1, 2, .translationUnit⟩, "b"⟩

theorem sample_reached : Steps {} sample := by
  have first : Registry.register { id := 1 } .translationUnit "a" =
      .ok (⟨1, 1, .translationUnit⟩, none,
        { id := 1, nextSerial := 2, live := [⟨1, .translationUnit, "a"⟩] }) := rfl
  exact .tail (.tail (.single .make) .make) (.acquire (Nat.le_succ 1) first)

theorem sampleAgain_reached : Steps sampleDisposed sampleAgain := by
  have second : Registry.register { id := 1, nextSerial := 2 } .translationUnit "b" =
      .ok (⟨1, 2, .translationUnit⟩, none,
        { id := 1, nextSerial := 3, live := [⟨2, .translationUnit, "b"⟩] }) := rfl
  exact .single (.acquire (Nat.le_succ 1) second)

-- A value comes back while its unit is alive, and neither from another registry nor afterwards.
theorem tokens_round_trip_of_sample :
    (Token.wrap 7 ⟨1, 1, .translationUnit⟩).unwrap (sample.registries 1) = .ok (.ok 7) ∧
      (Token.wrap 7 ⟨1, 1, .translationUnit⟩).unwrap (sample.registries 2) = .ok (.error
        (.invalidHandle ⟨1, 1, .translationUnit⟩ Refusal.unitGone)) ∧
      (Token.wrap 7 ⟨1, 1, .translationUnit⟩).unwrap (sampleAgain.registries 1) = .ok (.error
        (.invalidHandle ⟨1, 1, .translationUnit⟩ Refusal.unitGone)) := by
  have given : ⟨1, ⟨1, 1, .translationUnit⟩, "a"⟩ ∈ sample.grants := .head _
  have taken : (sample.registries 1).take ⟨1, 1, .translationUnit⟩ =
      .ok (some "a", { id := 1, nextSerial := 2 }) := rfl
  have disposed : Steps {} sampleDisposed := sample_reached.tail (.dispose taken)
  have own := (tokens_round_trip sample_reached given 1).1 Nat 7
  have other := (tokens_round_trip sample_reached given 2).1 Nat 7
  have gone := (tokens_round_trip disposed given 1).1 Nat 7
  have few : sampleAgain.Few := fun key => by
    have hle : sampleAgain.count key ≤ 2 := List.countP_le_length
    exact Nat.lt_of_le_of_lt hle (by decide)
  refine ⟨(own.1 7).mpr ⟨rfl, rfl, rfl⟩, other.2.1 nofun (fun h => nomatch h.2), ?_⟩
  exact gone.2.2.2 _ _ (gone.2.1 nofun fun h => nomatch h.2) sampleAgain_reached nofun
    (.inl ⟨few, .inl rfl⟩)

theorem steps_make (n : Nat) : Steps ({} : Collection ρ) { made := n } := by
  induction n with
  | zero => exact .refl
  | succ n ih => exact ih.tail .make

-- More registries than there are numbers for them, and a unit in the first one. The last one has the
-- number of the first.
def sampleNumbers : Collection String :=
  (withRegistry { made := 4294967297 } 1
    { id := 1, nextSerial := 2, live := [⟨1, .translationUnit, "a"⟩] }).granting
      ⟨1, ⟨1, 1, .translationUnit⟩, "a"⟩

-- The last one has got a unit as well.
def sampleTwins : Collection String :=
  (sampleNumbers.withRegistry 4294967297
    { id := 1, nextSerial := 2, live := [⟨1, .translationUnit, "b"⟩] }).granting
      ⟨4294967297, ⟨1, 1, .translationUnit⟩, "b"⟩

-- A token of the first registry is refused by the last one, and later accepted.
theorem refused_tokens_are_accepted :
    Steps {} sampleNumbers ∧ Steps sampleNumbers sampleTwins ∧ sampleTwins.Few ∧
      ⟨1, ⟨1, 1, .translationUnit⟩, "a"⟩ ∈ sampleNumbers.grants ∧
      (Token.wrap 7 ⟨1, 1, .translationUnit⟩).unwrap (sampleNumbers.registries 4294967297) =
        .ok (.error (.invalidHandle ⟨1, 1, .translationUnit⟩ Refusal.unitGone)) ∧
      (Token.wrap 7 ⟨1, 1, .translationUnit⟩).unwrap (sampleTwins.registries 4294967297) =
        .ok (.ok 7) := by
  have first : Registry.register { id := 1 } .translationUnit "a" =
      .ok (⟨1, 1, .translationUnit⟩, none,
        { id := 1, nextSerial := 2, live := [⟨1, .translationUnit, "a"⟩] }) := rfl
  have second : (sampleNumbers.registries 4294967297).register .translationUnit "b" =
      .ok (⟨1, 1, .translationUnit⟩, none,
        { id := 1, nextSerial := 2, live := [⟨1, .translationUnit, "b"⟩] }) := rfl
  have few : sampleTwins.Few := fun key => by
    have hle : sampleTwins.count key ≤ 2 := List.countP_le_length
    exact Nat.lt_of_le_of_lt hle (by decide)
  have numbered : Steps {} sampleNumbers :=
    (steps_make 4294967297).tail (.acquire (by decide) first)
  exact ⟨numbered, .single (.acquire (Nat.le_refl _) second), few, .head _, rfl, rfl⟩

end Collection

end SyntaxHandles
