import SyntaxHandles.Proofs.Session.Runs

-- Where the tokens of a unit come from: they are got from its root by questions and traversals, in
-- any number of steps, and what they stand for was taken from the unit by the library.

namespace SyntaxHandles

inductive AnyToken
  | cursor (token : CursorToken)
  | type (token : TypeToken)

namespace AnyToken

def owner : AnyToken → ResourceId
  | cursor token => token.owner
  | type token => token.owner

def subject : AnyToken → Native.Subject
  | cursor token => .node token.raw
  | type token => .type token.raw

end AnyToken

def Answer.token? : Answer → Option AnyToken
  | .cursor token => some (.cursor token)
  | .type token => some (.type token)
  | _ => none

theorem Answer.Of.token {owner : ResourceId} {named : Option Native.Subject} {answer : Answer}
    (h : answer.Of owner named) {token : AnyToken} (ht : answer.token? = some token) :
    token.owner = owner ∧ named = some token.subject := by
  cases answer with
  | cursor | type =>
      obtain rfl := Option.some.inj ht
      exact h
  | _ => exact nomatch ht

-- What is taken from a tree: its root, and what the library names when it is asked about what was
-- taken before. The answers may be those of several libraries.
inductive Native.Taken (among : Native.Library → Prop) (root : Native.Cursor) :
    Native.Subject → Prop
  | root : Taken among root (.node root)
  | child {library : Native.Library} {node child : Native.Cursor} (asked : among library)
      (source : Taken among root (.node node)) (listed : child ∈ library.children node) :
      Taken among root (.node child)
  | ofNode {library : Native.Library} {node : Native.Cursor} {query : CursorQuery}
      {named : Native.Subject} (asked : among library) (source : Taken among root (.node node))
      (answer : library.ofNode? node query = some named) : Taken among root named
  | ofType {library : Native.Library} {type : Native.TypeValue} {query : TypeQuery}
      {named : Native.Subject} (asked : among library) (source : Taken among root (.type type))
      (answer : library.ofType? type query = some named) : Taken among root named

namespace Session

variable {library : Native.Library} {among : Native.Library → Prop} {key : Nat}
  {handle : UnitHandle} {s t : Thread}

-- A handle stands for a unit, which the library knows by its number.
def Names (key : Nat) (thread : Thread) (handle : UnitHandle) (unit : Nat) : Prop :=
  ∃ root filename, (Session.unit key handle).run thread = (.ok (⟨unit, root⟩, filename), thread)

theorem Names.exists_entry {unit : Nat} (h : Names key s handle unit) :
    handle.id.registry = (s.sessions key).id ∧
      ∃ entry, (s.sessions key).find? handle.id.serial = some entry ∧
        entry.kind = handle.id.kind ∧ entry.resource.unitNumber? = some unit := by
  obtain ⟨root, filename, h⟩ := h
  rw [run_unit] at h
  rcases hl : (s.sessions key).look handle.id Resource.asUnit? with _ | _ | named
  · rw [hl] at h
    exact nomatch (Prod.mk.inj h).1
  · rw [hl] at h
    exact nomatch (Prod.mk.inj h).1
  · rw [hl] at h
    obtain rfl := Except.ok.inj (Prod.mk.inj h).1
    obtain ⟨hr, entry, hf, hk, hv⟩ := Registry.look_eq_ok hl
    refine ⟨hr, entry, hf, hk, ?_⟩
    cases he : entry.resource <;> simp_all [Resource.asUnit?, Resource.unitNumber?]

-- What comes from a unit, in any number of steps. They may be taken in any state of the thread; a
-- traversal that does not end hands out no more than those that end at one of its visits.
inductive Stems (among : Native.Library → Prop) (key : Nat) (handle : UnitHandle) (s : Thread) :
    AnyToken → Prop
  | root {token : CursorToken} {after : Thread}
      (root : (Session.root key handle).run s = (.ok token, after)) :
      Stems among key handle s (.cursor token)
  | askCursor {token : CursorToken} {found : AnyToken} {library : Native.Library} {k : Nat}
      {query : CursorQuery} {thread after : Thread} {answer : Answer}
      (source : Stems among key handle s (.cursor token)) (asked : among library)
      (ask : (Session.askCursor library k query token).run thread = (.ok answer, after))
      (is : answer.token? = some found) : Stems among key handle s found
  | askType {token : TypeToken} {found : AnyToken} {library : Native.Library} {k : Nat}
      {query : TypeQuery} {thread after : Thread} {answer : Answer}
      (source : Stems among key handle s (.type token)) (asked : among library)
      (ask : (Session.askType library k query token).run thread = (.ok answer, after))
      (is : answer.token? = some found) : Stems among key handle s found
  | handed {τ ε : Type} {root child parent token : CursorToken} {library : Native.Library} {k : Nat}
      {convert : Interrupt → ε}
      {visit : (child parent : CursorToken) → Thread × τ → Except ε ChildVisit × (Thread × τ)}
      {fuel : Nat} {walker : Traversal.Walker} {start : Thread × τ}
      {ended : Traversal.Ended ε ((Thread × τ) × List (Traversal.Request CursorToken))}
      (source : Stems among key handle s (.cursor root)) (asked : among library)
      (walk : Traversal.run (host library k convert visit).traced fuel root walker (start, []) =
        some ended)
      (visited : .visit child parent ∈ ended.host.2) (is : token = child ∨ token = parent) :
      Stems among key handle s (.cursor token)

-- The same, whatever the libraries answer.
abbrev Derives (key : Nat) (handle : UnitHandle) (s : Thread) : AnyToken → Prop :=
  Stems (fun _ => True) key handle s

section Ownership

theorem root_ok {token : CursorToken} {after : Thread}
    (h : (Session.root key handle).run s = (.ok token, after)) :
    token.owner = handle.id ∧ ∃ parsed filename,
      (Session.unit key handle).run s = (.ok (parsed, filename), s) ∧ token.raw = parsed.root := by
  simp only [Session.root, Effect.run_bind] at h
  rcases hu : (Session.unit key handle).run s with ⟨_ | ⟨parsed, filename⟩, s'⟩
  · rw [hu] at h
    cases (Prod.mk.inj h).1
  · rw [hu] at h
    obtain rfl := Except.ok.inj (Prod.mk.inj h).1
    have hs : ((Session.unit key handle).run s).2 = s := by
      rw [run_unit]
      rcases (s.sessions key).look handle.id Resource.asUnit? with _ | _ | _ <;> rfl
    rw [hu] at hs
    obtain rfl : s' = s := hs
    exact ⟨rfl, parsed, filename, rfl, rfl⟩

-- What holds of a node and of all that is listed below it.
theorem host_handsDown {τ ε : Type} {convert : Interrupt → ε}
    {visit : (child parent : CursorToken) → Thread × τ → Except ε ChildVisit × (Thread × τ)}
    {P : CursorToken → Prop}
    (h : ∀ node child : CursorToken, P node → child.owner = node.owner →
      child.raw ∈ library.children node.raw → P child) :
    (host library key convert visit).HandsDown P := by
  intro node s listed after hn hc child hm
  obtain ⟨howner, hraw⟩ := host_lists hc child hm
  exact h node child hn howner hraw

theorem Stems.exists_unit {token : AnyToken} (h : Stems among key handle s token) :
    ∃ parsed filename, (Session.unit key handle).run s = (.ok (parsed, filename), s) := by
  induction h with
  | root root =>
      obtain ⟨-, parsed, filename, hu, -⟩ := root_ok root
      exact ⟨parsed, filename, hu⟩
  | askCursor _ _ _ _ ih => exact ih
  | askType _ _ _ _ ih => exact ih
  | handed _ _ _ _ _ ih => exact ih

theorem Stems.names {token : AnyToken} (h : Stems among key handle s token) :
    ∃ unit, Names key s handle unit := by
  obtain ⟨parsed, filename, hu⟩ := h.exists_unit
  exact ⟨parsed.number, parsed.root, filename, hu⟩

-- A traversal lists and hands out only what its root hands down.
theorem traversal_taken {τ ε : Type} {root : CursorToken} {owner : ResourceId}
    {tree : Native.Cursor} {k : Nat} {convert : Interrupt → ε}
    {visit : (child parent : CursorToken) → Thread × τ → Except ε ChildVisit × (Thread × τ)}
    {fuel : Nat} {walker : Traversal.Walker} {start : Thread × τ}
    {ended : Traversal.Ended ε ((Thread × τ) × List (Traversal.Request CursorToken))}
    (asked : among library) (howner : root.owner = owner)
    (htaken : Native.Taken among tree (.node root.raw))
    (walk : Traversal.run (host library k convert visit).traced fuel root walker (start, []) =
      some ended) :
    ∀ request ∈ ended.host.2, request.All fun node =>
      node.owner = owner ∧ Native.Taken among tree (.node node.raw) := by
  refine Traversal.run_handed (host_handsDown fun node child hn ho hm => ?_) ⟨howner, htaken⟩ walk
  exact ⟨ho.trans hn.1, .child asked hn.2 hm⟩

theorem Stems.owner_and_taken {token : AnyToken} (h : Stems among key handle s token)
    {parsed : Native.ParsedUnit} {filename : String}
    (hu : (Session.unit key handle).run s = (.ok (parsed, filename), s)) :
    token.owner = handle.id ∧ Native.Taken among parsed.root token.subject := by
  induction h with
  | root root =>
      obtain ⟨howner, parsed', filename', hu', hraw⟩ := root_ok root
      obtain ⟨rfl, -⟩ := Prod.mk.inj (Except.ok.inj (Prod.mk.inj (hu.symm.trans hu')).1)
      refine ⟨howner, ?_⟩
      rw [AnyToken.subject, hraw]
      exact .root
  | askCursor _ asked ask is ih =>
      obtain ⟨howner, hnamed⟩ := (ask ▸ askCursor_inquiry _ _).keeps.token is
      exact ⟨howner.trans ih.1, .ofNode asked ih.2 hnamed⟩
  | askType _ asked ask is ih =>
      obtain ⟨howner, hnamed⟩ := (ask ▸ askType_inquiry _ _).keeps.token is
      exact ⟨howner.trans ih.1, .ofType asked ih.2 hnamed⟩
  | handed _ asked walk visited is ih =>
      obtain ⟨hchild, hparent⟩ := traversal_taken asked ih.1 ih.2 walk _ visited
      rcases is with rfl | rfl
      · exact hchild
      · exact hparent

theorem Stems.owner {token : AnyToken} (h : Stems among key handle s token) :
    token.owner = handle.id := by
  obtain ⟨parsed, filename, hu⟩ := h.exists_unit
  exact (h.owner_and_taken hu).1

end Ownership

section Minding

-- The library is asked about a unit, and about nothing in it but one subject. It is not asked once
-- the unit was given back to it.
def Minds (unit : Nat) (subject : Option Native.Subject) (s t : Thread) : Prop :=
  s.native.Asks (some unit) subject t.native ∧ (.disposeUnit unit ∈ s.native.log → t = s)

-- All that can be done with a token minds a unit.
def Tends (key unit : Nat) (s : Thread) : AnyToken → Prop
  | .cursor token =>
      (∀ library, Minds unit (some (.node token.raw)) s ((children library key token).run s).2) ∧
      ∀ library query, Minds unit (some (.node token.raw)) s
        ((askCursor library key query token).run s).2
  | .type token => ∀ library query,
      Minds unit (some (.type token.raw)) s ((askType library key query token).run s).2

variable {others : List Resource} {unit : Nat}

-- What is asked about an identity later on is asked about the unit that it stood for.
theorem AsksFor.minds {subject : Option Native.Subject} {after : Thread}
    (hc : Carries key others s t) (hs : Sound key others s) (hn : Names key s handle unit)
    (h : AsksFor key handle.id subject t after) : Minds unit subject t after := by
  cases h with
  | nothing => exact ⟨.nothing, fun _ => rfl⟩
  | asked _ found _ _ asks =>
      obtain ⟨-, entry, hf, -, hu⟩ := hn.exists_entry
      obtain ⟨hm, he⟩ := hs.issued.find?_eq_some_iff.mp hf
      obtain ⟨hm', he'⟩ := hc.sound.issued.find?_eq_some_iff.mp found
      obtain rfl := hc.lasts.eq_of_serial hs.issued hm hm' (he'.trans he.symm)
      have hheld := List.mem_append_left others (List.mem_map_of_mem (f := (·.resource)) hm')
      have halive := (hc.sound.accounts.unitAlive unit).mpr (List.mem_filterMap.mpr ⟨_, hheld, hu⟩)
      exact ⟨hu ▸ asks, fun hd => absurd hd halive.2⟩

theorem tends_of_owner (hc : Carries key others s t) (hs : Sound key others s)
    (hn : Names key s handle unit) {token : AnyToken} (ho : token.owner = handle.id) :
    Tends key unit t token := by
  cases token with
  | cursor token =>
      have ho : token.owner = handle.id := ho
      exact ⟨fun _ => (ho ▸ (children_inquiry token).asksFor).minds hc hs hn,
        fun _ query => (ho ▸ (askCursor_inquiry query token).asksFor).minds hc hs hn⟩
  | type token =>
      have ho : token.owner = handle.id := ho
      exact fun _ query => (ho ▸ (askType_inquiry query token).asksFor).minds hc hs hn

end Minding

end Session

end SyntaxHandles
