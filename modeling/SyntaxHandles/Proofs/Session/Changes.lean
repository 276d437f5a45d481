import SyntaxHandles.Session.Basic
import SyntaxHandles.Proofs.Effect
import SyntaxHandles.Proofs.Native.Accounts
import SyntaxHandles.Proofs.Registry.Issued
import Mathlib.Logic.Relation

-- All that an operation on a session can do to its thread.

namespace SyntaxHandles

open Effect

-- The kind under which a resource is tracked.
def Resource.kind : Resource → ResourceKind
  | .index _ => .index
  | .unit .. => .translationUnit

-- What the library names when it is asked about a node or a type.
def Native.Library.ofNode? (library : Native.Library) (raw : Native.Cursor) :
    CursorQuery → Option Native.Subject
  | .type => some (.type (library.type raw))
  | .underlyingType => some (.type (library.underlyingType raw))
  | .resultType => some (.type (library.resultType raw))
  | .argument index => some (.node (library.argument raw index))
  | _ => none

def Native.Library.ofType? (library : Native.Library) (raw : Native.TypeValue) :
    TypeQuery → Option Native.Subject
  | .result => some (.type (library.typeResult raw))
  | .argument index => some (.type (library.typeArgument raw index))
  | .canonical => some (.type (library.canonical raw))
  | .pointee => some (.type (library.pointee raw))
  | _ => none

-- An answer that is a token is a token of the same unit, for what the library has named.
def Answer.Of (owner : ResourceId) (named : Option Native.Subject) : Answer → Prop
  | .cursor token => token.owner = owner ∧ named = some (.node token.raw)
  | .type token => token.owner = owner ∧ named = some (.type token.raw)
  | _ => True

namespace Thread

variable {key : Nat}

def withNative (thread : Thread) (native : Native.State) : Thread :=
  { thread with native }

def withSession (thread : Thread) (key : Nat) (registry : Registry Resource) : Thread :=
  { thread with sessions := fun k => if k = key then registry else thread.sessions k }

def withTracked (thread : Thread) (key : Nat) : Thread :=
  { thread with tracked := fun k => if k = key then thread.tracked k + 1 else thread.tracked k }

-- A session that has come to own one more resource, and perhaps lost another one by it.
def owning (thread : Thread) (key : Nat) (registry : Registry Resource)
    (displaced : Option Resource) : Thread :=
  let thread := (thread.withSession key registry).withTracked key
  match displaced with
  | none => thread
  | some old => thread.withNative (thread.native.release old)

@[simp] theorem withNative_native (thread : Thread) (native : Native.State) :
    (thread.withNative native).native = native := rfl

@[simp] theorem withNative_sessions (thread : Thread) (native : Native.State) :
    (thread.withNative native).sessions = thread.sessions := rfl

@[simp] theorem withNative_withNative (thread : Thread) (native native' : Native.State) :
    (thread.withNative native).withNative native' = thread.withNative native' := rfl

theorem withSession_sessions {thread : Thread} {registry : Registry Resource} :
    (thread.withSession key registry).sessions key = registry :=
  if_pos rfl

theorem withSession_sessions_of_ne {thread : Thread} {registry : Registry Resource} {k : Nat}
    (hk : k ≠ key) : (thread.withSession key registry).sessions k = thread.sessions k :=
  if_neg hk

theorem withSession_self (thread : Thread) (key : Nat) :
    thread.withSession key (thread.sessions key) = thread := by
  have hs : (fun k => if k = key then thread.sessions key else thread.sessions k) =
      thread.sessions := by
    funext k
    by_cases hk : k = key
    · rw [if_pos hk, hk]
    · rw [if_neg hk]
  simp only [withSession, hs]

section Owning

variable {thread : Thread} {registry : Registry Resource} {displaced : Option Resource} {k : Nat}

theorem owning_sessions : (thread.owning key registry displaced).sessions key = registry := by
  cases displaced <;> exact if_pos rfl

theorem owning_sessions_of_ne (hk : k ≠ key) :
    (thread.owning key registry displaced).sessions k = thread.sessions k := by
  cases displaced <;> exact if_neg hk

theorem owning_tracked :
    (thread.owning key registry displaced).tracked key = thread.tracked key + 1 := by
  cases displaced <;> exact if_pos rfl

theorem owning_tracked_of_ne (hk : k ≠ key) :
    (thread.owning key registry displaced).tracked k = thread.tracked k := by
  cases displaced <;> exact if_neg hk

theorem owning_holders : (thread.owning key registry displaced).holders = thread.holders := by
  cases displaced <;> rfl

theorem owning_started : (thread.owning key registry displaced).started = thread.started := by
  cases displaced <;> rfl

theorem owning_current : (thread.owning key registry displaced).current = thread.current := by
  cases displaced <;> rfl

theorem log_suffix_owning (thread : Thread) :
    thread.native.log <:+ (thread.owning key registry displaced).native.log := by
  cases displaced with
  | none => exact List.suffix_rfl
  | some old => exact thread.native.release_log_suffix old

end Owning

theorem run_session (key : Nat) (s : Thread) :
    (session key).run s = (.ok (s.sessions key), s) := rfl

theorem run_setSession (key : Nat) (registry : Registry Resource) (s : Thread) :
    (setSession key registry).run s = (.ok (), s.withSession key registry) := rfl

theorem run_countTracked (key : Nat) (s : Thread) :
    (countTracked key).run s = (.ok (), s.withTracked key) := rfl

theorem run_natively (f : Native.State → Native.State) (s : Thread) :
    (natively f).run s = (.ok (), s.withNative (f s.native)) := rfl

theorem run_call (call : Native.Call) (s : Thread) :
    (Thread.call call).run s = (.ok (), s.withNative (s.native.note call)) := rfl

theorem run_fail {α : Type} (fault : Fault) (s : Thread) :
    (fail fault : Operation α).run s = (.error (.fault fault), s) := rfl

theorem run_settle {α : Type} (settled : Except Conflict α) (s : Thread) :
    (settle settled).run s = (settled.mapError .conflict, s) := by
  cases settled <;> rfl

theorem run_raise {α : Type} (raised : Except Fault α) (s : Thread) :
    (raise raised).run s = (raised.mapError .fault, s) := by
  cases raised <;> rfl

theorem run_release (resource : Resource) (s : Thread) :
    (release resource).run s = (.ok (), s.withNative (s.native.release resource)) := by
  cases resource <;> rfl

end Thread

namespace Session

open Thread

variable {library : Native.Library} {key : Nat} {s : Thread}

section Strings

-- Text from the library ends before its first zero.
def textOf (contents : Option Native.Bytes) : Option String :=
  contents.map fun bytes => Text.decode (bytes.takeWhile (· ≠ 0))

-- A string is given back, whatever it says.
theorem run_readOption (contents : Option Native.Bytes) (s : Thread) :
    (readOption contents).run s = (.ok (textOf contents), s.withNative s.native.useString) := by
  cases contents <;> rfl

theorem run_readText (contents : Option Native.Bytes) (s : Thread) :
    (readText contents).run s =
      (.ok ((textOf contents).getD ""), s.withNative s.native.useString) := by
  have h : readText contents = (do return (← readOption contents).getD "") := by
    simp only [readText, readOption, OwnedString.intoText, bind_assoc]
  rw [h, run_bind, run_readOption]
  rfl

end Strings

-- What a question about an identity leaves of a thread. The library is not asked, or only about
-- the unit that the identity stands for.
inductive AsksFor (key : Nat) (id : ResourceId) (subject : Option Native.Subject) (s : Thread) :
    Thread → Prop
  | nothing : AsksFor key id subject s s
  | asked {entry : Entry Resource} {native : Native.State}
      (registry : id.registry = (s.sessions key).id)
      (found : (s.sessions key).find? id.serial = some entry) (kind : entry.kind = id.kind)
      (unit : entry.kind = entry.resource.kind → entry.resource.kind = .translationUnit)
      (asks : s.native.Asks entry.resource.unitNumber? subject native) :
      AsksFor key id subject s (s.withNative native)

-- What an operation leaves of a thread. The registry of the session tells what happens to entries.
inductive Changes (key : Nat) (s : Thread) : Thread → Prop
  | nothing : Changes key s s
  | asked {entry : Entry Resource} {subject : Option Native.Subject} {native : Native.State}
      (mem : entry ∈ (s.sessions key).live)
      (unit : entry.kind = entry.resource.kind → entry.resource.kind = .translationUnit)
      (asks : s.native.Asks entry.resource.unitNumber? subject native) :
      Changes key s (s.withNative native)
  | noIndex (exclude display : Bool) :
      Changes key s (s.withNative (s.native.note (.createIndex exclude display none)))
  | madeIndex {exclude display : Bool} {id : ResourceId} {displaced : Option Resource}
      {registry : Registry Resource}
      (register : (s.sessions key).register .index (.index (s.native.indices + 1)) =
        .ok (id, displaced, registry)) :
      Changes key s
        ((s.withNative (s.native.makeIndex exclude display)).owning key registry displaced)
  | notParsed {entry : Entry Resource} {index : Nat} (mem : entry ∈ (s.sessions key).live)
      (is : entry.resource = .index index) :
      Changes key s (s.withNative ((s.native.share index).unshare index))
  | noUnit {entry : Entry Resource} {index : Nat} (mem : entry ∈ (s.sessions key).live)
      (is : entry.resource = .index index) (filename : String) (args : Option (List String))
      (count : Int32) (flags : UInt32) (code : Int32) :
      Changes key s (s.withNative (((s.native.share index).note
        (.parse index filename args count flags none code)).unshare index))
  | madeUnit {entry : Entry Resource} {index : Nat} {root : Native.Cursor} {filename : String}
      {args : Option (List String)} {count : Int32} {flags : UInt32} {code : Int32} {id : ResourceId}
      {displaced : Option Resource} {registry : Registry Resource}
      (mem : entry ∈ (s.sessions key).live) (is : entry.resource = .index index)
      (register : (s.sessions key).register .translationUnit
        (.unit ⟨s.native.units + 1, root⟩ filename index) = .ok (id, displaced, registry)) :
      Changes key s
        ((s.withNative ((s.native.share index).makeUnit index filename args count flags code)).owning
          key registry displaced)
  | disposed {id : ResourceId} {resource : Resource} {registry : Registry Resource}
      (take : (s.sessions key).take id = .ok (some resource, registry)) :
      Changes key s
        ((s.withSession key registry).withNative (s.native.release resource))
  | drained {resource : Resource} {registry : Registry Resource}
      (take : (s.sessions key).takeNewest = .ok (some resource, registry)) :
      Changes key s
        ((s.withSession key registry).withNative (s.native.release resource))

theorem AsksFor.changes {id : ResourceId} {subject : Option Native.Subject} {t : Thread}
    (h : AsksFor key id subject s t) : Changes key s t := by
  cases h with
  | nothing => exact .nothing
  | asked _ found _ unit asks => exact .asked (List.mem_of_find?_eq_some found) unit asks

theorem run_track (key : Nat) (kind : ResourceKind) (resource : Resource) (s : Thread) :
    (track key kind resource).run s = match (s.sessions key).register kind resource with
      | .ok (id, displaced, registry) => (.ok id, s.owning key registry displaced)
      | .error conflict => (.error (.conflict conflict), s) := by
  simp only [track, run_bind, run_session, run_settle, run_setSession, run_countTracked]
  rcases (s.sessions key).register kind resource with _ | ⟨id, displaced, registry⟩
  · rfl
  · cases displaced with
    | none => rfl
    | some old => simp only [Except.mapError, run_bind, run_release, run_pure, owning]

theorem createIndex_changes (hf : (s.sessions key).borrow = .free) (options : IndexOptions) :
    Changes key s ((createIndex library key options).run s).2 := by
  simp only [createIndex]
  split
  · obtain ⟨id, displaced, registry, hr⟩ :=
      Registry.exists_register hf .index (.index (s.native.indices + 1))
    simp only [run_bind, run_get, run_natively, run_call, withNative_native, withNative_withNative,
      run_track, withNative_sessions, hr]
    exact .madeIndex hr
  · exact .noIndex _ _

theorem parse_changes (hf : (s.sessions key).borrow = .free) (handle : IndexHandle)
    (filename : String) (options : ParseOptions) :
    Changes key s ((parse library key handle filename options).run s).2 := by
  simp only [parse, run_bind, run_session, run_settle]
  rcases hl : (s.sessions key).look handle.id Resource.asIndex? with _ | looked
  · exact .nothing
  · rcases looked with fault | index
    · exact .nothing
    · obtain ⟨-, entry, hf', -, hv⟩ := Registry.look_eq_ok hl
      have hm := List.mem_of_find?_eq_some hf'
      have hi : entry.resource = .index index := by
        cases he : entry.resource <;> simp_all [Resource.asIndex?]
      simp only [Except.mapError, run_raise, run_natively, parseShared]
      cases checkParse filename options.args with
      | error fault =>
          simp only [run_bind, run_natively, run_fail, withNative_withNative, withNative_native]
          exact .notParsed hm hi
      | ok _ =>
          rcases (library.parse filename options.argv options.argc options.flags).root with _ | root
          · simp only [run_bind, run_call, run_natively, run_fail, withNative_withNative,
              withNative_native]
            exact .noUnit hm hi _ _ _ _ _
          · obtain ⟨id, displaced, registry, hr⟩ :=
              Registry.exists_register hf .translationUnit
                (.unit ⟨s.native.units + 1, root⟩ filename index)
            simp only [run_bind, run_get, run_natively, run_call, withNative_native,
              withNative_withNative, run_track, withNative_sessions, Native.State.share_units, hr]
            exact .madeUnit hm hi hr

theorem run_unit (key : Nat) (handle : UnitHandle) (s : Thread) :
    (Session.unit key handle).run s =
      match (s.sessions key).look handle.id Resource.asUnit? with
      | .ok (.ok named) => (.ok named, s)
      | .ok (.error fault) => (.error (.fault fault), s)
      | .error conflict => (.error (.conflict conflict), s) := by
  simp only [Session.unit, run_bind, run_session, run_settle]
  rcases (s.sessions key).look handle.id Resource.asUnit? with _ | _ | _ <;> rfl

theorem root_asksFor (handle : UnitHandle) :
    AsksFor key handle.id none s ((root key handle).run s).2 := by
  simp only [root, run_bind, run_unit]
  rcases hl : (s.sessions key).look handle.id Resource.asUnit? with _ | _ | ⟨parsed, filename⟩
  · exact .nothing
  · exact .nothing
  · obtain ⟨hr, entry, hf, hk, hv⟩ := Registry.look_eq_ok hl
    have hu : entry.resource.unitNumber? = some parsed.number ∧
        entry.resource.kind = .translationUnit := by
      cases he : entry.resource <;> simp_all [Resource.asUnit?, Resource.unitNumber?, Resource.kind]
    exact .asked hr hf hk (fun _ => hu.2) (.call hu.1 .nothing)

theorem filename_changes (handle : UnitHandle) :
    Changes key s ((Session.filename key handle).run s).2 := by
  simp only [Session.filename, run_bind, run_unit]
  rcases (s.sessions key).look handle.id Resource.asUnit? with _ | _ | _ <;> exact .nothing

theorem dispose_changes (id : ResourceId) : Changes key s ((dispose key id).run s).2 := by
  simp only [dispose, run_bind, run_session, run_settle]
  rcases ht : (s.sessions key).take id with _ | ⟨taken, registry⟩
  · exact .nothing
  · cases taken with
    | none =>
        simp only [Except.mapError, run_setSession, run_pure, Registry.take_eq_none ht,
          withSession_self]
        exact .nothing
    | some resource =>
        simp only [Except.mapError, run_setSession, run_bind, run_release, run_pure]
        exact .disposed ht

theorem isAlive_changes (id : ResourceId) : Changes key s ((Session.isAlive key id).run s).2 := by
  simp only [Session.isAlive, run_bind, run_session, run_settle]
  exact .nothing

theorem isValid_changes {ν : Type} (token : Token ν) :
    Changes key s ((isValid key token).run s).2 := by
  simp only [isValid, run_bind, run_session, run_settle]
  rcases token.unwrap (s.sessions key) with _ | _ <;> exact .nothing

theorem run_unwrap {ν : Type} (key : Nat) (token : Token ν) (s : Thread) :
    (unwrap key token).run s =
      match token.unwrap (s.sessions key) with
      | .ok (.ok raw) => (.ok raw, s)
      | .ok (.error fault) => (.error (.fault fault), s)
      | .error conflict => (.error (.conflict conflict), s) := by
  simp only [unwrap, run_bind, run_session, run_settle]
  rcases token.unwrap (s.sessions key) with _ | _ | _ <;> rfl

theorem run_unitNumber (key : Nat) (id : ResourceId) (s : Thread) :
    (unitNumber key id).run s =
      (.ok (((s.sessions key).find? id.serial).bind (·.resource.unitNumber?)), s) := by
  simp only [unitNumber, run_bind, run_session, run_pure]
  rcases (s.sessions key).find? id.serial with _ | entry
  · rfl
  · cases he : entry.resource <;> simp [he, Resource.asUnit?, Resource.unitNumber?]

theorem unwrap_eq_ok {ν : Type} {registry : Registry Resource} {token : Token ν} {raw : ν}
    (hu : token.unwrap registry = .ok (.ok raw)) :
    raw = token.raw ∧ token.owner.registry = registry.id ∧ token.owner.kind = .translationUnit ∧
      ∃ entry, registry.find? token.owner.serial = some entry ∧ entry.kind = token.owner.kind := by
  by_cases hk : token.owner.kind = .translationUnit
  · rcases ha : registry.isAlive token.owner with _ | alive
    · simp [Token.unwrap, Registry.checkOwner, hk, ha, bind, Except.bind] at hu
    · cases alive with
      | false =>
          simp [Token.unwrap, Registry.checkOwner, hk, ha, bind, Except.bind, pure, Except.pure,
            Except.map] at hu
      | true =>
          obtain ⟨hr, entry, hf, he⟩ := Registry.isAlive_eq_true ha
          have hraw : token.raw = raw := by
            simpa [Token.unwrap, Registry.checkOwner, hk, ha, bind, Except.bind, pure, Except.pure,
              Except.map] using hu
          exact ⟨hraw.symm, hr, hk, entry, hf, he⟩
  · simp [Token.unwrap, Registry.checkOwner, hk, bind, Except.bind, pure, Except.pure,
      Except.map] at hu

-- How a question about a token ends. Unless the token is refused the library is asked about its
-- unit and its subject, and there is an answer, of which `Keeps` tells what it keeps of the token.
inductive Inquiry {ν α : Type} (key : Nat) (token : Token ν) (subject : Option Native.Subject)
    (Keeps : α → Prop) (s : Thread) : Except Interrupt α × Thread → Prop
  | conflict {conflict : Conflict} (unwrap : token.unwrap (s.sessions key) = .error conflict) :
      Inquiry key token subject Keeps s (.error (.conflict conflict), s)
  | refused {fault : Fault} (unwrap : token.unwrap (s.sessions key) = .ok (.error fault)) :
      Inquiry key token subject Keeps s (.error (.fault fault), s)
  | answered {raw : ν} {entry : Entry Resource} {answer : α} {native : Native.State}
      (unwrap : token.unwrap (s.sessions key) = .ok (.ok raw))
      (found : (s.sessions key).find? token.owner.serial = some entry)
      (asks : s.native.Asks entry.resource.unitNumber? subject native) (keeps : Keeps answer) :
      Inquiry key token subject Keeps s (.ok answer, s.withNative native)

theorem Inquiry.asksFor {ν α : Type} {token : Token ν} {subject : Option Native.Subject}
    {Keeps : α → Prop} {ended : Except Interrupt α × Thread}
    (h : Inquiry key token subject Keeps s ended) : AsksFor key token.owner subject s ended.2 := by
  cases h with
  | conflict => exact .nothing
  | refused => exact .nothing
  | answered hu found asks =>
      obtain ⟨-, hr, hunit, entry, hf, hk⟩ := unwrap_eq_ok hu
      obtain rfl := Option.some.inj (found.symm.trans hf)
      exact .asked hr hf hk (fun he => (he.symm.trans hk).trans hunit) asks

theorem Inquiry.keeps {ν α : Type} {token : Token ν} {subject : Option Native.Subject}
    {Keeps : α → Prop} {answer : α} {after : Thread}
    (h : Inquiry key token subject Keeps s (.ok answer, after)) : Keeps answer := by
  cases h with
  | answered _ _ _ keeps => exact keeps

theorem children_inquiry (token : CursorToken) :
    Inquiry key token (some (.node token.raw))
      (fun listed => ∀ child ∈ listed, child.owner = token.owner ∧
        child.raw ∈ library.children token.raw) s ((children library key token).run s) := by
  simp only [children, run_bind, run_unwrap]
  rcases hu : token.unwrap (s.sessions key) with _ | _ | raw
  · exact .conflict hu
  · exact .refused hu
  · obtain ⟨rfl, -, -, entry, hf, -⟩ := unwrap_eq_ok hu
    simp only [run_unitNumber, run_call, run_pure, hf, Option.bind_some]
    refine .answered hu hf (.call ⟨rfl, rfl⟩ .nothing) fun child hm => ?_
    obtain ⟨raw, hraw, rfl⟩ := List.mem_map.mp hm
    exact ⟨rfl, hraw⟩

section Hosts

variable {τ ε : Type} {convert : Interrupt → ε}
  {visit : (child parent : CursorToken) → Thread × τ → Except ε ChildVisit × (Thread × τ)}

theorem host_children {node : CursorToken} {listed : Except Interrupt (List CursorToken)}
    {after : Thread} {own : τ} (h : (children library key node).run s = (listed, after)) :
    (host library key convert visit).children node (s, own) = (listed, after, own) := by
  simp only [host, h]

-- What is listed for a node is of its unit, and below it in the library.
theorem host_lists {node : CursorToken} {listed : List CursorToken} {p q : Thread × τ}
    (h : (host library key convert visit).children node p = (.ok listed, q)) :
    ∀ child ∈ listed, child.owner = node.owner ∧ child.raw ∈ library.children node.raw := by
  have hinquiry : Inquiry key node (some (.node node.raw)) (fun listed => ∀ child ∈ listed,
      child.owner = node.owner ∧ child.raw ∈ library.children node.raw) p.1
        ((children library key node).run p.1) := children_inquiry node
  rcases hr : (children library key node).run p.1 with ⟨result, after⟩
  obtain ⟨rfl, -⟩ := Prod.mk.inj ((host_children hr).symm.trans h)
  rw [hr] at hinquiry
  exact hinquiry.keeps

end Hosts

theorem askCursor_inquiry (query : CursorQuery) (token : CursorToken) :
    Inquiry key token (some (.node token.raw))
      (Answer.Of token.owner (library.ofNode? token.raw query)) s
      ((askCursor library key query token).run s) := by
  simp only [askCursor, run_bind, run_unwrap]
  rcases hu : token.unwrap (s.sessions key) with _ | _ | raw
  · exact .conflict hu
  · exact .refused hu
  · obtain ⟨rfl, -, -, entry, hf, -⟩ := unwrap_eq_ok hu
    simp only [run_unitNumber, run_call, hf, Option.bind_some]
    cases query with
    | location =>
        rcases (library.place token.raw).file with _ | name
        · exact .answered hu hf (.call ⟨rfl, rfl⟩ .nothing) trivial
        · simp only [run_bind, run_call, run_readOption]
          exact .answered hu hf (.string (.call ⟨rfl, rfl⟩ (.call ⟨rfl, rfl⟩ .nothing))) trivial
    | spelling | displayName | rawComment =>
        simp only [run_bind, run_readText, run_readOption]
        exact .answered hu hf (.string (.call ⟨rfl, rfl⟩ .nothing)) trivial
    | type | underlyingType | resultType | argument =>
        exact .answered hu hf (.call ⟨rfl, rfl⟩ .nothing) ⟨rfl, rfl⟩
    | _ => exact .answered hu hf (.call ⟨rfl, rfl⟩ .nothing) trivial

theorem askType_inquiry (query : TypeQuery) (token : TypeToken) :
    Inquiry key token (some (.type token.raw))
      (Answer.Of token.owner (library.ofType? token.raw query)) s
      ((askType library key query token).run s) := by
  simp only [askType, run_bind, run_unwrap]
  rcases hu : token.unwrap (s.sessions key) with _ | _ | raw
  · exact .conflict hu
  · exact .refused hu
  · obtain ⟨rfl, -, -, entry, hf, -⟩ := unwrap_eq_ok hu
    cases query with
    | kind => exact .answered hu hf .nothing trivial
    | spelling =>
        simp only [ne_eq, reduceCtorEq, not_false_eq_true, if_true, run_bind, run_unitNumber,
          run_call, hf, Option.bind_some, run_readText]
        exact .answered hu hf (.string (.call ⟨rfl, rfl⟩ .nothing)) trivial
    | result | argument | canonical | pointee =>
        simp only [ne_eq, reduceCtorEq, not_false_eq_true, if_true, run_bind, run_unitNumber,
          run_call, hf, Option.bind_some]
        exact .answered hu hf (.call ⟨rfl, rfl⟩ .nothing) ⟨rfl, rfl⟩
    | _ =>
        simp only [ne_eq, reduceCtorEq, not_false_eq_true, if_true, run_bind, run_unitNumber,
          run_call, hf, Option.bind_some]
        exact .answered hu hf (.call ⟨rfl, rfl⟩ .nothing) trivial

theorem drain_changes (left : Nat) :
    Relation.ReflTransGen (Changes key) s ((drain key left).run s).2 := by
  induction left generalizing s with
  | zero => exact .refl
  | succ left ih =>
      simp only [drain, run_bind, run_session, run_settle]
      rcases ht : (s.sessions key).takeNewest with _ | ⟨newest, registry⟩
      · exact .refl
      · cases newest with
        | none =>
            simp only [Except.mapError, run_setSession, run_pure, Registry.takeNewest_eq_none ht,
              withSession_self]
            exact .refl
        | some resource =>
            simp only [Except.mapError, run_setSession, run_bind, run_release]
            exact .head (.drained ht) ih

-- A session that is drained is empty afterwards.
theorem run_drain (hf : (s.sessions key).borrow = .free) {left : Nat}
    (hl : (s.sessions key).live.length < left) :
    ∃ t, (drain key left).run s = (.ok (), t) ∧ (t.sessions key).live = [] := by
  induction left generalizing s with
  | zero => omega
  | succ left ih =>
      simp only [drain, run_bind, run_session, run_settle]
      rcases hlive : (s.sessions key).live with _ | ⟨entry, older⟩
      · rw [Registry.takeNewest_nil hf hlive]
        exact ⟨_, rfl, by simpa [withSession] using hlive⟩
      · rw [Registry.takeNewest_cons hf hlive]
        simp only [Except.mapError, run_setSession, run_bind, run_release]
        apply ih
        · simpa [withSession] using hf
        · simp only [hlive, List.length_cons] at hl
          simp only [withNative_sessions, withSession, if_true]
          omega

end Session

end SyntaxHandles
