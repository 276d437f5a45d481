import SyntaxHandles.Proofs.Dynamic.Unseen

-- Calls of what the interface has under its names. Each of them comes down to the session operation
-- that it is named after.

namespace SyntaxHandles.Dynamic

open Scripting Telling
open SessionScript (Item)

variable {α : Type} {s : Thread × Desk}

section Finding

variable (library : Native.Library) (fuel : Nat) (host : Host)

theorem found?_interfaces (interface : String) (f : Function) :
    Class.interfaces.found? interface f.name = none := by
  cases f <;> rfl

theorem run_lookFor_function (hs : s.2.Fresh) (f : Function) :
    (lookFor Interface.own f.name).run.run s = .ok (.ok (.plain (.function f)), s) := by
  have hfound : (lookUp? f.name Class.interfaces.ancestors).run.run s = .ok (.ok none, s) := by
    rw [run_lookUp? hs, ← found?_interfaces s.2.interface f]
    rfl
  have hattached : (attachedIn? Interface.own f.name).run.run s =
      .ok (.ok (some (.function f)), s) := by
    rw [← hs.functions f]
    rfl
  exact (runs_next hfound).trans (runs_next hattached)

-- The values that a call is given beside the object that it is about.
def supply (others : List Expression) (named : List (String × Expression)) :
    Part (List Value × List (String × Value)) := do
  let values ← evaluateAll others
  return (values, ← evaluateNamed named)

theorem run_callMember (hs : s.2.Fresh) (f : Function) (values : List Expression)
    (named : List (String × Expression)) :
    (callMember library fuel host f.name values named).run.run s =
      (supply values named >>= fun given =>
        invoke library fuel host f given.1 given.2).run.run s := by
  rw [callMember, runs_next (run_lookFor_function hs f)]
  simp only [supply, bind_assoc, pure_bind]

end Finding

section Calling

variable (library : Native.Library) (fuel : Nat) (host : Host)

theorem run_invoke_request {contents : Nat → List Value} {f : Function} {values : List Value}
    {named : List (String × Value)} {request : Request} (hc : s.2.listAt = contents)
    (h : Invocation.ofCall contents f values named = .ok (.request request)) :
    (invoke library fuel host f values named).run.run s = (fulfil library request).run.run s := by
  rw [invoke, runs_next (a := contents) (t := s) (by rw [← hc]; rfl), h]
  rfl

theorem run_invoke_refused {contents : Nat → List Value} {f : Function} {values : List Value}
    {named : List (String × Value)} {raised : Raised} (hc : s.2.listAt = contents)
    (h : Invocation.ofCall contents f values named = .error raised) :
    (invoke library fuel host f values named).run.run s =
      .ok (.error (.raised raised), s) := by
  rw [invoke, runs_next (a := contents) (t := s) (by rw [← hc]; rfl), h]
  rfl

variable {want : Item → Option α} {failure : Failure} {request : Nat × α → Request}
  {P : List Value × List (String × Value) → Desk → Prop}

-- What a call with an object is to come down to.
structure Calls (f : Function) (want : Item → Option α) (failure : Failure)
    (request : Nat × α → Request) (contents : Nat → List Value)
    (given : List Value × List (String × Value)) : Prop where
  fits : ∀ value wanted, value.Plain → value.want want = some wanted →
    Invocation.ofCall contents f (value :: given.1) given.2 = .ok (.request (request wanted))
  refused : ∀ value, value.Plain → value.want want = none →
    ∃ raised, Invocation.ofCall contents f (value :: given.1) given.2 = .error raised ∧
      (Problem.raised raised).failure = failure

theorem follows_call {f : Function} {others : List Expression}
    {named : List (String × Expression)} (hsupply : Silent (fun given desk =>
      Calls f want failure request desk.listAt given) (supply others named)) (object : String) :
    Follows Shows (callMember library fuel host f.name (.label object :: others) named)
      (Course.held want failure object >>= fun wanted =>
        Course.operate ((request wanted).perform library) >>= fun reply => pure reply.sight) := by
  have hcall : Follows Shows (do
      let value ← find object
      let given ← supply others named
      invoke library fuel host f (value :: given.1) given.2)
      (Course.held want failure object >>= fun wanted =>
        Course.operate ((request wanted).perform library) >>= fun reply => pure reply.sight) := by
    refine follows_held (fun value wanted hv hw => ?_) fun value hv hw => ?_ <;> intro s hs
    · refine hsupply.next hs fun given desk hd hn hcalls => ?_
      rw [run_invoke_request library fuel host rfl (hcalls.fits value wanted hv hw), ← hn]
      exact follows_fulfil library (request wanted) (s.1, desk) hd
    · refine hsupply.next hs fun given desk hd hn hcalls => ?_
      obtain ⟨raised, hr, hf⟩ := hcalls.refused value hv hw
      rw [run_invoke_refused library fuel host rfl hr, ← hn, ← hf]
      exact .failed (.raised raised) hd
  refine hcall.congr fun s hs => ?_
  rw [run_callMember library fuel host hs]
  simp only [supply, evaluateAll, evaluate, bind_assoc, pure_bind]

-- Calls that read their object as what it is, and nothing else of it.
theorem Calls.of_read {f : Function} {contents : Nat → List Value}
    {given : List Value × List (String × Value)} (request : Held α → Request)
    (h : ∀ value, Invocation.ofCall contents f (value :: given.1) given.2 =
      (Kind.readHeld want value).bind fun held => .ok (.request (request held))) :
    Calls f want .misfit (fun wanted => request ⟨wanted.1, wanted.2⟩) contents given where
  fits value wanted _ hw := by
    rw [h, readHeld_eq, hw]
    rfl
  refused value _ hw := by
    refine ⟨.type none, ?_, rfl⟩
    rw [h, readHeld_eq, hw]
    rfl

theorem silent_supply_none : Silent (fun given _ => given = ([], [])) (supply [] []) :=
  fun s => ⟨_, s.2, rfl, .refl _, rfl⟩

theorem run_evaluate_int (n : Int) (s : Thread × Desk) :
    (evaluate (.value (.int n))).run.run s = .ok (.ok (.int n s.2.made), (s.1, s.2.grown)) := rfl

theorem run_evaluate_text (string : String) (s : Thread × Desk) :
    (evaluate (.value (.text string))).run.run s =
      .ok (.ok (.text string s.2.made), (s.1, s.2.grown)) := rfl

theorem run_evaluateAll_cons {item : Expression} {items : List Expression} {value : Value}
    {values : List Value} {s t u : Thread × Desk}
    (hi : (evaluate item).run.run s = .ok (.ok value, t))
    (hr : (evaluateAll items).run.run t = .ok (.ok values, u)) :
    (evaluateAll (item :: items)).run.run s = .ok (.ok (value :: values), u) := by
  rw [evaluateAll, runs_next hi, runs_next hr]
  rfl

theorem run_evaluateAll_one {item : Expression} {value : Value} {s t : Thread × Desk}
    (hi : (evaluate item).run.run s = .ok (.ok value, t)) :
    (evaluateAll [item]).run.run s = .ok (.ok [value], t) :=
  run_evaluateAll_cons hi rfl

-- The place of an argument.
theorem silent_supply_word (n : Int) :
    Silent (fun given _ => ∃ identity, given = ([.int n identity], []))
      (supply [.value (.int n)] []) :=
  fun s => ⟨([.int n s.2.made], []), s.2.grown,
    runs_next (run_evaluateAll_one (run_evaluate_int n s)), s.2.like_grown, _, rfl⟩

theorem readWord_toNat (n : UInt32) : Kind.readWord (n.toNat : Int) = .ok n := by
  have hn := n.toNat_lt
  rw [Kind.readWord, if_pos (by simp [UInt32.size]; omega)]
  simp

theorem Silent.imp {β : Type} {P Q : β → Desk → Prop} {part : Part β} (h : Silent P part)
    (hPQ : ∀ b desk, P b desk → Q b desk) : Silent Q part := by
  intro s
  obtain ⟨b, desk, hr, hlike, hb⟩ := h s
  exact ⟨b, desk, hr, hlike, hPQ b desk hb⟩

-- What is read of an object alone.
theorem bind_only {ε β γ : Type} (x : Except ε α) (f : α → β) (g : β → Except ε γ) :
    (x.bind fun a => .ok (f a)).bind g = x.bind fun a => g (f a) := by
  cases x <;> rfl

theorem silent_calls_one {f : Function} (request : Held α → Request)
    (of : Held α × Unit → Except Raised Invocation)
    (h : ∀ contents value, Invocation.ofCall contents f [value] [] =
      ((Kind.readHeld want value).bind fun held => .ok (held, ())).bind of)
    (ho : ∀ held, of (held, ()) = .ok (.request (request held))) :
    Silent (fun given desk => Calls f want .misfit (fun wanted => request ⟨wanted.1, wanted.2⟩)
      desk.listAt given) (supply [] []) := by
  refine silent_supply_none.imp fun given desk hg => hg ▸ .of_read request fun value => ?_
  rw [h, bind_only]
  exact congrArg _ (funext ho)

theorem silent_calls_word {f : Function} (request : Held α → Request) (index : UInt32)
    (of : Held α × UInt32 × Unit → Except Raised Invocation)
    (h : ∀ contents value n identity, Invocation.ofCall contents f [value, .int n identity] [] =
      ((Kind.readHeld want value).bind fun held =>
        ((Kind.readWord n).bind fun index => .ok (index, ())).bind fun rest =>
          .ok (held, rest)).bind of)
    (ho : ∀ held, of (held, index, ()) = .ok (.request (request held))) :
    Silent (fun given desk => Calls f want .misfit (fun wanted => request ⟨wanted.1, wanted.2⟩)
      desk.listAt given) (supply [.value (.int index.toNat)] []) := by
  refine (silent_supply_word _).imp fun given desk hg => ?_
  obtain ⟨identity, rfl⟩ := hg
  refine .of_read request fun value => ?_
  rw [h, readWord_toNat]
  exact (bind_only _ _ of).trans (congrArg _ (funext ho))

-- The function that a question about a node is put to.
def cursorFunction : CursorQuery → Function
  | .kind => .cursorKind
  | .spelling => .cursorSpelling
  | .displayName => .cursorDisplayName
  | .location => .cursorLocation
  | .type => .cursorType
  | .rawComment => .cursorRawComment
  | .enumConstantValue => .enumConstantValue
  | .underlyingType => .underlyingType
  | .resultType => .cursorResultType
  | .argumentCount => .argumentCount
  | .argument _ => .argument
  | .isNull => .isNullCursor

def typeFunction : TypeQuery → Function
  | .kind => .typeKind
  | .spelling => .typeSpelling
  | .nullability => .typeNullability
  | .result => .typeResult
  | .argumentCount => .typeArgumentCount
  | .argument _ => .typeArgument
  | .canonical => .canonicalType
  | .pointee => .pointeeType

theorem cursorFunction_name (query : CursorQuery) :
    (cursorFunction query).name = (cursorCall query).1 := by
  cases query <;> rfl

theorem typeFunction_name (query : TypeQuery) :
    (typeFunction query).name = (typeCall query).1 := by
  cases query <;> rfl

theorem silent_cursorFunction (query : CursorQuery) :
    Silent (fun given desk => Calls (cursorFunction query) Item.asCursor? .misfit
      (fun wanted => .askCursor query ⟨wanted.1, wanted.2⟩) desk.listAt given)
      (supply (cursorCall query).2 []) := by
  cases query
  case argument index =>
    exact silent_calls_word (.askCursor (.argument index)) index (Invocation.of .argument)
      (fun _ _ _ _ => rfl) fun _ => rfl
  all_goals exact silent_calls_one (.askCursor _) _ (fun _ _ => rfl) fun _ => rfl

theorem silent_typeFunction (query : TypeQuery) :
    Silent (fun given desk => Calls (typeFunction query) Item.asType? .misfit
      (fun wanted => .askType query ⟨wanted.1, wanted.2⟩) desk.listAt given)
      (supply (typeCall query).2 []) := by
  cases query
  case argument index =>
    exact silent_calls_word (.askType (.argument index)) index (Invocation.of .typeArgument)
      (fun _ _ _ _ => rfl) fun _ => rfl
  all_goals exact silent_calls_one (.askType _) _ (fun _ _ => rfl) fun _ => rfl

end Calling

section Acts

variable (library : Native.Library) (fuel : Nat) (host : Host)

theorem follows_askCursor (query : CursorQuery) (object : String) :
    Follows Shows ((Act.askCursor query object).byHost library fuel host)
      ((Act.askCursor query object).bySession library) := by
  have h := follows_call library fuel host (silent_cursorFunction query) object
  simp only [Request.perform, operate_map, bind_assoc, pure_bind, cursorFunction_name] at h
  exact h

theorem follows_askType (query : TypeQuery) (object : String) :
    Follows Shows ((Act.askType query object).byHost library fuel host)
      ((Act.askType query object).bySession library) := by
  have h := follows_call library fuel host (silent_typeFunction query) object
  simp only [Request.perform, operate_map, bind_assoc, pure_bind, typeFunction_name] at h
  exact h

theorem follows_root (object : String) :
    Follows Shows ((Act.root object).byHost library fuel host)
      ((Act.root object).bySession library) := by
  have hs : Silent (fun given desk => Calls .rootCursor Item.asUnit? .misfit
      (fun wanted => .root ⟨wanted.1, wanted.2⟩) desk.listAt given) (supply [] []) :=
    silent_calls_one .root (Invocation.of .rootCursor) (fun _ _ => rfl) fun _ => rfl
  have h := follows_call library fuel host hs object
  simp only [Request.perform, operate_map, bind_assoc, pure_bind] at h
  exact h

theorem follows_dispose (object : String) :
    Follows Shows ((Act.dispose object).byHost library fuel host)
      ((Act.dispose object).bySession library) := by
  have hs : Silent (fun given desk => Calls .dispose handle? .noDisposable
      (fun wanted => .dispose wanted.1 wanted.2) desk.listAt given) (supply [] []) := by
    refine silent_supply_none.imp fun given desk hg => hg ▸ ?_
    refine ⟨fun value ⟨session, id⟩ _ hw => ?_, fun value hv hw => ?_⟩
    · obtain ⟨identity, item, rfl, hi : handle? item = some id⟩ := exists_held hw
      cases item <;> cases hi <;> rfl
    · refine ⟨.type (some Invocation.notDisposable), ?_, rfl⟩
      cases hv with
      | held identity session item =>
        cases item
        case cursor | type => rfl
        all_goals exact nomatch hw
      | _ => rfl
  have h := follows_call library fuel host hs object
  simp only [Request.perform, operate_map, bind_assoc, pure_bind] at h
  exact h

-- What is written of the parser's settings is read again.
structure Reads (contents : Nat → List Value) (named : List (String × Value))
    (args : List String) (flags : UInt32) (argsValue flagsValue : Value) : Prop where
  binds : ∀ index file, bindAll (Function.parameters .parse) [index, file] named =
    .ok (index, file, argsValue, flagsValue, ())
  args : Kind.readTexts contents argsValue = .ok args
  flags : Kind.read contents .word flagsValue = .ok flags

theorem Reads.ofCall {contents : Nat → List Value} {named : List (String × Value)}
    {args : List String} {flags : UInt32} {argsValue flagsValue : Value}
    (h : Reads contents named args flags argsValue flagsValue) (index : Value) (file : String)
    (identity : Nat) :
    Invocation.ofCall contents .parse [index, .text file identity] named =
      (Kind.readHeld Item.asIndex? index).bind fun held =>
        .ok (.request (.parse held file ⟨args, flags⟩)) := by
  have hr : (readAll contents (Function.parameters .parse)
      (index, .text file identity, argsValue, flagsValue, ())).bind (Invocation.of .parse) =
      ((Kind.readHeld Item.asIndex? index).bind fun held =>
        (((Kind.readTexts contents argsValue).bind fun args =>
          ((Kind.read contents .word flagsValue).bind fun flags => .ok (flags, ())).bind fun rest =>
            .ok (args, rest)).bind fun rest => .ok (file, rest)).bind fun rest =>
              .ok (held, rest)).bind (Invocation.of .parse) := rfl
  have hb : Invocation.ofCall contents .parse [index, .text file identity] named =
      (bindAll (Function.parameters .parse) [index, .text file identity] named).bind fun values =>
        (readAll contents (Function.parameters .parse) values).bind (Invocation.of .parse) := rfl
  rw [hb, h.binds]
  refine hr.trans ?_
  rw [h.args, h.flags]
  exact bind_only _ _ (Invocation.of .parse)

theorem mapM_readText {values : List Value} {texts : List String} (h : AreTexts values texts) :
    values.mapM Kind.readText = .ok texts := by
  induction h with
  | nil => rfl
  | cons hv _ ih =>
      obtain ⟨identity, rfl⟩ := hv
      rw [List.mapM_cons, ih]
      rfl

theorem silent_evaluateAll_texts (texts : List String) :
    Silent (fun values _ => AreTexts values texts)
      (evaluateAll (texts.map fun string => .value (.text string))) := by
  induction texts with
  | nil => exact fun s => ⟨[], s.2, rfl, .refl _, .nil⟩
  | cons string texts ih =>
      intro s
      obtain ⟨values, desk, hr, hlike, hv⟩ := ih (s.1, s.2.grown)
      exact ⟨.text string s.2.made :: values, desk,
        run_evaluateAll_cons (run_evaluate_text string s) hr, s.2.like_grown.trans hlike,
        .cons ⟨_, rfl⟩ hv⟩

-- A list that a program writes.
theorem silent_evaluate_texts (texts : List String) :
    Silent (fun value desk => ∃ n, value = .list n ∧ AreTexts (desk.listAt n) texts)
      (evaluate (.list (texts.map fun string => .value (.text string)))) := by
  intro s
  obtain ⟨values, desk, hr, hlike, hv⟩ := silent_evaluateAll_texts texts s
  obtain ⟨n, desk', hr', hlike', -⟩ := unseen_newIdentity.lift (s.1, desk)
  obtain ⟨kept, last, hr'', hlike'', hk⟩ := (unseen_allIdentified hv).lift (s.1, desk')
  refine ⟨.list n, { last with lists := (n, kept) :: last.lists }, ?_, ?_, n, rfl, ?_⟩
  · rw [evaluate, runs_next hr, newList, runs_next hr', runs_next hr'']
    rfl
  · exact (hlike.trans (hlike'.trans hlike'')).trans ⟨rfl, rfl, rfl, rfl⟩
  · simpa only [Desk.listAt, List.lookup_cons_self, Option.getD_some] using hk

theorem silent_settings (args : Option (List String)) (flags : Option UInt32) :
    Silent (fun named desk => ∃ argsValue flagsValue,
        Reads desk.listAt named (args.getD []) (flags.getD 0) argsValue flagsValue)
      (evaluateNamed (Act.parseSettings args flags)) := by
  intro s
  cases args with
  | none =>
      cases flags with
      | none => exact ⟨[], s.2, rfl, .refl _, .nothing, .int 0, ⟨fun _ _ => rfl, rfl, rfl⟩⟩
      | some flags =>
          have hr := run_evaluateAll_one (run_evaluate_int flags.toNat s)
          exact ⟨[("options", .int flags.toNat s.2.made)], s.2.grown, runs_next hr,
            s.2.like_grown, .nothing, .int flags.toNat s.2.made,
            ⟨fun _ _ => rfl, rfl, readWord_toNat flags⟩⟩
  | some args =>
      obtain ⟨_, desk, hr, hlike, n, rfl, ht⟩ := silent_evaluate_texts args s
      have hargs : Kind.readTexts desk.listAt (.list n) = .ok args := mapM_readText ht
      cases flags with
      | none =>
          have hall := run_evaluateAll_one hr
          exact ⟨[("args", .list n)], desk, runs_next hall, hlike, .list n, .int 0,
            ⟨fun _ _ => rfl, hargs, rfl⟩⟩
      | some flags =>
          have hflags := run_evaluateAll_one (run_evaluate_int flags.toNat (s.1, desk))
          exact ⟨[("args", .list n), ("options", .int flags.toNat desk.made)], desk.grown,
            runs_next (run_evaluateAll_cons hr hflags), hlike.trans desk.like_grown, .list n,
            .int flags.toNat desk.made, ⟨fun _ _ => rfl, hargs, readWord_toNat flags⟩⟩

theorem follows_parse (index file : String) (args : Option (List String)) (flags : Option UInt32) :
    Follows Shows ((Act.parse index file args flags).byHost library fuel host)
      ((Act.parse index file args flags).bySession library) := by
  have hs : Silent (fun given desk => Calls .parse Item.asIndex? .misfit
      (fun wanted => .parse ⟨wanted.1, wanted.2⟩ file ⟨args.getD [], flags.getD 0⟩) desk.listAt
        given) (supply [.value (.text file)] (Act.parseSettings args flags)) := by
    intro s
    obtain ⟨named, desk, hr, hlike, _, _, hreads⟩ := silent_settings args flags (s.1, s.2.grown)
    refine ⟨([.text file s.2.made], named), desk, ?_, s.2.like_grown.trans hlike,
      .of_read (.parse · file ⟨args.getD [], flags.getD 0⟩) fun value =>
        hreads.ofCall value file s.2.made⟩
    rw [supply, runs_next (run_evaluateAll_one (run_evaluate_text file s)), runs_next hr]
    rfl
  have h := follows_call library fuel host hs index
  simp only [Request.perform, operate_map, bind_assoc, pure_bind] at h
  exact h

theorem follows_createIndex (exclude display : Option Bool) :
    Follows Shows ((Act.createIndex exclude display).byHost library fuel host)
      ((Act.createIndex exclude display).bySession library) := by
  have h := follows_fulfil library (.createIndex ⟨exclude.getD false, display.getD false⟩)
  have hcourse : (Course.operate ((Request.createIndex
      ⟨exclude.getD false, display.getD false⟩).perform library) >>= fun reply =>
        pure reply.sight) = (Act.createIndex exclude display).bySession library := by
    rw [← operate_map]
    simp only [Request.perform, bind_assoc, pure_bind]
    rfl
  rw [hcourse] at h
  refine h.congr fun s hs => ?_
  have hgiven : ∃ named, (supply [] (Act.indexSettings exclude display)).run.run s =
      .ok (.ok ([], named), s) ∧ Invocation.ofCall s.2.listAt .createIndex [] named =
        .ok (.request (.createIndex ⟨exclude.getD false, display.getD false⟩)) := by
    cases exclude <;> cases display <;> exact ⟨_, rfl, rfl⟩
  obtain ⟨named, hr, hc⟩ := hgiven
  have hmember := run_callMember library fuel host hs .createIndex []
    (Act.indexSettings exclude display)
  rw [runs_next hr, run_invoke_request library fuel host rfl hc] at hmember
  exact hmember

end Acts

end SyntaxHandles.Dynamic
