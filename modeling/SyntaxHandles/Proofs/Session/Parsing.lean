import SyntaxHandles.Proofs.Session.IndexLifetime

-- What a parse does. The handle of the index is checked first, then the filename, then the
-- arguments in their order. Only then is the library called, once, and told what was asked for word
-- for word. How many arguments there are it is told in a word that may be too small for it. A parse
-- that comes to nothing leaves no trace but that call.

namespace SyntaxHandles

open Effect Thread

namespace Native.State

-- An index that is held is not freed by a share of it that comes and goes.
theorem unshare_share {state : State} {index : Nat} (hs : 0 < state.shares index) :
    (state.share index).unshare index = state := by
  have hleft : (state.share index).shares index - 1 = state.shares index := by
    simp [share]
  have hshares : (fun n => if n = index then state.shares index else (state.share index).shares n) =
      state.shares := by
    funext n
    by_cases hn : n = index
    · rw [if_pos hn, hn]
    · rw [if_neg hn]
      exact if_neg hn
  simp only [unshare, hleft, hshares, if_neg (Nat.ne_of_gt hs)]
  rfl

end Native.State

namespace Session

variable {library : Native.Library} {key k index : Nat} {handle : IndexHandle}
  {filename : String} {options : ParseOptions} {s created t after : Thread}

section Checks

-- Text that the library would take to end early.
def hasZero (text : String) : Bool :=
  text.toList.contains '\x00'

def zeroInside (what text : String) : Fault :=
  .invalidArgument (what ++ " contains a NUL byte: " ++ Text.quoted text)

theorem checkText_eq (what text : String) :
    checkText what text = if hasZero text then .error (zeroInside what text) else .ok () := rfl

-- The first argument that fails is the one that is told of.
theorem forM_checkText (what : String) (args : List String) :
    args.forM (checkText what) = match args.find? hasZero with
      | some arg => .error (zeroInside what arg)
      | none => .ok () := by
  induction args with
  | nil => rfl
  | cons arg args ih =>
      have hcons : (arg :: args).forM (checkText what) =
          checkText what arg >>= fun _ => args.forM (checkText what) := rfl
      rw [hcons, checkText_eq, ih, List.find?_cons]
      cases hasZero arg <;> rfl

theorem checkParse_filename (args : List String) (hf : hasZero filename = true) :
    checkParse filename args = .error (zeroInside "filename" filename) := by
  rw [checkParse, checkText_eq, if_pos hf]
  rfl

theorem checkParse_args (args : List String) (hf : hasZero filename = false) :
    checkParse filename args = match args.find? hasZero with
      | some arg => .error (zeroInside "compiler argument" arg)
      | none => .ok () := by
  rw [checkParse, checkText_eq, hf, ← forM_checkText]
  rfl

end Checks

-- The call of the library, and what it is told.
def parseCall (library : Native.Library) (index : Nat) (filename : String) (options : ParseOptions)
    (unit : Option Nat) : Native.Call :=
  .parse index filename options.argv options.argc options.flags unit
    (library.parse filename options.argv options.argc options.flags).code

section Arguments

-- The library is given these arguments, or no list of them if there are none.
def Lists (args : List String) : Native.Call → Prop
  | .parse _ _ argv _ _ _ _ => argv.getD [] = args ∧ (argv = none ↔ args = [])
  | _ => False

-- It is told how many there are.
def Counts (args : List String) : Native.Call → Prop
  | .parse _ _ _ count _ _ _ => count.toInt = args.length
  | _ => False

theorem lists_parseCall (index : Nat) (filename : String) (options : ParseOptions)
    (unit : Option Nat) : Lists options.args (parseCall library index filename options unit) := by
  simp only [Lists, parseCall, ParseOptions.argv, List.isEmpty_iff]
  by_cases h : options.args = [] <;> simp [h]

-- What is left of a number in a signed word of 32 bits is the number itself only below 2 ^ 31.
theorem counts_parseCall_iff (index : Nat) (filename : String) (options : ParseOptions)
    (unit : Option Nat) : Counts options.args (parseCall library index filename options unit) ↔
      options.args.length < 0x80000000 := by
  simp only [Counts, parseCall, ParseOptions.argc]
  refine ⟨fun h => ?_, Int32.toInt_ofNat_of_lt⟩
  have hlt := Int32.toInt_lt (Int32.ofNat options.args.length)
  omega

end Arguments

section Running

theorem run_parse_refused {fault : Fault}
    (hl : (t.sessions key).look handle.id Resource.asIndex? = .ok (.error fault)) :
    (parse library key handle filename options).run t = (.error (.fault fault), t) := by
  simp only [parse, run_bind, run_session, run_settle, hl, Except.mapError, run_raise]

theorem run_parse_shared
    (hl : (t.sessions key).look handle.id Resource.asIndex? = .ok (.ok index)) :
    (parse library key handle filename options).run t =
      (parseShared library key index filename options).run
        (t.withNative (t.native.share index)) := by
  simp only [parse, run_bind, run_session, run_settle, hl, Except.mapError, run_raise,
    run_natively]

theorem run_parseShared_made (index : Nat) (hf : (t.sessions key).borrow = .free)
    (hi : (t.sessions key).Issued (t.tracked key)) (few : t.tracked key < UInt32.size)
    (hc : checkParse filename options.args = .ok ()) {root : Native.Cursor}
    (hr : (library.parse filename options.argv options.argc options.flags).root = some root) :
    ∃ live, live.Perm (⟨UInt32.ofNat (t.tracked key + 1), .translationUnit,
        .unit ⟨t.native.units + 1, root⟩ filename index⟩ :: (t.sessions key).live) ∧
      (parseShared library key index filename options).run (t.withNative (t.native.share index)) =
        (.ok ⟨⟨(t.sessions key).id, UInt32.ofNat (t.tracked key + 1), .translationUnit⟩⟩,
          (t.withNative (({ t.native.share index with units := t.native.units + 1 }).note
            (parseCall library index filename options (some (t.native.units + 1))))).owning key
              { t.sessions key with
                nextSerial := UInt32.ofNat (t.tracked key + 1) + 1
                live } none) := by
  obtain ⟨live, hregister, hperm⟩ := hi.exists_joined few hf .translationUnit
    (.unit ⟨t.native.units + 1, root⟩ filename index)
  refine ⟨live, hperm, ?_⟩
  simp only [parseShared, hc, hr, run_bind, run_get, run_natively, run_call, withNative_native,
    withNative_withNative, run_track, withNative_sessions, Native.State.share_units, hregister]
  rfl

-- Once all checks are passed, the library is told what was asked for before anything else.
theorem parse_log_suffix
    (hl : (t.sessions key).look handle.id Resource.asIndex? = .ok (.ok index))
    (hc : checkParse filename options.args = .ok ()) :
    ∃ unit, parseCall library index filename options unit :: t.native.log <:+
      ((parse library key handle filename options).run t).2.native.log := by
  rw [run_parse_shared hl]
  cases hr : (library.parse filename options.argv options.argc options.flags).root with
  | none =>
      refine ⟨none, ?_⟩
      simp only [parseShared, hc, hr, run_bind, run_call, run_natively, run_fail,
        withNative_withNative, withNative_native]
      exact ((t.native.share index).note _).unshare_log_suffix index
  | some root =>
      refine ⟨some (t.native.units + 1), ?_⟩
      simp only [parseShared, hc, hr, run_bind, run_get, run_natively, run_call, withNative_native,
        withNative_withNative, run_track]
      cases hg : (t.sessions key).register .translationUnit
          (.unit ⟨t.native.units + 1, root⟩ filename index) with
      | error conflict =>
          simp only [withNative_sessions, Native.State.share_units, hg]
          exact List.suffix_rfl
      | ok registered =>
          simp only [withNative_sessions, Native.State.share_units, hg, run_pure]
          refine List.IsSuffix.trans ?_ (log_suffix_owning _)
          exact List.suffix_rfl

variable (hs : 0 < t.native.shares index)

include hs

theorem run_parseShared_refused {fault : Fault}
    (hc : checkParse filename options.args = .error fault) :
    (parseShared library key index filename options).run (t.withNative (t.native.share index)) =
      (.error (.fault fault), t) := by
  simp only [parseShared, hc, run_bind, run_natively, run_fail, withNative_withNative,
    withNative_native, Native.State.unshare_share hs]
  rfl

theorem run_parseShared_failed (hc : checkParse filename options.args = .ok ())
    (hn : (library.parse filename options.argv options.argc options.flags).root = none) :
    (parseShared library key index filename options).run (t.withNative (t.native.share index)) =
      (.error (.fault (.parseFailed filename
        (library.parse filename options.argv options.argc options.flags).code)),
        t.withNative (t.native.note (parseCall library index filename options none))) := by
  have hnoted : 0 < (t.native.note (parseCall library index filename options none)).shares index :=
    hs
  simp only [parseShared, hc, hn, run_bind, run_call, run_natively, run_fail,
    withNative_withNative, withNative_native]
  exact congrArg (fun native => (_, t.withNative native)) (Native.State.unshare_share hnoted)

end Running

section Outcome

-- What a session has got by a parse: one more unit, under an identity that none of its handles had.
structure Parses (key : Nat) (t : Thread) (call : Native.Call) (named : Native.ParsedUnit × String)
    (made : UnitHandle) (after : Thread) : Prop where
  log : after.native.log = call :: t.native.log
  names : (unit key made).run after = (.ok named, after)
  alive : Live key after made.id
  fresh : ∀ m, Reaches {} m → Reaches m t → ∀ k, ¬Live k m made.id
  others : ∀ k, k ≠ key → after.sessions k = t.sessions k
  live : ∃ entry, (after.sessions key).identity entry = made.id ∧
    (after.sessions key).live.Perm (entry :: (t.sessions key).live)

-- A serial that comes next was under no entry before.
theorem not_live_of_next (reached : Reaches {} s) (later : Reaches s t) (few : t.Few)
    (registries : t.started < UInt32.size) (has : t.Has key) (kind : ResourceKind) :
    ¬Live k s ⟨UInt32.ofNat key, UInt32.ofNat (t.tracked key + 1), kind⟩ := by
  have hstart := reached.leads ready_new
  have hl := later.leads hstart.ready
  have hs := hstart.sound (hl.few few) sound_new
  intro hlive
  obtain ⟨entry, hm, hid⟩ := (live_iff hstart.ready hs).mp hlive
  have hk : k = key := by
    have hlt := Nat.lt_of_le_of_lt (Nat.le_trans (hs.started_of_mem hm) hl.started) registries
    refine Registry.eq_of_ofNat hlt (Nat.lt_of_le_of_lt has.2 registries) ?_
    rw [← hstart.ready.ids k]
    exact congrArg ResourceId.registry hid
  subst hk
  exact (hs.issued k).serial_ne (hl.tracked k) (few k) hm (congrArg ResourceId.serial hid)

theorem parses_of_joined (reached : Reaches {} t) (few : t.Few)
    (registries : t.started < UInt32.size) (has : t.Has key) {native : Native.State}
    {call : Native.Call} {parsed : Native.ParsedUnit} {live : List (Entry Resource)}
    (hlog : native.log = call :: t.native.log)
    (hp : live.Perm (⟨UInt32.ofNat (t.tracked key + 1), .translationUnit,
      .unit parsed filename index⟩ :: (t.sessions key).live)) :
    Parses key t call (parsed, filename)
      ⟨⟨(t.sessions key).id, UInt32.ofNat (t.tracked key + 1), .translationUnit⟩⟩
      ((t.withNative native).owning key { t.sessions key with
        nextSerial := UInt32.ofNat (t.tracked key + 1) + 1
        live } none) := by
  have hr := (reached.leads ready_new).ready
  have hs := (reached.leads ready_new).sound few sound_new
  let registry : Registry Resource :=
    { t.sessions key with nextSerial := UInt32.ofNat (t.tracked key + 1) + 1, live }
  let entry : Entry Resource :=
    ⟨UInt32.ofNat (t.tracked key + 1), .translationUnit, .unit parsed filename index⟩
  have hb : registry.borrow ≠ .exclusive := by simp [registry, hr.free key]
  have hfind : registry.find? entry.serial = some entry := by
    refine Registry.find?_of_unique (hp.mem_iff.mpr (.head _)) fun other ho hserial => ?_
    rcases List.mem_cons.mp (hp.mem_iff.mp ho) with rfl | ho
    · rfl
    · exact absurd hserial ((hs.issued key).serial_ne (Nat.le_refl _) (few key) ho)
  have hsession : ((t.withNative native).owning key registry none).sessions key = registry :=
    owning_sessions
  refine ⟨hlog, ?_, ?_, fun m hm hlater k => ?_, fun k hk => owning_sessions_of_ne hk, entry, ?_,
    ?_⟩
  · have hlook := Registry.look_of_find? hb hfind Resource.asUnit?
    rw [run_unit, hsession]
    simp only [registry, entry, Registry.identity] at hlook
    rw [hlook]
    rfl
  · have halive := Registry.isAlive_of_find? hb hfind
    simp only [registry, entry, Registry.identity] at halive
    rw [Live, Session.isAlive, run_bind, run_session, hsession]
    simp only [run_settle, registry, halive]
    rfl
  · rw [hr.ids key]
    exact not_live_of_next hm hlater few registries has .translationUnit
  · rw [hsession]
    rfl
  · rw [hsession]
    exact hp

-- A handle that stands for an index is found in its own session while it is alive, and the index
-- has a holder then. Otherwise it is refused there as gone, and by any other session as foreign.
theorem Stands.look_of_live (h : Stands key t handle index) (hr : t.Ready) (hs : t.Sound)
    (hlive : Live key t handle.id) :
    (t.sessions key).look handle.id Resource.asIndex? = .ok (.ok index) ∧
      0 < t.native.shares index := by
  have hm := (h.live_iff hr hs).mp hlive
  have hlook := (hs.issued key).look_of_mem (by simp [hr.free key]) hm Resource.asIndex?
  rw [h.identity_eq hr] at hlook
  have halive := (h.indexAlive_iff hr hs).mpr (.inl hlive)
  exact ⟨hlook, (hs.accounts.indexAlive index).mp halive⟩

theorem Stands.look_of_dead (h : Stands key t handle index) (hr : t.Ready) (hs : t.Sound)
    (hdead : ¬Live key t handle.id) : (t.sessions key).look handle.id Resource.asIndex? =
      .ok (.error (.invalidHandle handle.id Refusal.disposed)) := by
  refine Registry.look_of_gone (by simp [hr.free key]) (by rw [h.registry, hr.ids key])
    (fun entry hm he => hdead ?_) _
  exact (h.live_iff hr hs).mpr (h.entry entry hm he ▸ hm)

theorem Stands.foreign (h : Stands k t handle index) (hr : t.Ready) (made : t.Has k)
    (has : t.Has key) (registries : t.started < UInt32.size) (hne : k ≠ key) :
    handle.id.registry ≠ (t.sessions key).id := by
  rw [h.registry, hr.ids key]
  exact fun he => hne (Registry.eq_of_ofNat (Nat.lt_of_le_of_lt made.2 registries)
    (Nat.lt_of_le_of_lt has.2 registries) he)

-- A parse checks all that it is given before it calls the library, and then calls it once, with all
-- the arguments and, as long as that fits, their number. Unless there is a new unit nothing else
-- comes of it.
theorem parse_fails_fast_or_calls_once {maker : Native.Library} {indexOptions : IndexOptions}
    (reached : Reaches {} s) (made : s.Has k)
    (create : (createIndex maker k indexOptions).run s = (.ok handle, created))
    (later : Reaches created t) (has : t.Has key) (few : t.Few)
    (registries : t.started < UInt32.size) (library : Native.Library) (filename : String)
    (options : ParseOptions) :
    ∃ index, created.native.log = .createIndex indexOptions.excludeDeclarationsFromPch
        indexOptions.displayDiagnostics (some index) :: s.native.log ∧
      (∀ unit, Lists options.args (parseCall library index filename options unit) ∧
        (Counts options.args (parseCall library index filename options unit) ↔
          options.args.length < 0x80000000)) ∧
      (k ≠ key → ¬Live key t handle.id) ∧
      (¬Live key t handle.id → (parse library key handle filename options).run t =
        (.error (.fault (.invalidHandle handle.id
          (if k = key then Refusal.disposed else Refusal.otherSession))), t)) ∧
      (Live key t handle.id → hasZero filename = true →
        (parse library key handle filename options).run t =
          (.error (.fault (zeroInside "filename" filename)), t)) ∧
      (Live key t handle.id → hasZero filename = false →
        ∀ arg, options.args.find? hasZero = some arg →
          (parse library key handle filename options).run t =
            (.error (.fault (zeroInside "compiler argument" arg)), t)) ∧
      (Live key t handle.id → hasZero filename = false → options.args.find? hasZero = none →
        ((library.parse filename options.argv options.argc options.flags).root = none →
          (parse library key handle filename options).run t =
            (.error (.fault (.parseFailed filename
              (library.parse filename options.argv options.argc options.flags).code)),
              t.withNative (t.native.note (parseCall library index filename options none)))) ∧
        ∀ root, (library.parse filename options.argv options.argc options.flags).root = some root →
          ∃ unitHandle after, (parse library key handle filename options).run t =
            (.ok unitHandle, after) ∧
            Parses key t
              (parseCall library index filename options (some (t.native.units + 1)))
              (⟨t.native.units + 1, root⟩, filename) unitHandle after) := by
  obtain ⟨hall, hmade, index, hlog, -, hstands⟩ := exists_stands reached made create later few
  have hr := (hall.leads ready_new).ready
  have hs := (hall.leads ready_new).sound few sound_new
  have hforeign := hstands.foreign hr hmade has registries
  have hsame : Live key t handle.id → k = key := fun hlive => by
    obtain ⟨entry, -, hid⟩ := (live_iff hr hs).mp hlive
    by_contra hne
    exact hforeign hne (congrArg ResourceId.registry hid).symm
  have hlooked (hlive : Live key t handle.id) :
      (t.sessions key).look handle.id Resource.asIndex? = .ok (.ok index) ∧
        0 < t.native.shares index := by
    obtain rfl := hsame hlive
    exact hstands.look_of_live hr hs hlive
  refine ⟨index, hlog, fun unit => ⟨lists_parseCall .., counts_parseCall_iff ..⟩,
    fun hne hlive => hne (hsame hlive), fun hdead => ?_, fun hlive hz => ?_,
    fun hlive hz arg ha => ?_, fun hlive hz ha => ⟨fun hn => ?_, fun root hroot => ?_⟩⟩
  · apply run_parse_refused
    by_cases hk : k = key
    · subst hk
      rw [if_pos rfl]
      exact hstands.look_of_dead hr hs hdead
    · rw [if_neg hk]
      exact Registry.look_of_foreign (hforeign hk) _
  · obtain ⟨hlook, hshares⟩ := hlooked hlive
    rw [run_parse_shared hlook]
    exact run_parseShared_refused hshares (checkParse_filename _ hz)
  · obtain ⟨hlook, hshares⟩ := hlooked hlive
    rw [run_parse_shared hlook]
    refine run_parseShared_refused hshares ?_
    rw [checkParse_args _ hz, ha]
  · obtain ⟨hlook, hshares⟩ := hlooked hlive
    have hc : checkParse filename options.args = .ok () := by rw [checkParse_args _ hz, ha]
    rw [run_parse_shared hlook]
    exact run_parseShared_failed hshares hc hn
  · obtain ⟨hlook, -⟩ := hlooked hlive
    have hc : checkParse filename options.args = .ok () := by rw [checkParse_args _ hz, ha]
    obtain ⟨live, hp, hrun⟩ := run_parseShared_made index (hr.free key) (hs.issued key) (few key)
      hc hroot
    rw [run_parse_shared hlook, hrun]
    exact ⟨_, _, rfl, parses_of_joined hall few registries has rfl hp⟩

-- Two sessions, and an index in the first one.
def sampleIndexed : Thread :=
  ((createIndex sampleTable.library 1 {}).run (start.run (start.run {}).2).2).2

theorem parse_fails_fast_or_calls_once_of_sample :
    (parse sampleTable.library 2 ⟨⟨1, 1, .index⟩⟩ "a.c" {}).run sampleIndexed =
        (.error (.fault (.invalidHandle ⟨1, 1, .index⟩ Refusal.otherSession)), sampleIndexed) ∧
      (parse sampleTable.library 1 ⟨⟨1, 1, .index⟩⟩ "a.c" ⟨["-x", "a\x00"], 0⟩).run sampleIndexed =
        (.error (.fault (zeroInside "compiler argument" "a\x00")), sampleIndexed) ∧
      ∃ unitHandle after,
        (parse sampleTable.library 1 ⟨⟨1, 1, .index⟩⟩ "a.c" {}).run sampleIndexed =
          (.ok unitHandle, after) ∧
        after.native.log = .parse 1 "a.c" none 0 0 (some 1) 0 :: sampleIndexed.native.log := by
  have reached : Reaches {} (start.run (start.run {}).2).2 :=
    .tail (.single (.act .start)) (.act .start)
  have has : (start.run (start.run {}).2).2.Has 1 := ⟨by decide, by decide⟩
  have create : (createIndex sampleTable.library 1 {}).run (start.run (start.run {}).2).2 =
    (.ok ⟨⟨1, 1, .index⟩⟩, sampleIndexed) := rfl
  have few : sampleIndexed.Few := .of_single (by decide) fun _ hk => if_neg hk
  have first : sampleIndexed.Has 1 := ⟨by decide, by decide⟩
  have second : sampleIndexed.Has 2 := ⟨by decide, by decide⟩
  obtain ⟨-, -, -, other, foreign, -⟩ := parse_fails_fast_or_calls_once reached has create .refl
    second few (by decide) sampleTable.library "a.c" {}
  obtain ⟨-, -, -, -, -, -, zero, -⟩ := parse_fails_fast_or_calls_once reached has create .refl
    first few (by decide) sampleTable.library "a.c" ⟨["-x", "a\x00"], 0⟩
  obtain ⟨index, hlog, -, -, -, -, -, called⟩ := parse_fails_fast_or_calls_once reached has create
    .refl first few (by decide) sampleTable.library "a.c" {}
  have hcall : Native.Call.createIndex false false (some 1) =
    .createIndex false false (some index) := (List.cons.inj hlog).1
  obtain rfl : 1 = index := by simpa using hcall
  obtain ⟨unitHandle, after, hrun, hparses⟩ :=
    (called rfl rfl rfl).2 (sampleTable.cursor (some 0)) rfl
  exact ⟨foreign (other (by decide)), zero rfl rfl "a\x00" rfl, unitHandle, after, hrun,
    hparses.log⟩

-- As many arguments as there are words of 32 bits.
def sampleMany : ParseOptions :=
  ⟨List.replicate 4294967296 "-x", 0⟩

-- The library is told that there are none of them.
theorem parse_miscounts_arguments :
    ∃ unit, Native.Call.parse 1 "a.c" (some sampleMany.args) 0 0 unit 0 ∈
        ((parse sampleTable.library 1 ⟨⟨1, 1, .index⟩⟩ "a.c" sampleMany).run
          sampleIndexed).2.native.log ∧
      ¬Counts sampleMany.args (.parse 1 "a.c" (some sampleMany.args) 0 0 unit 0) := by
  have hlength : sampleMany.args.length = 4294967296 := List.length_replicate
  have hzero : sampleMany.args.find? hasZero = none := by
    refine List.find?_eq_none.mpr fun arg hm => ?_
    obtain rfl := List.eq_of_mem_replicate hm
    decide
  have hc : checkParse "a.c" sampleMany.args = .ok () := by
    rw [checkParse_args _ (show hasZero "a.c" = false from rfl), hzero]
  have hargv : sampleMany.argv = some sampleMany.args := by
    refine if_neg fun he => ?_
    rw [List.isEmpty_iff_length_eq_zero, hlength] at he
    exact absurd he (by decide)
  have hargc : sampleMany.argc = 0 := by
    rw [ParseOptions.argc, hlength]
    rfl
  have hlook : (sampleIndexed.sessions 1).look ⟨1, 1, .index⟩ Resource.asIndex? = .ok (.ok 1) := rfl
  obtain ⟨unit, hlog⟩ : ∃ unit,
      parseCall sampleTable.library 1 "a.c" sampleMany unit :: sampleIndexed.native.log <:+
        ((parse sampleTable.library 1 ⟨⟨1, 1, .index⟩⟩ "a.c" sampleMany).run
          sampleIndexed).2.native.log := parse_log_suffix hlook hc
  refine ⟨unit, hlog.mem ?_, fun hcounts => ?_⟩
  · rw [parseCall, hargv, hargc]
    exact .head _
  · rw [Counts, hlength] at hcounts
    exact absurd hcounts (by decide)

end Outcome

end Session

end SyntaxHandles
