import SyntaxHandles.Proofs.Json.Layout
import SyntaxHandles.Proofs.Json.RoundTrip

-- What the options in a text are does not depend on the layout of the text: the order of the
-- settings, members of other names, blanks, and whether an object or a row holds them.

namespace SyntaxHandles

open Json

namespace ParseOptions

-- What a text can say about the options of a parser.
inductive Setting
  | args (args : List String)
  | flags (flags : UInt32)

def layout : Layout Setting ParseOptions where
  fields := fields
  name
    | .args _ => "args"
    | .flags _ => "flags"
  Writes
    | .args args, s, t =>
      ∃ u, s = '[' :: u ∧ Enclosed ']' (fun text => Padded (StringOf text)) args u t
    | .flags flags, s, t => s = (Value.number flags.toNat).write ++ t
  change
    | .args args, options => { options with args }
    | .flags flags, options => { options with flags }

-- The settings of a text in the order of the fields.
def given (args : Option (List String)) (flags : Option UInt32) : List Setting :=
  (args.map .args).toList ++ (flags.map .flags).toList

theorem readsWritten_string : ReadsWritten readString StringOf where
  reads hb h _ := readString_gives_string hb h
  begins := by
    rintro _ _ _ ⟨content, rfl, -⟩
    exact ⟨'"', content, rfl, rfl, by decide⟩

theorem readBy_args (args : List String) :
    layout.ReadBy ⟨"args", fun s =>
      (readList readString s).map fun args options => { options with args }⟩ (.args args) := by
  rintro start s t hb ⟨u, rfl, h⟩ -
  exact (readsWritten_string.readList_gives hb h).map
    fun args (options : ParseOptions) => { options with args }

theorem readBy_flags (flags : UInt32) :
    layout.ReadBy ⟨"flags", fun s =>
      (readUInt32 s).map fun flags options => { options with flags }⟩ (.flags flags) := by
  rintro start s t hb rfl he
  exact (readUInt32_gives_natural flags hb he).map
    fun flags (options : ParseOptions) => { options with flags }

theorem lawful_layout : layout.Lawful where
  reads setting := by
    cases setting with
    | args args => exact ⟨_, rfl, readBy_args args⟩
    | flags flags => exact ⟨_, rfl, readBy_flags flags⟩
  known := by
    intro field hmem
    obtain rfl | rfl : field = fields[0] ∨ field = fields[1] := by
      simpa [layout, fields] using hmem
    · exact ⟨.args [], rfl⟩
    · exact ⟨.flags 0, rfl⟩
  begins := by
    rintro (args | flags) s t h
    · obtain ⟨u, rfl, -⟩ := h
      exact ⟨'[', u, rfl, rfl, by decide⟩
    · obtain rfl : s = _ := h
      exact exists_write_append _ t
  commute := by
    rintro (a | a) (b | b) hne record
    · exact absurd rfl hne
    · rfl
    · rfl
    · exact absurd rfl hne

variable {args : Option (List String)} {flags : Option UInt32} {text : String}
  {entries : List (Entry Setting)}

theorem names_given (args : Option (List String)) (flags : Option UInt32) :
    ((given args flags).map layout.name).Nodup := by
  cases args <;> cases flags <;> simp [given, layout]

theorem applyAll_given (args : Option (List String)) (flags : Option UInt32) :
    layout.applyAll (given args flags) {} = ⟨args.getD [], flags.getD 0⟩ := by
  cases args <;> cases flags <;> rfl

theorem ofJson?_object (hp : (settings entries).Perm (given args flags))
    (ht : IsText (layout.Object entries) text) :
    ofJson? text = .ok ⟨args.getD [], flags.getD 0⟩ := by
  have hread : readText (readRecord "ParseOptions" fields {}) text = _ :=
    Layout.readText_object lawful_layout hp (names_given args flags) ht
  rw [ofJson?, hread, applyAll_given]
  rfl

-- Only the last settings can be missing in a row.
theorem ofJson?_row (hlast : args = none → flags = none)
    (ht : IsText (layout.Row (given args flags)) text) :
    ofJson? text = .ok ⟨args.getD [], flags.getD 0⟩ := by
  have hfields : layout.fields = [_, _] := rfl
  obtain ⟨used, left, hf, hu⟩ := Layout.exists_used hfields readBy_args readBy_flags hlast
  have hread : readText (readRecord "ParseOptions" fields {}) text =
      .ok (layout.applyAll (given args flags) {}) :=
    Layout.readText_row lawful_layout hf hu ht
  rw [ofJson?, hread, applyAll_given]
  rfl

theorem ofJson?_repeats (ht : layout.Repeats entries text) :
    ∃ setting unread, ofJson? text = .error (.invalidArgument ("invalid parse options: " ++
      (Failure.at (.duplicateField (layout.name setting)) unread).message text.toList)) := by
  obtain ⟨setting, unread, h⟩ := Layout.readText_repeats lawful_layout ht
  have hread : readText (readRecord "ParseOptions" fields {}) text = _ := h
  exact ⟨setting, unread, by rw [ofJson?, hread]; rfl⟩

end ParseOptions

namespace IndexOptions

-- What a text can say about the options of an index.
inductive Setting
  | exclude (value : Bool)
  | display (value : Bool)

def layout : Layout Setting IndexOptions where
  fields := fields
  name
    | .exclude _ => "exclude_declarations_from_pch"
    | .display _ => "display_diagnostics"
  Writes
    | .exclude value, s, t => s = (Value.bool value).write ++ t
    | .display value, s, t => s = (Value.bool value).write ++ t
  change
    | .exclude value, options => { options with excludeDeclarationsFromPch := value }
    | .display value, options => { options with displayDiagnostics := value }

def given (exclude display : Option Bool) : List Setting :=
  (exclude.map .exclude).toList ++ (display.map .display).toList

theorem readBy_exclude (value : Bool) :
    layout.ReadBy ⟨"exclude_declarations_from_pch", fun s =>
      (readBool s).map fun b options => { options with excludeDeclarationsFromPch := b }⟩
        (.exclude value) := by
  rintro start s t hb rfl -
  exact (readBool_gives value hb).map
    fun b (options : IndexOptions) => { options with excludeDeclarationsFromPch := b }

theorem readBy_display (value : Bool) :
    layout.ReadBy ⟨"display_diagnostics", fun s =>
      (readBool s).map fun b options => { options with displayDiagnostics := b }⟩
        (.display value) := by
  rintro start s t hb rfl -
  exact (readBool_gives value hb).map
    fun b (options : IndexOptions) => { options with displayDiagnostics := b }

theorem lawful_layout : layout.Lawful where
  reads setting := by
    cases setting with
    | exclude value => exact ⟨_, rfl, readBy_exclude value⟩
    | display value => exact ⟨_, rfl, readBy_display value⟩
  known := by
    intro field hmem
    obtain rfl | rfl : field = fields[0] ∨ field = fields[1] := by
      simpa [layout, fields] using hmem
    · exact ⟨.exclude true, rfl⟩
    · exact ⟨.display true, rfl⟩
  begins := by
    rintro (value | value) s t h
    all_goals
      obtain rfl : s = _ := h
      exact exists_write_append _ t
  commute := by
    rintro (a | a) (b | b) hne record
    · exact absurd rfl hne
    · rfl
    · rfl
    · exact absurd rfl hne

variable {exclude display : Option Bool} {text : String} {entries : List (Entry Setting)}

theorem names_given (exclude display : Option Bool) :
    ((given exclude display).map layout.name).Nodup := by
  cases exclude <;> cases display <;> simp [given, layout]

theorem applyAll_given (exclude display : Option Bool) :
    layout.applyAll (given exclude display) {} = ⟨exclude.getD false, display.getD false⟩ := by
  cases exclude <;> cases display <;> rfl

theorem ofJson?_object (hp : (settings entries).Perm (given exclude display))
    (ht : IsText (layout.Object entries) text) :
    ofJson? text = .ok ⟨exclude.getD false, display.getD false⟩ := by
  have hread : readText (readRecord "IndexOptions" fields {}) text = _ :=
    Layout.readText_object lawful_layout hp (names_given exclude display) ht
  rw [ofJson?, hread, applyAll_given]

theorem ofJson?_row (hlast : exclude = none → display = none)
    (ht : IsText (layout.Row (given exclude display)) text) :
    ofJson? text = .ok ⟨exclude.getD false, display.getD false⟩ := by
  have hfields : layout.fields = [_, _] := rfl
  obtain ⟨used, left, hf, hu⟩ := Layout.exists_used hfields readBy_exclude readBy_display hlast
  have hread : readText (readRecord "IndexOptions" fields {}) text =
      .ok (layout.applyAll (given exclude display) {}) :=
    Layout.readText_row lawful_layout hf hu ht
  rw [ofJson?, hread, applyAll_given]

theorem ofJson?_repeats (ht : layout.Repeats entries text) :
    ∃ setting unread, ofJson? text = .error
      ((Failure.at (.duplicateField (layout.name setting)) unread).message text.toList) := by
  obtain ⟨setting, unread, h⟩ := Layout.readText_repeats lawful_layout ht
  exact ⟨setting, unread, h⟩

end IndexOptions

-- The options of a parser, and those of an index, are what the members of their names say, wherever
-- these stand in the object. A member that is given twice is refused.
theorem options_mean_the_same_in_any_layout :
    (∀ args flags entries text, (settings entries).Perm (ParseOptions.given args flags) →
      IsText (ParseOptions.layout.Object entries) text →
        ParseOptions.ofJson? text = .ok { args := args.getD [], flags := flags.getD 0 } ∧
        (∀ bare, IsText (ParseOptions.layout.Object ((settings entries).map .setting)) bare →
          ParseOptions.ofJson? bare = ParseOptions.ofJson? text) ∧
        ((args = none → flags = none) →
          ∀ row, IsText (ParseOptions.layout.Row (ParseOptions.given args flags)) row →
            ParseOptions.ofJson? row = ParseOptions.ofJson? text)) ∧
    (∀ entries text, ParseOptions.layout.Repeats entries text →
      ∃ setting unread, ParseOptions.ofJson? text =
        .error (.invalidArgument ("invalid parse options: " ++
          (Failure.at (.duplicateField (ParseOptions.layout.name setting)) unread).message
            text.toList))) ∧
    (∀ exclude display entries text,
      (settings entries).Perm (IndexOptions.given exclude display) →
      IsText (IndexOptions.layout.Object entries) text →
        IndexOptions.ofJson? text = .ok
          { excludeDeclarationsFromPch := exclude.getD false,
            displayDiagnostics := display.getD false } ∧
        (∀ bare, IsText (IndexOptions.layout.Object ((settings entries).map .setting)) bare →
          IndexOptions.ofJson? bare = IndexOptions.ofJson? text) ∧
        ((exclude = none → display = none) →
          ∀ row, IsText (IndexOptions.layout.Row (IndexOptions.given exclude display)) row →
            IndexOptions.ofJson? row = IndexOptions.ofJson? text)) ∧
    (∀ entries text, IndexOptions.layout.Repeats entries text →
      ∃ setting unread, IndexOptions.ofJson? text =
        .error ((Failure.at (.duplicateField (IndexOptions.layout.name setting)) unread).message
          text.toList)) := by
  refine ⟨?_, fun _ _ => ParseOptions.ofJson?_repeats, ?_, fun _ _ => IndexOptions.ofJson?_repeats⟩
  · intro args flags entries text hp ht
    have hread := ParseOptions.ofJson?_object hp ht
    refine ⟨hread, fun bare hbare => ?_, fun hlast row hrow => ?_⟩
    · rw [hread]
      exact ParseOptions.ofJson?_object (by rwa [settings_map_setting]) hbare
    · rw [hread, ParseOptions.ofJson?_row hlast hrow]
  · intro exclude display entries text hp ht
    have hread := IndexOptions.ofJson?_object hp ht
    refine ⟨hread, fun bare hbare => ?_, fun hlast row hrow => ?_⟩
    · rw [hread]
      exact IndexOptions.ofJson?_object (by rwa [settings_map_setting]) hbare
    · rw [hread, IndexOptions.ofJson?_row hlast hrow]

theorem options_mean_the_same_in_any_layout_of_samples :
    ParseOptions.ofJson? "\x7b\"flags\":4 ,\"x\":[null],\"args\":[\"a\"]\x7d" =
        .ok { args := ["a"], flags := 4 } ∧
      ParseOptions.ofJson? "\x7b\"flags\":4,\"args\":[\"a\"]\x7d" =
        ParseOptions.ofJson? "\x7b\"flags\":4 ,\"x\":[null],\"args\":[\"a\"]\x7d" ∧
      ParseOptions.ofJson? "[[\"a\"],4]" =
        ParseOptions.ofJson? "\x7b\"flags\":4 ,\"x\":[null],\"args\":[\"a\"]\x7d" ∧
      (∃ setting unread, ParseOptions.ofJson? "\x7b\"flags\":4,\"flags\"" =
        .error (.invalidArgument ("invalid parse options: " ++
          (Failure.at (.duplicateField (ParseOptions.layout.name setting)) unread).message
            "\x7b\"flags\":4,\"flags\"".toList))) ∧
      IndexOptions.ofJson? "\x7b\x7d" = .ok {} ∧
      IndexOptions.ofJson? "[]" = IndexOptions.ofJson? "\x7b\x7d" ∧
      ∃ setting unread, IndexOptions.ofJson?
          "\x7b\"display_diagnostics\":true,\"display_diagnostics\"" =
        .error ((Failure.at (.duplicateField (IndexOptions.layout.name setting)) unread).message
          "\x7b\"display_diagnostics\":true,\"display_diagnostics\"".toList) := by
  have hargs (rest : List Char) : Padded (ParseOptions.layout.Writes (.args ["a"]))
      ('[' :: '"' :: 'a' :: '"' :: ']' :: rest) rest := by
    have ha : StringOf "a" ('"' :: 'a' :: '"' :: ']' :: rest) (']' :: rest) :=
      ⟨_, rfl, spelled_escaped ['a'] _⟩
    exact ⟨_, _, .nil _, ⟨_, rfl, .items (.nil _) ⟨_, _, .nil _, ha, .nil _⟩⟩, .nil _⟩
  have hflags {rest after : List Char} (hb : Blanks rest after) :
      ParseOptions.layout.Member (.setting (.flags 4)) ("\"flags\":4".toList ++ rest) after :=
    ⟨_, _, _, .nil _, spelled_escaped "flags".toList _, .nil _, _, _, .nil _, rfl, hb⟩
  have hother (rest : List Char) : ParseOptions.layout.Member (.other "x")
      ("\"x\":[null]".toList ++ rest) rest := by
    have hnull : Derives .value ('n' :: 'u' :: 'l' :: 'l' :: ']' :: rest) (']' :: rest) :=
      @Derives.word ['n', 'u', 'l', 'l'] (by decide) _
    refine ⟨by rintro (_ | _) <;> simp [ParseOptions.layout], ?_⟩
    exact ⟨_, _, _, .nil _, spelled_escaped ['x'] _, .nil _, _, _, .nil _,
      .list (.lastElement (.padded (.nil _) hnull (.nil _))), .nil _⟩
  have hlast (rest : List Char) : ParseOptions.layout.Member (.setting (.args ["a"]))
      ("\"args\":[\"a\"]".toList ++ rest) rest :=
    ⟨_, _, _, .nil _, spelled_escaped "args".toList _, .nil _, hargs rest⟩
  have hobject : IsText
      (ParseOptions.layout.Object ([.setting (.flags 4), .other "x"] ++ [.setting (.args ["a"])]))
      "\x7b\"flags\":4 ,\"x\":[null],\"args\":[\"a\"]\x7d" :=
    ⟨_, _, .nil _, ⟨_, rfl, .items (.cons (hflags (.cons (by decide) (.nil _)))
      (.cons (hother _) (.nil _))) (hlast _)⟩, .nil _⟩
  have hbare : IsText
      (ParseOptions.layout.Object ([.setting (.flags 4)] ++ [.setting (.args ["a"])]))
      "\x7b\"flags\":4,\"args\":[\"a\"]\x7d" :=
    ⟨_, _, .nil _, ⟨_, rfl, .items (.cons (hflags (.nil _)) (.nil _)) (hlast _)⟩, .nil _⟩
  have hrow : IsText (ParseOptions.layout.Row ([.args ["a"]] ++ [.flags 4])) "[[\"a\"],4]" :=
    ⟨_, _, .nil _, ⟨_, rfl, .items (.cons (hargs _) (.nil _)) ⟨_, _, .nil _, rfl, .nil _⟩⟩,
      .nil _⟩
  have htwice : ParseOptions.layout.Repeats [.setting (.flags 4)] "\x7b\"flags\":4,\"flags\"" :=
    ⟨.flags 4, List.mem_cons_self, _, _, _, _, .nil _, .cons (hflags (.nil _)) (.nil _), .nil _,
      spelled_escaped "flags".toList []⟩
  have hempty : IsText (IndexOptions.layout.Object []) "\x7b\x7d" :=
    ⟨_, _, .nil _, ⟨_, rfl, .empty (.nil _)⟩, .nil _⟩
  have hnothing : IsText (IndexOptions.layout.Row []) "[]" :=
    ⟨_, _, .nil _, ⟨_, rfl, .empty (.nil _)⟩, .nil _⟩
  have hdisplay (rest : List Char) : IndexOptions.layout.Member (.setting (.display true))
      ("\"display_diagnostics\":true".toList ++ rest) rest :=
    ⟨_, _, _, .nil _, spelled_escaped "display_diagnostics".toList _, .nil _, _, _, .nil _, rfl,
      .nil _⟩
  have hagain : IndexOptions.layout.Repeats [.setting (.display true)]
      "\x7b\"display_diagnostics\":true,\"display_diagnostics\"" :=
    ⟨.display true, List.mem_cons_self, _, _, _, _, .nil _, .cons (hdisplay _) (.nil _), .nil _,
      spelled_escaped "display_diagnostics".toList []⟩
  obtain ⟨hparse, hrepeats, hindex, hindexRepeats⟩ := options_mean_the_same_in_any_layout
  have hswap : (settings ([.setting (.flags 4), .other "x"] ++ [.setting (.args ["a"])])).Perm
      (ParseOptions.given (some ["a"]) (some 4)) := List.Perm.swap _ _ []
  obtain ⟨hread, hmembers, hpositions⟩ := hparse _ _ _ _ hswap hobject
  obtain ⟨hdefaults, -, hrows⟩ := hindex none none [] _ .nil hempty
  exact ⟨hread, hmembers _ hbare, hpositions nofun _ hrow, hrepeats _ _ htwice, hdefaults,
    hrows (fun _ => rfl) _ hnothing, hindexRepeats _ _ hagain⟩

end SyntaxHandles
