import SyntaxHandles.Proofs.Options.Layouts
import SyntaxHandles.Proofs.Session.Parsing

-- A word of flags stands for the set of the flags in it. Each flag but the empty one has a bit that
-- no other flag has, so the set can be told from the word; bits that belong to no flag are passed
-- on to the parser with the rest.

namespace SyntaxHandles

namespace ParseFlag

variable {flag other : ParseFlag} {xs ys : List ParseFlag}

theorem bits_eq_zero_iff : flag.bits = 0 ↔ flag = .none := by
  cases flag <;> decide

theorem bits_and_bits_of_ne (h : flag ≠ other) : flag.bits &&& other.bits = 0 := by
  cases flag <;> cases other <;> first | rfl | exact absurd rfl h

theorem or_and_distrib (a b c : UInt32) : (a ||| b) &&& c = (a &&& c) ||| (b &&& c) := by
  apply UInt32.eq_of_toBitVec_eq
  ext i
  simp [Bool.and_or_distrib_right]

section Masks

theorem foldl_bits (word : UInt32) (flags : List ParseFlag) :
    flags.foldl (fun bits flag => bits ||| flag.bits) word = word ||| mask flags := by
  induction flags generalizing word with
  | nil => exact UInt32.or_zero.symm
  | cons flag flags ih =>
      have hmask : mask (flag :: flags) = (0 ||| flag.bits) ||| mask flags := ih _
      rw [List.foldl_cons, ih, hmask, UInt32.zero_or, UInt32.or_assoc]

theorem mask_append (xs ys : List ParseFlag) : mask (xs ++ ys) = mask xs ||| mask ys := by
  rw [mask, List.foldl_append, foldl_bits]
  rfl

theorem mask_cons (flag : ParseFlag) (flags : List ParseFlag) :
    mask (flag :: flags) = flag.bits ||| mask flags := by
  rw [← List.singleton_append, mask_append]
  exact congrArg (· ||| mask flags) UInt32.zero_or

-- The bits of a flag are all in the word of a list, or none of them is.
theorem mask_and_bits (flags : List ParseFlag) (flag : ParseFlag) :
    mask flags &&& flag.bits = if flag ∈ flags then flag.bits else 0 := by
  induction flags with
  | nil => exact UInt32.zero_and
  | cons first flags ih =>
      rw [mask_cons, or_and_distrib, ih]
      by_cases hf : first = flag
      · subst hf
        rw [if_pos List.mem_cons_self, UInt32.and_self]
        split
        · exact UInt32.or_self
        · exact UInt32.or_zero
      · have hm : flag ∈ first :: flags ↔ flag ∈ flags := by
          rw [List.mem_cons, or_iff_right (Ne.symm hf)]
        rw [bits_and_bits_of_ne hf, UInt32.zero_or, if_congr hm rfl rfl]

theorem bits_or_mask (h : flag ∈ xs) : flag.bits ||| mask xs = mask xs := by
  induction xs with
  | nil => exact absurd h List.not_mem_nil
  | cons first xs ih =>
      rw [mask_cons]
      rcases List.mem_cons.mp h with rfl | hm
      · rw [← UInt32.or_assoc, UInt32.or_self]
      · rw [← UInt32.or_assoc, UInt32.or_comm flag.bits, UInt32.or_assoc, ih hm]

theorem mask_or_mask (h : ∀ flag, flag ≠ .none → flag ∈ xs → flag ∈ ys) :
    mask xs ||| mask ys = mask ys := by
  induction xs with
  | nil => exact UInt32.zero_or
  | cons first xs ih =>
      have hxs := ih fun flag hne hm => h flag hne (List.mem_cons_of_mem _ hm)
      rw [mask_cons, UInt32.or_assoc, hxs]
      by_cases hf : first = .none
      · rw [bits_eq_zero_iff.mpr hf, UInt32.zero_or]
      · exact bits_or_mask (h first hf List.mem_cons_self)

theorem mem_of_mask_eq (h : mask xs = mask ys) (hne : flag ≠ .none) (hm : flag ∈ xs) :
    flag ∈ ys := by
  have hbits := mask_and_bits ys flag
  rw [← h, mask_and_bits, if_pos hm] at hbits
  by_contra hn
  rw [if_neg hn] at hbits
  exact hne (bits_eq_zero_iff.mp hbits)

theorem mask_eq_iff : mask xs = mask ys ↔ ∀ flag, flag ≠ .none → (flag ∈ xs ↔ flag ∈ ys) := by
  constructor
  · intro h flag hne
    exact ⟨mem_of_mask_eq h hne, mem_of_mask_eq h.symm hne⟩
  · intro h
    have hxs := mask_or_mask fun flag hne => (h flag hne).mp
    have hys := mask_or_mask fun flag hne => (h flag hne).mpr
    rw [← hxs, UInt32.or_comm, hys]

theorem mask_all_and_bits (flag : ParseFlag) : mask Constant.all &&& flag.bits = flag.bits := by
  have hall : flag ∈ (Constant.all : List ParseFlag) := by cases flag <;> decide
  rw [mask_and_bits, if_pos hall]

end Masks

end ParseFlag

namespace ParseOptions

open Json

variable {args : List String} {flags : List ParseFlag} {flag : ParseFlag}
  {options other : ParseOptions}

theorem hasFlag_ofFlags :
    (ofFlags args flags).hasFlag flag = true ↔ flag ≠ .none ∧ flag ∈ flags := by
  have hword : (ofFlags args flags).flags &&& flag.bits = if flag ∈ flags then flag.bits else 0 :=
    ParseFlag.mask_and_bits flags flag
  simp only [hasFlag, hword, Bool.and_eq_true, decide_eq_true_eq, ne_eq,
    ParseFlag.bits_eq_zero_iff]
  refine and_congr_right fun hne => ?_
  by_cases hm : flag ∈ flags
  · simp [hm]
  · have hbits : (0 : UInt32) ≠ flag.bits := fun h => hne (ParseFlag.bits_eq_zero_iff.mp h.symm)
    simp [hm, hbits]

-- Only the bits of flags matter for what the flags are.
theorem hasFlag_congr (h : options.flags &&& ParseFlag.mask Constant.all =
    other.flags &&& ParseFlag.mask Constant.all) (flag : ParseFlag) :
    options.hasFlag flag = other.hasFlag flag := by
  have hword : options.flags &&& flag.bits = other.flags &&& flag.bits := by
    rw [← ParseFlag.mask_all_and_bits, ← UInt32.and_assoc, h, UInt32.and_assoc]
  rw [hasFlag, hasFlag, hword]

-- A list of flags means the set of them, and a word from a text reaches the parser as it is. What
-- bits it has beside those of the flags makes no difference to what flags are found in it.
theorem flags_stand_for_sets :
    (∀ args flags flag, (ofFlags args flags).hasFlag flag = true ↔ flag ≠ .none ∧ flag ∈ flags) ∧
    (∀ xs ys, ParseFlag.mask xs = ParseFlag.mask ys ↔
      ∀ flag, flag ≠ .none → (flag ∈ xs ↔ flag ∈ ys)) ∧
    (∀ xs ys, ParseFlag.mask (xs ++ ys) = ParseFlag.mask xs ||| ParseFlag.mask ys) ∧
    ∀ args flags entries text, (settings entries).Perm (given args (some flags)) →
      IsText (layout.Object entries) text →
        ∃ options, ofJson? text = .ok options ∧
          options.args = args.getD [] ∧ options.flags = flags ∧
          (∀ other : ParseOptions, flags &&& ParseFlag.mask Constant.all =
            other.flags &&& ParseFlag.mask Constant.all →
              ∀ flag, options.hasFlag flag = other.hasFlag flag) ∧
          ∀ library key handle filename index thread,
            (thread.sessions key).look handle.id Resource.asIndex? = .ok (.ok index) →
            Session.checkParse filename options.args = .ok () →
              ∃ unit, .parse index filename options.argv options.argc flags unit
                  (library.parse filename options.argv options.argc flags).code ::
                    thread.native.log <:+
                ((Session.parse library key handle filename options).run thread).2.native.log := by
  refine ⟨fun _ _ _ => hasFlag_ofFlags, fun _ _ => ParseFlag.mask_eq_iff, ParseFlag.mask_append,
    fun args flags entries text hp ht => ?_⟩
  have hread := ofJson?_object hp ht
  refine ⟨_, hread, rfl, rfl, fun other h => hasFlag_congr h, ?_⟩
  intro library key handle filename index thread hlook hcheck
  exact Session.parse_log_suffix hlook hcheck

-- A text with a bit that belongs to no flag.
theorem flags_stand_for_sets_of_sample :
    (ofFlags [] [.incomplete, .none, .incomplete]).hasFlag .incomplete = true ∧
      ∃ options, ofJson? "\x7b\"flags\":10\x7d" = .ok options ∧ options.flags = 10 ∧
        options.hasFlag .incomplete = (ofFlags [] [.incomplete]).hasFlag .incomplete ∧
        ∃ unit, .parse 1 "a.c" none 0 10 unit 0 :: Session.sampleIndexed.native.log <:+
          ((Session.parse Session.sampleTable.library 1 ⟨⟨1, 1, .index⟩⟩ "a.c" options).run
            Session.sampleIndexed).2.native.log := by
  obtain ⟨hflags, -, -, htexts⟩ := flags_stand_for_sets
  have hmember : layout.Member (.setting (.flags 10)) ("\"flags\":10".toList ++ ['\x7d'])
      ['\x7d'] :=
    ⟨_, _, _, .nil _, spelled_escaped "flags".toList _, .nil _, _, _, .nil _, rfl, .nil _⟩
  have htext : IsText (layout.Object ([] ++ [.setting (.flags 10)]))
      "\x7b\"flags\":10\x7d" :=
    ⟨_, _, .nil _, ⟨_, rfl, .items (.nil _) hmember⟩, .nil _⟩
  obtain ⟨options, hread, hargs, hword, hsame, hparse⟩ := htexts none 10 _ _ (.refl _) htext
  obtain ⟨unit, hlog⟩ := hparse Session.sampleTable.library 1 ⟨⟨1, 1, .index⟩⟩ "a.c" 1
    Session.sampleIndexed rfl (by rw [hargs]; rfl)
  rw [ParseOptions.argv, ParseOptions.argc, hargs] at hlog
  exact ⟨(hflags ..).mpr (by decide), options, hread, hword,
    hsame (ofFlags [] [.incomplete]) (by decide) _, unit, hlog⟩

end ParseOptions

end SyntaxHandles
