import Mathlib
import SyntaxHandles.Fault

-- What the texts of identities and faults tell apart. Free text stands in them as it is, and may
-- hold whatever the fixed parts consist of; so the parts are found from the end of the text that no
-- free text reaches.

namespace SyntaxHandles

section Parts

variable {α : Type} {c : α} {s s' t t' : List α}

-- Two texts are divided at the first place of the same character.
theorem eq_of_append_cons (hs : c ∉ s) (hs' : c ∉ s') (h : s ++ c :: t = s' ++ c :: t') :
    s = s' ∧ t = t' := by
  induction s generalizing s' with
  | nil =>
      cases s' with
      | nil => exact ⟨rfl, (List.cons.inj h).2⟩
      | cons d s' =>
          obtain ⟨rfl, -⟩ := List.cons.inj h
          exact absurd List.mem_cons_self hs'
  | cons a s ih =>
      cases s' with
      | nil =>
          obtain ⟨rfl, -⟩ := List.cons.inj h
          exact absurd List.mem_cons_self hs
      | cons d s' =>
          obtain ⟨rfl, hrest⟩ := List.cons.inj h
          obtain ⟨rfl, ht⟩ := ih (List.not_mem_of_not_mem_cons hs)
            (List.not_mem_of_not_mem_cons hs') hrest
          exact ⟨rfl, ht⟩

-- The same at the last place.
theorem eq_of_append_cons_last (ht : c ∉ t) (ht' : c ∉ t') (h : s ++ c :: t = s' ++ c :: t') :
    s = s' ∧ t = t' := by
  have hr := congrArg List.reverse h
  simp only [List.reverse_append, List.reverse_cons, List.append_assoc, List.singleton_append]
    at hr
  obtain ⟨hback, hfront⟩ := eq_of_append_cons (by rwa [List.mem_reverse])
    (by rwa [List.mem_reverse]) hr
  exact ⟨List.reverse_inj.mp hfront, List.reverse_inj.mp hback⟩

end Parts

section Numbers

variable {c : Char}

theorem not_mem_repr (n : Nat) (hc : c.isDigit = false) : c ∉ n.repr.toList := by
  intro hm
  rw [Nat.toList_repr] at hm
  have hdigit := Nat.isDigit_of_mem_toDigits (by decide) (by decide) hm
  exact Bool.false_ne_true (hc.symm.trans hdigit)

theorem not_mem_toString_uint32 (n : UInt32) (hc : c.isDigit = false) :
    c ∉ (toString n).toList :=
  not_mem_repr n.toNat hc

theorem toString_uint32_injective {m n : UInt32} (h : toString m = toString n) : m = n := by
  have hr : m.toNat.repr = n.toNat.repr := h
  exact UInt32.toNat_inj.mp (Nat.repr_injective hr)

-- A negative number has its sign in front.
theorem not_mem_toString_int32 (n : Int32) (hc : c.isDigit = false) (hs : c ≠ '-') :
    c ∉ (toString n).toList := by
  intro hm
  have hr : c ∈ n.toInt.repr.toList := hm
  rw [Int.repr_eq_if] at hr
  split at hr
  · exact not_mem_repr _ hc hr
  · rw [String.toList_append, List.mem_append] at hr
    rcases hr with hsign | hdigits
    · exact hs (List.mem_singleton.mp hsign)
    · exact not_mem_repr _ hc hdigits

theorem toString_int32_injective {m n : Int32} (h : toString m = toString n) : m = n := by
  have hr : m.toInt.repr = n.toInt.repr := h
  exact Int32.toInt_inj.mp (Int.repr_injective hr)

end Numbers

namespace ResourceKind

theorem text_injective {a b : ResourceKind} (h : a.text = b.text) : a = b := by
  cases a <;> cases b <;> first | rfl | exact absurd h (by decide)

-- None of the marks that stand behind a kind is part of one.
theorem not_mem_text (kind : ResourceKind) : '#' ∉ kind.text.toList ∧ ':' ∉ kind.text.toList := by
  cases kind <;> decide

end ResourceKind

namespace ResourceId

theorem toList_text (id : ResourceId) : id.text.toList =
    id.kind.text.toList ++ '#' :: ((toString id.serial).toList ++
      '@' :: (toString id.registry).toList) := by
  simp [text, String.toList_append]

theorem text_inj {a b : ResourceId} (h : a.text = b.text) : a = b := by
  have hl := congrArg String.toList h
  rw [toList_text, toList_text] at hl
  have hserial (n : UInt32) : '@' ∉ (toString n).toList := not_mem_toString_uint32 n rfl
  obtain ⟨hk, hl⟩ := eq_of_append_cons a.kind.not_mem_text.1 b.kind.not_mem_text.1 hl
  obtain ⟨hs, hr⟩ := eq_of_append_cons (hserial a.serial) (hserial b.serial) hl
  obtain ⟨registry, serial, kind⟩ := a
  obtain rfl := toString_uint32_injective (String.toList_injective hr)
  obtain rfl := toString_uint32_injective (String.toList_injective hs)
  obtain rfl := ResourceKind.text_injective (String.toList_injective hk)
  rfl

theorem colon_not_mem_text (id : ResourceId) : ':' ∉ id.text.toList := by
  have hnumber (n : UInt32) : ':' ∉ (toString n).toList := not_mem_toString_uint32 n rfl
  rw [toList_text]
  simp only [List.mem_append, List.mem_cons, not_or]
  exact ⟨id.kind.not_mem_text.2, by decide, hnumber id.serial, by decide, hnumber id.registry⟩

end ResourceId

namespace Fault

-- What the message of a fault starts with, whatever the fault holds.
def opening : Fault → String
  | invalidArgument _ => "invalid argument: "
  | invalidHandle .. => "invalid handle "
  | parseFailed .. => "failed to parse '"
  | resourceExhausted _ => "native allocation failed while creating "
  | libraryUnavailable _ => "libclang is unavailable: "

def details : Fault → List Char
  | invalidArgument problem => problem.toList
  | invalidHandle id reason => id.text.toList ++ ':' :: ' ' :: reason.toList
  | parseFailed filename code =>
    filename.toList ++ "' (libclang error code".toList ++ ' ' :: ((toString code).toList ++ [')'])
  | resourceExhausted kind => kind.text.toList
  | libraryUnavailable problem => problem.toList

theorem toList_message (fault : Fault) :
    fault.message.toList = fault.opening.toList ++ fault.details := by
  cases fault with
  | invalidArgument problem => exact String.toList_append
  | invalidHandle id reason =>
      have hcolon : ": ".toList = [':', ' '] := by decide
      change ("invalid handle " ++ id.text ++ ": " ++ reason).toList = _
      simp only [opening, details, String.toList_append, List.append_assoc, hcolon,
        List.cons_append, List.nil_append]
  | parseFailed filename code =>
      have hwords : "' (libclang error code ".toList = "' (libclang error code".toList ++ [' '] :=
        by decide
      have hclose : ")".toList = [')'] := by decide
      change ("failed to parse '" ++ filename ++ "' (libclang error code " ++ toString code ++
        ")").toList = _
      simp only [opening, details, String.toList_append, List.append_assoc, hwords, hclose,
        List.cons_append, List.nil_append]
  | resourceExhausted kind => exact String.toList_append
  | libraryUnavailable problem => exact String.toList_append

def openings : List String :=
  ["invalid argument: ", "invalid handle ", "failed to parse '",
    "native allocation failed while creating ", "libclang is unavailable: "]

theorem opening_mem (fault : Fault) : fault.opening ∈ openings := by
  cases fault <;> simp [opening, openings]

-- Nine characters are enough to tell the openings apart.
theorem openings_differ : ∀ a ∈ openings, 9 ≤ a.toList.length ∧
    ∀ b ∈ openings, a.toList.take 9 = b.toList.take 9 → a = b := by
  decide

theorem take_message (fault : Fault) :
    fault.message.toList.take 9 = fault.opening.toList.take 9 := by
  have hlong := (openings_differ _ fault.opening_mem).1
  rw [toList_message, List.take_append_of_le_length hlong]

theorem opening_eq_of_message_eq {a b : Fault} (h : a.message = b.message) :
    a.opening = b.opening := by
  have heq : a.opening.toList.take 9 = b.opening.toList.take 9 := by
    rw [← take_message, ← take_message, h]
  exact (openings_differ _ a.opening_mem).2 _ b.opening_mem heq

theorem details_eq_of_message_eq {a b : Fault} (h : a.message = b.message) :
    a.details = b.details := by
  have hl := congrArg String.toList h
  rw [toList_message, toList_message, opening_eq_of_message_eq h] at hl
  exact List.append_cancel_left hl

theorem invalidHandle_details_inj {id id' : ResourceId} {reason reason' : String}
    (h : (invalidHandle id reason).details = (invalidHandle id' reason').details) :
    id = id' ∧ reason = reason' := by
  obtain ⟨hid, hrest⟩ := eq_of_append_cons id.colon_not_mem_text id'.colon_not_mem_text h
  exact ⟨ResourceId.text_inj (String.toList_injective hid),
    String.toList_injective (List.cons.inj hrest).2⟩

-- The code is behind the last space, and the name of the file is all that is before the fixed words.
theorem parseFailed_details_inj {filename filename' : String} {code code' : Int32}
    (h : (parseFailed filename code).details = (parseFailed filename' code').details) :
    filename = filename' ∧ code = code' := by
  have hspace (n : Int32) : ' ' ∉ (toString n).toList ++ [')'] := by
    rw [List.mem_append, not_or]
    exact ⟨not_mem_toString_int32 n rfl (by decide), by decide⟩
  obtain ⟨hname, hcode⟩ := eq_of_append_cons_last (hspace code) (hspace code') h
  exact ⟨String.toList_injective (List.append_cancel_right hname),
    toString_int32_injective (String.toList_injective (List.append_cancel_right hcode))⟩

theorem message_inj {a b : Fault} (h : a.message = b.message) : a = b := by
  have hopening := opening_eq_of_message_eq h
  have hdetails := details_eq_of_message_eq h
  cases a with
  | invalidArgument problem =>
      cases b with
      | invalidArgument problem' => rw [String.toList_injective hdetails]
      | _ => simp [opening] at hopening
  | invalidHandle id reason =>
      cases b with
      | invalidHandle id' reason' =>
          obtain ⟨rfl, rfl⟩ := invalidHandle_details_inj hdetails
          rfl
      | _ => simp [opening] at hopening
  | parseFailed filename code =>
      cases b with
      | parseFailed filename' code' =>
          obtain ⟨rfl, rfl⟩ := parseFailed_details_inj hdetails
          rfl
      | _ => simp [opening] at hopening
  | resourceExhausted kind =>
      cases b with
      | resourceExhausted kind' =>
          rw [ResourceKind.text_injective (String.toList_injective hdetails)]
      | _ => simp [opening] at hopening
  | libraryUnavailable problem =>
      cases b with
      | libraryUnavailable problem' => rw [String.toList_injective hdetails]
      | _ => simp [opening] at hopening

end Fault

-- Different identities have different texts, and so have different faults, whatever texts are in
-- them.
theorem texts_lose_nothing : Function.Injective ResourceId.text ∧ Function.Injective Fault.message :=
  ⟨fun _ _ => ResourceId.text_inj, fun _ _ => Fault.message_inj⟩

end SyntaxHandles
