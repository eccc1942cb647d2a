import FormLogic.Text.Bytes
import FormLogic.Text.Order
import Mathlib.Data.List.Infix
import Mathlib.Data.Nat.Init
import Mathlib.Tactic.ByContra
/-!
# Searches in characters and in bytes

A search finds the first position at which a text stands in another (`Text.indexOf?_eq_some`).  It makes no difference
whether the characters are compared or the bytes of their UTF-8 forms: a character starts with a byte that stands
nowhere inside of a character, so that the bytes of a text stand in those of another only between characters
(`Text.exists_of_encode_prefix`).
-/
namespace FormLogic
namespace Text

/-- **The first place of a list in another**: it stands there, and nowhere before. -/
def StandsFirst {α : Type} (wanted text : List α) (position : Nat) : Prop :=
  wanted <+: text.drop position ∧ ∀ earlier < position, ¬ wanted <+: text.drop earlier

section
variable {α : Type} {wanted text : List α} {position : Nat}

theorem standsFirst_zero : StandsFirst wanted text 0 ↔ wanted <+: text := by
  simp [StandsFirst]

theorem not_standsFirst_nil : ¬ StandsFirst wanted [] (position + 1) := by
  rintro ⟨hstands, hfirst⟩
  apply hfirst 0 (Nat.succ_pos position)
  rw [List.drop_nil] at *
  exact hstands

theorem standsFirst_cons {a : α} :
    StandsFirst wanted (a :: text) (position + 1) ↔ ¬ wanted <+: a :: text ∧ StandsFirst wanted text position := by
  simp only [StandsFirst, Nat.forall_lt_succ_left, List.drop_zero, List.drop_succ_cons]
  exact and_left_comm

end

/-- **A search finds the first place** of the wanted text. -/
theorem indexOf?_eq_some {wanted : List Char} : ∀ {text : List Char} {position : Nat},
    indexOf? wanted text = some position ↔ StandsFirst wanted text position
  | [], 0 => by
    rw [indexOf?, standsFirst_zero, List.prefix_nil]
    simp
  | [], position + 1 => by
    rw [indexOf?]
    simp [not_standsFirst_nil]
  | c :: cs, 0 => by
    rw [indexOf?, standsFirst_zero, ← List.isPrefixOf_iff_prefix]
    simp
  | c :: cs, position + 1 => by
    rw [indexOf?, standsFirst_cons, ← indexOf?_eq_some, ← List.isPrefixOf_iff_prefix]
    by_cases h : wanted.isPrefixOf (c :: cs) = true <;> simp [h]

/-- **A text stands at a position** where the slice that is as long as it is the text. -/
theorem slice_eq_iff {wanted text : List Char} {start : Nat} :
    slice start wanted.length text = wanted ↔ wanted <+: text.drop start := by
  rw [slice, List.prefix_iff_eq_take, eq_comm]

/-! ## Bytes -/

/-- **The UTF-8 form of a text.** -/
def encode (cs : List Char) : List Nat := (cs.flatMap String.utf8EncodeChar).map UInt8.toNat

theorem bytes_eq (s : String) : bytes s = encode s.toList := by
  rw [bytes, ← String.utf8Encode_toList, List.utf8Encode, List.toList_data_toByteArray, encode]

theorem encode_append (cs ds : List Char) : encode (cs ++ ds) = encode cs ++ encode ds := by
  rw [encode, List.flatMap_append, List.map_append, encode, encode]

theorem encode_cons (c : Char) (cs : List Char) :
    encode (c :: cs) = (String.utf8EncodeChar c).map UInt8.toNat ++ encode cs := by
  rw [encode, List.flatMap_cons, List.map_append, encode]

theorem length_encode (cs : List Char) : (encode cs).length = byteLength cs := by
  induction cs with
  | nil => rfl
  | cons c cs ih =>
    rw [encode_cons, List.length_append, List.length_map, String.length_utf8EncodeChar, ih, byteLength_cons]

theorem encode_ne_nil (c : Char) (cs : List Char) : encode (c :: cs) ≠ [] := by
  simp [encode, String.utf8EncodeChar_ne_nil]

theorem encode_prefix_iff {cs ds : List Char} : encode cs <+: encode ds ↔ cs <+: ds := by
  constructor
  · intro h
    have hinjective : Function.Injective UInt8.toNat := fun _ _ => UInt8.toNat_inj.mp
    obtain ⟨rest, hrest⟩ := (List.prefix_map_iff_of_injective hinjective).mp h
    apply List.isPrefix_of_utf8Encode_append_eq_utf8Encode rest.toByteArray
    rw [List.utf8Encode, List.utf8Encode, ← List.toByteArray_append]
    exact congrArg List.toByteArray hrest
  · rintro ⟨rest, rfl⟩
    rw [encode_append]
    exact List.prefix_append _ _

/-- Taking a text apart takes its bytes apart. -/
theorem drop_encode (text : List Char) (i : Nat) :
    (encode text).drop (byteLength (text.take i)) = encode (text.drop i) := by
  have hsplit : encode text = encode (text.take i) ++ encode (text.drop i) := by
    rw [← encode_append, List.take_append_drop]
  rw [hsplit, ← length_encode, List.drop_left]

/-- **A character starts with a byte that stands nowhere inside of a character.** -/
theorem eq_zero_of_encode_prefix {c d : Char} {cs ds : List Char} {byte : Nat}
    (h : encode (c :: cs) <+: (encode (d :: ds)).drop byte) (hinside : byte < d.utf8Size) : byte = 0 := by
  have hc : 0 < (String.utf8EncodeChar c).length := List.length_pos_iff.mpr String.utf8EncodeChar_ne_nil
  have hd : byte < (String.utf8EncodeChar d).length := by rwa [String.length_utf8EncodeChar]
  have hsame : (String.utf8EncodeChar c)[0] = (String.utf8EncodeChar d)[byte] := by
    obtain ⟨rest, hrest⟩ := h
    have hhead : (encode (c :: cs) ++ rest)[0]? = ((encode (d :: ds)).drop byte)[0]? :=
      congrArg (fun bytes => bytes[0]?) hrest
    rw [encode_cons, encode_cons, List.append_assoc, List.getElem?_append_left (by simpa using hc),
      List.getElem?_drop, Nat.add_zero, List.getElem?_append_left (by simpa using hd), List.getElem?_map,
      List.getElem?_map, List.getElem?_eq_getElem hc, List.getElem?_eq_getElem hd] at hhead
    exact UInt8.toNat_inj.mp (Option.some.inj hhead)
  have hfirst : (String.utf8EncodeChar c)[0].IsUTF8FirstByte := UInt8.isUTF8FirstByte_getElem_zero_utf8EncodeChar
  rw [hsame] at hfirst
  exact UInt8.isUTF8FirstByte_getElem_utf8EncodeChar.mp hfirst

/-- **The bytes of a text stand in those of another only between characters.** -/
theorem exists_of_encode_prefix {c : Char} {cs text : List Char} {byte : Nat}
    (h : encode (c :: cs) <+: (encode text).drop byte) :
    ∃ i, byte = byteLength (text.take i) ∧ c :: cs <+: text.drop i := by
  induction text generalizing byte with
  | nil =>
    have hnil : encode [] = [] := rfl
    rw [hnil, List.drop_nil, List.prefix_nil] at h
    exact absurd h (encode_ne_nil c cs)
  | cons d ds ih =>
    by_cases hinside : byte < d.utf8Size
    · have hzero := eq_zero_of_encode_prefix h hinside
      rw [hzero, List.drop_zero] at h
      exact ⟨0, hzero, encode_prefix_iff.mp h⟩
    · have hsize : ((String.utf8EncodeChar d).map UInt8.toNat).length = d.utf8Size := by
        rw [List.length_map, String.length_utf8EncodeChar]
      have hrest : (encode (d :: ds)).drop byte = (encode ds).drop (byte - d.utf8Size) := by
        rw [encode_cons, List.drop_append, hsize, List.drop_of_length_le (by omega), List.nil_append]
      rw [hrest] at h
      obtain ⟨i, hi, hleads⟩ := ih h
      refine ⟨i + 1, ?_, hleads⟩
      rw [List.take_succ_cons, byteLength_cons, ← hi]
      omega

/-- **Where bytes of a text stand**: at the byte of a position at which the text stands, if it has any. -/
theorem encode_prefix_drop_iff {wanted text : List Char} {byte : Nat} (hwanted : wanted ≠ []) :
    encode wanted <+: (encode text).drop byte ↔ ∃ i, byte = byteLength (text.take i) ∧ wanted <+: text.drop i := by
  constructor
  · intro h
    cases wanted with
    | nil => exact absurd rfl hwanted
    | cons c cs => exact exists_of_encode_prefix h
  · rintro ⟨i, rfl, h⟩
    rw [drop_encode, encode_prefix_iff]
    exact h

theorem encode_infix_iff {wanted text : List Char} : encode wanted <:+: encode text ↔ wanted <:+: text := by
  constructor
  · intro h
    by_cases hwanted : wanted = []
    · rw [hwanted]
      exact List.nil_infix
    obtain ⟨before, after, hbytes⟩ := h
    have hleads : encode wanted <+: (encode text).drop before.length := by
      rw [← hbytes, List.append_assoc, List.drop_left]
      exact List.prefix_append _ _
    obtain ⟨i, -, hi⟩ := (encode_prefix_drop_iff hwanted).mp hleads
    exact hi.isInfix.trans (List.drop_suffix i text).isInfix
  · rintro ⟨before, after, rfl⟩
    rw [encode_append, encode_append]
    exact List.infix_append _ _ _

theorem encode_suffix_iff {wanted text : List Char} : encode wanted <:+ encode text ↔ wanted <:+ text := by
  constructor
  · intro h
    by_cases hwanted : wanted = []
    · rw [hwanted]
      exact List.nil_suffix
    obtain ⟨before, hbytes⟩ := h
    have hdrop : (encode text).drop before.length = encode wanted := by
      rw [← hbytes, List.drop_left]
    have hstands : encode wanted <+: (encode text).drop before.length := by rw [hdrop]
    obtain ⟨i, hi, hleads⟩ := (encode_prefix_drop_iff hwanted).mp hstands
    rw [hi, drop_encode] at hdrop
    have hrest : text.drop i <+: wanted := by
      rw [← encode_prefix_iff, hdrop]
    rw [hleads.eq_of_length_le hrest.length_le]
    exact List.drop_suffix i text
  · rintro ⟨before, rfl⟩
    rw [encode_append]
    exact List.suffix_append _ _

theorem byteLength_take_le (text : List Char) {i j : Nat} (h : i ≤ j) :
    byteLength (text.take i) ≤ byteLength (text.take j) := by
  have hleads : text.take i <+: text.take j := List.take_prefix_take_left h
  rw [← length_encode, ← length_encode]
  exact (encode_prefix_iff.mpr hleads).length_le

/-- **The first occurrence in bytes** is what the search for it finds. -/
theorem standsFirst_of_byteIndexOf? {wanted text : List Char} {byte : Nat} (h : byteIndexOf? wanted text = some byte) :
    StandsFirst (encode wanted) (encode text) byte := by
  rw [byteIndexOf?_eq, Option.map_eq_some_iff] at h
  obtain ⟨i, hi, rfl⟩ := h
  obtain ⟨hleads, hfirst⟩ := indexOf?_eq_some.mp hi
  refine ⟨?_, fun earlier hlt hstands => ?_⟩
  · rw [drop_encode, encode_prefix_iff]
    exact hleads
  · by_cases hwanted : wanted = []
    · have hzero : i = 0 := by
        by_contra hpos
        exact hfirst 0 (Nat.pos_of_ne_zero hpos) (hwanted ▸ List.nil_prefix)
      rw [hzero] at hlt
      exact absurd hlt (Nat.not_lt_zero _)
    · obtain ⟨j, rfl, hj⟩ := (encode_prefix_drop_iff hwanted).mp hstands
      have hji : j < i := by
        by_contra hle
        exact absurd (byteLength_take_le text (Nat.le_of_not_lt hle)) (Nat.not_le_of_lt hlt)
      exact hfirst j hji hj

/-- **A position in characters has its place in bytes**, where the text is taken apart after so many characters. -/
theorem exists_byte_of_indexOf? {wanted text : List Char} {position : Nat} (h : indexOf? wanted text = some position) :
    ∃ byte, StandsFirst (encode wanted) (encode text) byte ∧
      splitAtByte? text byte = some (text.take position, text.drop position) := by
  have hbyte := byteIndexOf?_eq wanted text
  have hsplit := splitAtByte?_append (text.drop position) (text.take position)
  rw [h, Option.map_some] at hbyte
  rw [List.take_append_drop] at hsplit
  exact ⟨_, standsFirst_of_byteIndexOf? hbyte, hsplit⟩

end Text
end FormLogic
