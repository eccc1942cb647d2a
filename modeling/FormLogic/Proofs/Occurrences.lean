import FormLogic.Proofs.Searches
import FormLogic.Proofs.Slices
/-!
# Occurrences

A search finds the first position at which a text stands in another (`Text.indexOf?_eq_some`).  The search, the slices
and the lengths count alike, so that the slice at the position that was found, as long as the text that was looked for,
is that text (`Strings.indexOf_agrees`).
-/
namespace FormLogic
namespace Strings

section
variable {s t : String} {v w : Value} {start : Int}

theorem stringSlice_eq_text (hv : v.IsInteger start) (hw : w.IsInteger t.length) :
    stringSlice [.string s, v, w] = .ok (.string t) ↔ t.toList <+: s.toList.drop (sliceStart s.length start) := by
  rw [(isSlice_of_values hv hw).stringSlice_eq, Except.ok.injEq, Value.string.injEq, ← Text.slice_eq_iff,
    ← String.toList_inj]
  unfold slice
  simp only [String.toList_ofList, String.length_toList]

theorem stringSlice_eq_rest (hv : v.IsInteger start) :
    stringSlice [.string s, v] = .ok (.string t) ↔ s.toList.drop (sliceStart s.length start) = t.toList := by
  rw [(isSlice_of_value hv).stringSlice_eq, Except.ok.injEq, Value.string.injEq, ← String.toList_inj]
  unfold slice
  simp only [String.toList_ofList, String.length_toList]

theorem contains_eq : contains [.string s, .string t] = (Text.indexOf? t.toList s.toList).isSome := rfl

theorem contains_iff : contains [.string s, .string t] = true ↔ t.toList <:+: s.toList := Text.occursIn_iff

theorem startsWith_iff : startsWith [.string s, .string t] = true ↔ t.toList <+: s.toList :=
  List.isPrefixOf_iff_prefix

theorem endsWith_iff : endsWith [.string s, .string t] = true ↔ t.toList <:+ s.toList := List.isSuffixOf_iff_suffix

/-- **A text starts with another** that is found at its beginning. -/
theorem startsWith_iff_indexOf? :
    startsWith [.string s, .string t] = true ↔ Text.indexOf? t.toList s.toList = some 0 := by
  rw [startsWith_iff, Text.indexOf?_eq_some, Text.standsFirst_zero]

/-- **A text ends with another** that is its rest, from where that has the length of the other. -/
theorem endsWith_iff_drop : endsWith [.string s, .string t] = true ↔
    t.length ≤ s.length ∧ s.toList.drop (s.length - t.length) = t.toList := by
  rw [endsWith_iff, ← String.length_toList, ← String.length_toList]
  constructor
  · intro h
    exact ⟨h.length_le, (List.suffix_iff_eq_drop.mp h).symm⟩
  · rintro ⟨-, h⟩
    exact List.suffix_iff_eq_drop.mpr h.symm

theorem endsWith_iff_stringSlice (hv : v.IsInteger (s.length - t.length)) :
    endsWith [.string s, .string t] = true ↔
      t.length ≤ s.length ∧ stringSlice [.string s, v] = .ok (.string t) := by
  rw [endsWith_iff_drop, stringSlice_eq_rest hv]
  by_cases h : t.length ≤ s.length
  · have hstart : sliceStart s.length (s.length - t.length) = s.length - t.length := by
      rw [sliceStart, if_pos (by omega)]
      omega
    rw [hstart]
  · simp [h]

theorem indexOf_of_none (h : Text.indexOf? t.toList s.toList = none) :
    indexOf [.string s, .string t] = .ofInt (-1) := by
  have hs : Arguments.text? [.string s, .string t] 0 = some s := rfl
  have ht : Arguments.text? [.string s, .string t] 1 = some t := rfl
  simp only [indexOf, hs, ht, h]

section
variable {position : Nat} (h : Text.indexOf? t.toList s.toList = some position)
include h

theorem indexOf_of_some : indexOf [.string s, .string t] = .ofInt position := by
  have hs : Arguments.text? [.string s, .string t] 0 = some s := rfl
  have ht : Arguments.text? [.string s, .string t] 1 = some t := rfl
  simp only [indexOf, hs, ht, h, Value.ofNat]

/-- **What is found ends inside the text.** -/
theorem add_length_le : position + t.length ≤ s.length := by
  have hinside := Text.indexOf?_le_length h
  have hlength := (Text.indexOf?_eq_some.mp h).1.length_le
  rw [List.length_drop] at hlength
  simp only [String.length_toList] at hinside hlength
  omega

/-- **The slice at the position that was found** is the text that was looked for. -/
theorem stringSlice_of_found (hv : v.IsInteger position) (hw : w.IsInteger t.length) :
    stringSlice [.string s, v, w] = .ok (.string t) := by
  have hinside := add_length_le h
  have hstart : sliceStart s.length position = position := by
    rw [sliceStart, if_pos (Int.natCast_nonneg _)]
    omega
  rw [stringSlice_eq_text hv hw, hstart]
  exact (Text.indexOf?_eq_some.mp h).1

/-- **No earlier slice is.**  A negative start is as early as the position that it stands for. -/
theorem le_firstOf_of_stringSlice (hv : v.IsInteger start) (hw : w.IsInteger t.length)
    (hslice : stringSlice [.string s, v, w] = .ok (.string t)) : position ≤ firstOf s.length start := by
  have hleads := (stringSlice_eq_text hv hw).mp hslice
  rw [firstOf_eq]
  by_contra hearlier
  exact (Text.indexOf?_eq_some.mp h).2 _ (by omega) hleads

end
end

/-- **The text `t` is found at `i` in `s`**, where -1 stands for nowhere.  The numbers of a slice are any values that
are exactly the integers. -/
structure FoundAt (s t : String) (i : Int) : Prop where
  index : indexOf [.string s, .string t] = .ofInt i
  least : -1 ≤ i
  absent : i = -1 ↔ contains [.string s, .string t] = false
  inside : 0 ≤ i → i + t.length ≤ s.length
  found : 0 ≤ i → ∀ v w : Value, v.IsInteger i → w.IsInteger t.length →
    stringSlice [.string s, v, w] = .ok (.string t)
  first : ∀ j : Int, 0 ≤ j → j < i → ∀ v w : Value, v.IsInteger j → w.IsInteger t.length →
    stringSlice [.string s, v, w] ≠ .ok (.string t)
  /-- A negative start is as early as the position that it stands for. -/
  earliest : ∀ (j : Int) (v w : Value), v.IsInteger j → w.IsInteger t.length →
    stringSlice [.string s, v, w] = .ok (.string t) → i ≤ firstOf s.length j
  atStart : startsWith [.string s, .string t] = true ↔ i = 0
  atEnd : ∀ v : Value, v.IsInteger (s.length - t.length) →
    (endsWith [.string s, .string t] = true ↔ t.length ≤ s.length ∧ stringSlice [.string s, v] = .ok (.string t))

theorem foundAt_of_none {s t : String} (h : Text.indexOf? t.toList s.toList = none) : FoundAt s t (-1) where
  index := indexOf_of_none h
  least := le_refl _
  absent := by
    rw [contains_eq, h]
    simp
  inside := fun hpos => absurd hpos (by decide)
  found := fun hpos => absurd hpos (by decide)
  first := fun j hj hlt => absurd hlt (by omega)
  earliest := fun j v w _ _ _ => Int.le_trans (by decide) (firstOf_nonneg : 0 ≤ firstOf s.length j)
  atStart := by
    rw [startsWith_iff_indexOf?, h]
    simp
  atEnd := fun v hv => endsWith_iff_stringSlice hv

theorem foundAt_of_some {s t : String} {position : Nat} (h : Text.indexOf? t.toList s.toList = some position) :
    FoundAt s t position where
  index := indexOf_of_some h
  least := by omega
  absent := by
    rw [contains_eq, h]
    simp
  inside := fun _ => Int.ofNat_le.mpr (add_length_le h)
  found := fun _ v w hv hw => stringSlice_of_found h hv hw
  first := fun j hj hlt v w hv hw hslice => by
    have hle := le_firstOf_of_stringSlice h hv hw hslice
    rw [firstOf, if_pos hj] at hle
    omega
  earliest := fun j v w hv hw hslice => le_firstOf_of_stringSlice h hv hw hslice
  atStart := by
    rw [startsWith_iff_indexOf?, h]
    simp
  atEnd := fun v hv => endsWith_iff_stringSlice hv

/-- **What the bytes of the two texts say of the position.**  The search in bytes answers it too, and takes the text
apart after so many characters. -/
structure FoundInBytes (s t : String) (i : Int) : Prop where
  index : Access.indexOf [.string s, .string t] = .ok (.ofInt i)
  offset : 0 ≤ i → ∃ byte, Text.StandsFirst (Text.bytes t) (Text.bytes s) byte ∧
    Text.splitAtByte? s.toList byte = some (s.toList.take i.toNat, s.toList.drop i.toNat)
  occurs : contains [.string s, .string t] = true ↔ Text.bytes t <:+: Text.bytes s
  atStart : startsWith [.string s, .string t] = true ↔ Text.bytes t <+: Text.bytes s
  atEnd : endsWith [.string s, .string t] = true ↔ Text.bytes t <:+ Text.bytes s

theorem FoundAt.indexOf?_eq {s t : String} {i : Int} (h : FoundAt s t i) (hpos : 0 ≤ i) :
    Text.indexOf? t.toList s.toList = some i.toNat := by
  have hindex := h.index
  cases hfound : Text.indexOf? t.toList s.toList with
  | none =>
    rw [indexOf_of_none hfound] at hindex
    cases hindex
    exact absurd hpos (by decide)
  | some position =>
    rw [indexOf_of_some hfound] at hindex
    cases hindex
    rfl

theorem FoundAt.inBytes {s t : String} {i : Int} (h : FoundAt s t i) : FoundInBytes s t i where
  index := by rw [Access.indexOf_eq, h.index]
  offset := fun hpos => by
    rw [Text.bytes_eq, Text.bytes_eq]
    exact Text.exists_byte_of_indexOf? (h.indexOf?_eq hpos)
  occurs := by rw [contains_iff, Text.bytes_eq, Text.bytes_eq, Text.encode_infix_iff]
  atStart := by rw [startsWith_iff, Text.bytes_eq, Text.bytes_eq, Text.encode_prefix_iff]
  atEnd := by rw [endsWith_iff, Text.bytes_eq, Text.bytes_eq, Text.encode_suffix_iff]

/-- **The search, the slices and the lengths of texts agree.**  The search answers -1 exactly where the text does not
occur, and else the first position at which the slice that is as long as the text is the text.  A text starts with what
is found at 0, and ends with what is its slice from the difference of the lengths on.  In a text whose number of
characters is a double, the positions and the lengths that the operators answer are themselves the numbers of such
slices. -/
theorem indexOf_agrees (s t : String) :
    ∃ i : Int, FoundAt s t i ∧ FoundInBytes s t i ∧
      (s.length ≤ 2 ^ 53 →
        (0 ≤ i → stringSlice [.string s, indexOf [.string s, .string t], length [.string t]] = .ok (.string t)) ∧
        (∀ j : Nat, j < i → stringSlice [.string s, .ofNat j, length [.string t]] ≠ .ok (.string t)) ∧
        (endsWith [.string s, .string t] = true ↔
          t.length ≤ s.length ∧ stringSlice [.string s, .ofInt (s.length - t.length)] = .ok (.string t))) := by
  have hfound : ∃ i, FoundAt s t i := by
    cases hindex : Text.indexOf? t.toList s.toList with
    | none => exact ⟨-1, foundAt_of_none hindex⟩
    | some position => exact ⟨position, foundAt_of_some hindex⟩
  obtain ⟨i, hi⟩ := hfound
  have hlength : t.length ≤ 2 ^ 53 → (length [.string t]).IsInteger t.length := fun hsmall =>
    Value.isInteger_ofInt (i := t.length) (by omega)
  refine ⟨i, hi, hi.inBytes, fun hshort => ⟨fun hpos => ?_, fun j hj => ?_, ?_⟩⟩
  · have hinside := hi.inside hpos
    rw [hi.index]
    exact hi.found hpos _ _ (Value.isInteger_ofInt (by omega)) (hlength (by omega))
  · have hinside := hi.inside (by omega)
    exact hi.first j (Int.natCast_nonneg j) hj _ _ (Value.isInteger_ofInt (by omega)) (hlength (by omega))
  · by_cases h : t.length ≤ s.length
    · exact hi.atEnd _ (Value.isInteger_ofInt (by omega))
    · simp [endsWith_iff_drop, h]

/-- Characters of one to four bytes, and occurrences that overlap. -/
theorem indexOf_agrees_overlapping :
    FoundAt "aé🙂é🙂é🙂" "🙂é🙂" 2 ∧
      stringSlice [.string "aé🙂é🙂é🙂", indexOf [.string "aé🙂é🙂é🙂", .string "🙂é🙂"],
        length [.string "🙂é🙂"]] = .ok (.string "🙂é🙂") := by
  obtain ⟨i, hi, -, hslices⟩ := indexOf_agrees "aé🙂é🙂é🙂" "🙂é🙂"
  have hindex : indexOf [.string "aé🙂é🙂é🙂", .string "🙂é🙂"] = .ofInt 2 := by decide +kernel
  have htwo : i = 2 := by
    have hsame := hi.index
    rw [hindex] at hsame
    cases hsame
    rfl
  rw [htwo] at hi hslices
  exact ⟨hi, (hslices (by decide +kernel)).1 (by decide)⟩

end Strings
end FormLogic
