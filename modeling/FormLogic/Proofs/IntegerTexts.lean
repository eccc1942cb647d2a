import FormLogic.Proofs.NumberValues
/-!
# Integers as texts

The text of an integer is of the plain form, and what it writes is the integer (`NumberText.ofInt`).  Read again as a
number, the text of an integer of 64 bits with a sign is that integer.  Beyond, where an integer of 64 bits has no sign,
the text is worth the nearest double, which is not an integer any more (`CastTable.standard_cast_integer_text`).
-/
namespace FormLogic

namespace Text

theorem isDigits_toDigits (n : Nat) : isDigits (Nat.toDigits 10 n) = true := by
  have hall : (Nat.toDigits 10 n).all Char.isDigit = true :=
    List.all_eq_true.mpr fun _ hc => Nat.isDigit_of_mem_toDigits (by decide) (by decide) hc
  simp [isDigits, hall]

theorem isDigits_append {a b : List Char} (ha : isDigits a = true) (hb : b.all Char.isDigit = true) :
    isDigits (a ++ b) = true := by
  simp_all [isDigits]

theorem natOfDigits_toDigits (n : Nat) : natOfDigits (Nat.toDigits 10 n) = n := Nat.ofDigitChars_ten_toDigits

theorem natOfDigits_append (a b : List Char) :
    natOfDigits (a ++ b) = 10 ^ b.length * natOfDigits a + natOfDigits b := by
  show Nat.ofDigitChars 10 (a ++ b) 0 = _
  rw [Nat.ofDigitChars_append, Nat.ofDigitChars_eq_ofDigitChars_zero]
  rfl

theorem natOfDigits_zeros (count : Nat) : natOfDigits (List.replicate count '0') = 0 := by
  show Nat.ofDigitChars 10 (List.replicate count '0') 0 = 0
  rw [Nat.ofDigitChars_replicate_zero, Nat.mul_zero]

end Text

namespace NumberText

/-- **The text of an integer**, in its parts. -/
def ofInt (i : Int) : NumberText := ⟨decide (i < 0), Nat.toDigits 10 i.natAbs, none⟩

variable {i : Int}

theorem isPlain_ofInt (i : Int) : (ofInt i).IsPlain := ⟨Text.isDigits_toDigits i.natAbs, nofun⟩

theorem write_ofInt (i : Int) : (ofInt i).write = toString i := by
  rw [Int.toString_eq_repr, Int.repr_eq_if, ← String.toList_inj, toList_write]
  by_cases hi : i < 0
  · have hnat : (-i).toNat = i.natAbs := by omega
    simp [ofInt, sign, places, hi, hnat, Nat.repr, Int.not_le.mpr hi]
  · have hnat : i.toNat = i.natAbs := by omega
    simp [ofInt, sign, places, hi, hnat, Nat.repr, Int.not_lt.mp hi]

theorem toInt_ofInt (i : Int) : (ofInt i).toInt = i := by
  have hdigits : Text.natOfDigits (ofInt i).whole = i.natAbs := Text.natOfDigits_toDigits i.natAbs
  rw [toInt, hdigits]
  simp only [ofInt, decide_eq_true_eq]
  split_ifs <;> omega

theorem toDouble_ofInt (h : i.natAbs ≤ 2 ^ 64) : (ofInt i).toDouble = .ofInt i := by
  have hbits : (ofInt i).toInt.natAbs ≤ 2 ^ 64 := by rwa [toInt_ofInt]
  have hunits : wholeUnits (ofInt i).toInt.natAbs = wholeUnits i.natAbs := by rw [toInt_ofInt]
  rw [toDouble_of_whole rfl hbits, Double.ofInt_eq_nearest h]
  exact congrArg Double.finite (FiniteDouble.eq_of_parts rfl hunits)

end NumberText

section
variable {i : Int}

theorem NumberText.parse?_toString (i : Int) : parse? (toString i) = some (ofInt i) :=
  parse?_eq_some.mpr ⟨isPlain_ofInt i, write_ofInt i⟩

theorem Value.ofNumberText?_toString (i : Int) : ofNumberText? (toString i) = some (NumberText.ofInt i).value := by
  rw [ofNumberText?, NumberText.parse?_toString]
  rfl

/-- **Different integers have different texts.** -/
theorem toString_inj {a b : Int} : toString a = toString b ↔ a = b := by
  refine ⟨fun h => ?_, congrArg toString⟩
  have hparts : NumberText.ofInt a = .ofInt b :=
    Option.some.inj (by rw [← NumberText.parse?_toString, ← NumberText.parse?_toString, h])
  rw [← NumberText.toInt_ofInt a, hparts, NumberText.toInt_ofInt]

/-- A double past `2 ^ 53` is not folded into an integer. -/
theorem Value.ofDouble_ofInt (hlow : 2 ^ 53 ≤ i) (h : i.natAbs ≤ 2 ^ 64) :
    Value.ofDouble (.ofInt i) = .number (.float (.nearest i h)) := by
  have hgreat : ¬ wholeUnits i.natAbs < Nat.pow 2 53 * oneInUnits := by
    have hle : wholeUnits (2 ^ 53) ≤ wholeUnits i.natAbs := wholeUnits_mono (by omega)
    rw [wholeUnits_exact (Nat.le_refl _)] at hle
    generalize oneInUnits = one at hle ⊢
    exact Nat.not_lt.mpr hle
  rw [Double.ofInt_eq_nearest h, Value.ofDouble, Number.ofDouble?, if_neg fun hfold => hgreat hfold.2]

namespace CastTable

/-- **The text of an integer is passed on as it stands** where a text is asked for. -/
theorem standard_cast_toString_settled (i : Int) :
    standard.cast (.string (toString i)) .string = .ok (.string (toString i)) :=
  standard_cast_of_fits (Value.fits_string (Text.isSettled_number (.int i)))

/-- **The text of an integer with a sign** is read as that integer. -/
theorem standard_cast_toString (hlow : -(Nat.pow 2 63 : Int) ≤ i) (hhigh : i < Nat.pow 2 63) :
    standard.cast (.string (toString i)) .number = .ok (.ofInt i) := by
  have hvalue : (NumberText.ofInt i).value = .ofInt i := by
    unfold NumberText.value
    rw [NumberText.toInt_ofInt, if_pos ⟨rfl, hlow, hhigh⟩]
  rw [standard_cast_of_kind rfl, ← hvalue]
  exact Value.ofNumberText?_toString i

/-- **The text of an integer beyond those with a sign** is read as its nearest double. -/
theorem standard_cast_toString_beyond (hlow : (Nat.pow 2 63 : Int) ≤ i) (h : i.natAbs ≤ 2 ^ 64) :
    standard.cast (.string (toString i)) .number = .ok (.number (.float (.nearest i h))) := by
  have hvalue : (NumberText.ofInt i).value = .number (.float (.nearest i h)) := by
    have hgreat : ¬ i < Nat.pow 2 63 := Int.not_lt.mpr hlow
    have hfold : (2 : Int) ^ 53 ≤ i := by
      simp only [Nat.pow_eq] at hlow
      omega
    unfold NumberText.value
    rw [NumberText.toInt_ofInt, if_neg fun hin => hgreat hin.2.2, NumberText.toDouble_ofInt h]
    exact Value.ofDouble_ofInt hfold h
  rw [standard_cast_of_kind rfl, ← hvalue]
  exact Value.ofNumberText?_toString i

/-- **What becomes of an integer that is cast to a text and back.**  Its text has the digits of the integer.  Read as a
number it is the integer again exactly where that fits 64 bits with a sign; else it is the float nearest to it. -/
theorem standard_cast_integer_text (h : Number.InRange i) :
    standard.cast (.ofInt i) .string = .ok (.string (toString i)) ∧
      (standard.cast (.string (toString i)) .number = .ok (.ofInt i) ↔ i < 2 ^ 63) ∧
      (2 ^ 63 ≤ i → ∃ x, Double.ofInt i = .finite x ∧
        standard.cast (.string (toString i)) .number = .ok (.number (.float x))) := by
  have hpower : (Nat.pow 2 63 : Int) = 2 ^ 63 := by decide
  have hbits := h.natAbs_le
  refine ⟨rfl, ⟨fun hcast => ?_, fun hhigh => ?_⟩, fun hlow => ?_⟩
  · by_contra hhigh
    rw [← hpower, Int.not_lt] at hhigh
    rw [standard_cast_toString_beyond hhigh hbits] at hcast
    cases hcast
  · rw [← hpower] at hhigh
    exact standard_cast_toString h.1 hhigh
  · rw [← hpower] at hlow
    exact ⟨.nearest i hbits, Double.ofInt_eq_nearest hbits, standard_cast_toString_beyond hlow hbits⟩

/-- The greatest integer with a sign comes back. -/
theorem standard_cast_integer_text_greatest :
    Number.InRange 9223372036854775807 ∧
      standard.cast (.string (toString (9223372036854775807 : Int))) .number = .ok (.ofInt 9223372036854775807) := by
  have hrange : Number.InRange 9223372036854775807 := by decide
  exact ⟨hrange, (standard_cast_integer_text hrange).2.1.mpr (by decide)⟩

/-- The greatest integer of 64 bits comes back as the float `2 ^ 64`. -/
theorem standard_cast_integer_text_without_sign :
    Number.InRange 18446744073709551615 ∧
      standard.cast (.ofInt 18446744073709551615) .string = .ok (.string "18446744073709551615") ∧
      ∃ x, Double.ofInt 18446744073709551616 = .finite x ∧
        standard.cast (.string "18446744073709551615") .number = .ok (.number (.float x)) := by
  have hbits : (18446744073709551615 : Int).natAbs ≤ 2 ^ 64 := by decide
  have hdouble : Double.ofInt 18446744073709551616 = .ofInt 18446744073709551615 := by decide +kernel
  refine ⟨by decide, rfl, .nearest _ hbits, ?_, standard_cast_toString_beyond (by decide) hbits⟩
  rw [hdouble, Double.ofInt_eq_nearest hbits]

end CastTable
end
end FormLogic
