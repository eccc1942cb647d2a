import FormLogic.Decimal.Layout
import FormLogic.Proofs.ShortestDecimals
/-!
# Decimals laid out

A number other than zero is written as its sign and its shortest decimal (`Layout.writeFinite_of_ne_zero`).  The digits
of a decimal are those of its coefficient without the zeros at their end, and a layout without an exponent puts these
zeros back, and as many more as the power of ten has (`Layout.writePositional_whole`).
-/
namespace FormLogic

namespace Layout

variable {x : FiniteDouble}

theorem plain_writeFinite_zero (h : x.units = 0) : plain.writeFinite x = "0" := by
  obtain ⟨negative, units, representable⟩ := x
  cases h
  cases negative <;> rfl

/-- **A number other than zero** is its sign and its shortest decimal. -/
theorem writeFinite_of_ne_zero (layout : Layout) (h : x.units ≠ 0) :
    layout.writeFinite x =
      String.ofList ((if x.negative then ['-'] else []) ++ layout.write (shortestDecimal layout.tie x.units)) := by
  have hsigned : (x.units != 0) = true := bne_iff_ne.mpr h
  unfold writeFinite
  dsimp only
  rw [if_neg h, hsigned, Bool.true_or, Bool.and_true]
  split
  · rw [List.singleton_append]
  · rw [List.nil_append]

/-- **A whole number without an exponent** has the digits of the number. -/
theorem writePositional_whole (layout : Layout) {coefficient : Nat} (h : 0 < coefficient) (power : Nat) :
    layout.writePositional (.ofCoefficient coefficient power) =
      Nat.toDigits 10 (coefficient * 10 ^ power) ++ (if layout.wholeFraction then ['.', '0'] else []) := by
  obtain ⟨count, hcount⟩ := Decimal.dropZeros_append_zeros (Nat.toDigits 10 coefficient)
  have hlength := congrArg List.length hcount
  rw [List.length_append, List.length_replicate] at hlength
  have hplaces : ((power : Int) + ((Nat.toDigits 10 coefficient).length : Int) - 1 + 1).toNat
      - (Decimal.dropZeros (Nat.toDigits 10 coefficient)).length = count + power := by omega
  unfold writePositional
  rw [if_pos (by simp only [Decimal.ofCoefficient]; omega)]
  simp only [Decimal.ofCoefficient, hplaces, zeros]
  rw [← List.replicate_append_replicate, ← List.append_assoc, hcount, toDigits_mul_pow h]

/-- **A whole number below `10 ^ 21`** is written in full where numbers are texts. -/
theorem plain_write_whole {coefficient power : Nat} (h : 0 < coefficient)
    (hsmall : coefficient * 10 ^ power < 10 ^ 21) :
    plain.write (.ofCoefficient coefficient power) = Nat.toDigits 10 (coefficient * 10 ^ power) := by
  have hlength : (Nat.toDigits 10 coefficient).length + power ≤ 21 := by
    have hdigits := (Nat.length_toDigits_le_iff (by decide) (by decide)).mpr hsmall
    rwa [toDigits_mul_pow h, List.length_append, List.length_replicate] at hdigits
  have hfirst : 0 < (Nat.toDigits 10 coefficient).length := Nat.length_toDigits_pos
  unfold write
  rw [if_pos (by simp only [Decimal.ofCoefficient, plain]; omega), writePositional_whole plain h]
  exact List.append_nil _

end Layout
end FormLogic
