import FormLogic.Proofs.IntegerTexts
import FormLogic.Proofs.Layouts
import Mathlib.Algebra.Order.Field.Rat
import Mathlib.Tactic.NormNum
/-!
# The numbers that decimals and number texts are

A decimal and a text of the plain form are rational numbers (`Decimal.toRat`, `NumberText.toRat`).  The shortest decimal
of a double has no zero at either end (`shortestDecimal_isReduced`), and laid out without an exponent it is a number
text of the same value, in which no zero is superfluous (`Layout.isTidyText_writePositional`): the point stands behind
all its digits, between two of them, or before them all.
-/
namespace FormLogic

/-- **The digits of a number other than zero** do not start with a zero. -/
theorem head?_toDigits_ne_zero {n : Nat} (hn : n ≠ 0) : (Nat.toDigits 10 n).head? ≠ some '0' := by
  induction n using Nat.strongRecOn with
  | ind n ih =>
    by_cases hsmall : n < 10
    · rw [Nat.toDigits_of_lt_base hsmall]
      interval_cases n <;> simp_all
    · rw [Nat.toDigits_of_base_le (by decide) (Nat.le_of_not_lt hsmall),
        List.head?_append_of_ne_nil _ Nat.toDigits_ne_nil]
      exact ih (n / 10) (by omega) (by omega)

namespace Decimal

/-- **The number that a decimal is**: `d₁.d₂…dₖ · 10 ^ exponent`. -/
def toRat (d : Decimal) : ℚ := Text.natOfDigits d.digits / 10 ^ (d.digits.length - 1) * 10 ^ d.exponent

/-- **A decimal as short as it can be written**: digits, of which neither the first nor the last is a zero. -/
structure IsReduced (d : Decimal) : Prop where
  digits : Text.isDigits d.digits = true
  first : d.digits.head? ≠ some '0'
  last : d.digits.getLast? ≠ some '0'

theorem isReduced_ofCoefficient {coefficient : Nat} (h : coefficient ≠ 0) (power : Int) :
    (ofCoefficient coefficient power).IsReduced := by
  have hdigits : (ofCoefficient coefficient power).digits ≠ [] := digits_ofCoefficient_ne_nil h
  have hne : dropZeros (Nat.toDigits 10 coefficient) ≠ [] := hdigits
  obtain ⟨count, hzeros⟩ := dropZeros_append_zeros (Nat.toDigits 10 coefficient)
  refine ⟨?_, ?_, ?_⟩
  · have hall : ∀ c ∈ (ofCoefficient coefficient power).digits, c.isDigit = true := fun c hc =>
      Nat.isDigit_of_mem_toDigits (by decide) (by decide) (mem_of_mem_dropZeros hc)
    simpa [Text.isDigits, ofCoefficient, hne] using hall
  · have hfirst := head?_toDigits_ne_zero h
    rwa [← hzeros, List.head?_append_of_ne_nil _ hne] at hfirst
  · have hlast := List.head?_dropWhile_not (· = '0') (Nat.toDigits 10 coefficient).reverse
    show (List.reverse _).getLast? ≠ some '0'
    rw [List.getLast?_reverse]
    intro hzero
    rw [hzero] at hlast
    simp at hlast

end Decimal

theorem shortestDecimal_isReduced (tie : Tie) {n : Nat} (hn : n ≠ 0) : (shortestDecimal tie n).IsReduced := by
  obtain ⟨coefficient, power, hcoefficient, heq⟩ := shortestDecimal_eq_of_ne_zero tie hn
  rw [heq]
  exact Decimal.isReduced_ofCoefficient hcoefficient power

/-- The factor of a sign. -/
def signFactor (negative : Bool) : ℚ := if negative then -1 else 1

namespace NumberText

/-- **The number that a text of the plain form writes.** -/
def toRat (t : NumberText) : ℚ :=
  signFactor t.negative * (Text.natOfDigits t.digits / 10 ^ (t.fraction.getD []).length)

/-- **Parts without a superfluous zero**: none before the digits of the whole, unless it is a zero itself, and none at
the end of the places after the point. -/
structure IsTidy (t : NumberText) : Prop where
  whole : t.whole = ['0'] ∨ t.whole.head? ≠ some '0'
  fraction : ∀ places ∈ t.fraction, places.getLast? ≠ some '0'

end NumberText

namespace Decimal

variable {d : Decimal}

/-- The digits as a whole number, with the power of ten that the exponent leaves for them. -/
theorem toRat_eq {up down : Nat} (h : d.exponent + down = up + (d.digits.length - 1 : Nat)) :
    d.toRat = (Text.natOfDigits d.digits * 10 ^ up : ℚ) / 10 ^ down := by
  have hten : (10 : ℚ) ≠ 0 := by norm_num
  have hpower : (10 : ℚ) ^ d.exponent * 10 ^ down = 10 ^ up * 10 ^ (d.digits.length - 1) := by
    rw [← zpow_natCast, ← zpow_natCast, ← zpow_natCast, ← zpow_add₀ hten, ← zpow_add₀ hten, h]
  rw [toRat, div_mul_eq_mul_div, div_eq_div_iff (pow_ne_zero _ hten) (pow_ne_zero _ hten), mul_assoc, hpower, mul_assoc]

end Decimal

/-- **A text without a superfluous zero that writes a number**, of the plain form. -/
def NumberText.IsTidyText (text : List Char) (value : ℚ) : Prop :=
  ∃ t : NumberText, t.IsPlain ∧ t.IsTidy ∧ t.write.toList = text ∧ t.toRat = value

/-- **A number text writes a decimal** if it has the same digits, but for zeros at the end, and as many places as these
leave. -/
theorem NumberText.toRat_eq {d : Decimal} {t : NumberText} (up : Nat)
    (hdigits : Text.natOfDigits t.digits = Text.natOfDigits d.digits * 10 ^ up)
    (hplaces : d.exponent + (t.fraction.getD []).length = up + (d.digits.length - 1 : Nat)) :
    t.toRat = signFactor t.negative * d.toRat := by
  rw [toRat, Decimal.toRat_eq hplaces, hdigits, Nat.cast_mul, Nat.cast_pow, Nat.cast_ofNat]

section
variable {d : Decimal} (hd : d.IsReduced)
include hd

namespace Decimal.IsReduced

theorem isDigit {c : Char} (hc : c ∈ d.digits) : c.isDigit = true :=
  List.all_eq_true.mp (Bool.and_eq_true_iff.mp hd.digits).2 c hc

theorem isDigits_of_subset {cs : List Char} (hne : cs ≠ []) (hcs : cs ⊆ d.digits) : Text.isDigits cs = true := by
  simpa [Text.isDigits, hne] using fun c hc => hd.isDigit (hcs hc)

theorem ne_nil : d.digits ≠ [] := by
  intro hnil
  have hdigits := hd.digits
  rw [hnil] at hdigits
  cases hdigits

end Decimal.IsReduced

namespace NumberText

variable (negative : Bool)

/-- The point behind all digits, or behind zeros after them, is left out. -/
theorem isTidyText_whole {count : Nat} (h : d.exponent + 1 = d.digits.length + count) :
    IsTidyText (sign negative ++ (d.digits ++ Layout.zeros count)) (signFactor negative * d.toRat) := by
  have hpos : 0 < d.digits.length := List.length_pos_iff.mpr hd.ne_nil
  refine ⟨⟨negative, d.digits ++ Layout.zeros count, none⟩, ⟨?_, nofun⟩, ⟨.inr ?_, nofun⟩, ?_, ?_⟩
  · exact Text.isDigits_append hd.digits (by simp [Layout.zeros])
  · rw [List.head?_append_of_ne_nil _ hd.ne_nil]
    exact hd.first
  · simp [toList_write, places]
  · refine toRat_eq count ?_ ?_
    · simp [digits, Layout.zeros, Text.natOfDigits_append, Text.natOfDigits_zeros, Nat.mul_comm]
    · simp only [Option.getD_none, List.length_nil]
      omega

/-- The point between the digits. -/
theorem isTidyText_between {before : Nat} (h : d.exponent + 1 = before) (hpos : 0 < before)
    (hlength : before < d.digits.length) :
    IsTidyText (sign negative ++ (d.digits.take before ++ '.' :: d.digits.drop before))
      (signFactor negative * d.toRat) := by
  have htake : d.digits.take before ≠ [] := List.ne_nil_of_length_pos (by rw [List.length_take]; omega)
  have hdrop : d.digits.drop before ≠ [] := List.ne_nil_of_length_pos (by rw [List.length_drop]; omega)
  refine ⟨⟨negative, d.digits.take before, some (d.digits.drop before)⟩, ⟨?_, ?_⟩, ⟨.inr ?_, ?_⟩, ?_, ?_⟩
  · exact hd.isDigits_of_subset htake (List.take_subset _ _)
  · rintro _ ⟨⟩
    exact hd.isDigits_of_subset hdrop (List.drop_subset _ _)
  · rw [List.head?_take, if_neg (by omega)]
    exact hd.first
  · rintro _ ⟨⟩
    rw [List.getLast?_drop, if_neg (by omega)]
    exact hd.last
  · simp [toList_write, places]
  · refine toRat_eq 0 ?_ ?_
    · simp [digits]
    · simp only [Option.getD_some, List.length_drop]
      omega

/-- The point before all digits, and perhaps before zeros in front of them. -/
theorem isTidyText_before {count : Nat} (h : d.exponent + 1 + count = 0) :
    IsTidyText (sign negative ++ ('0' :: '.' :: Layout.zeros count ++ d.digits)) (signFactor negative * d.toRat) := by
  have hpos : 0 < d.digits.length := List.length_pos_iff.mpr hd.ne_nil
  refine ⟨⟨negative, ['0'], some (Layout.zeros count ++ d.digits)⟩, ⟨rfl, ?_⟩, ⟨.inl rfl, ?_⟩, ?_, ?_⟩
  · rintro _ ⟨⟩
    have hdigits := hd.digits
    simp_all [Text.isDigits, Layout.zeros]
  · rintro _ ⟨⟩
    rw [List.getLast?_append_of_ne_nil _ hd.ne_nil]
    exact hd.last
  · simp [toList_write, places]
  · refine toRat_eq 0 ?_ ?_
    · simp [digits, Layout.zeros, Text.natOfDigits_append, Text.natOfDigits_zeros, ← List.cons_append,
        ← List.replicate_succ]
    · simp only [Option.getD_some, List.length_append, Layout.zeros, List.length_replicate]
      omega

end NumberText

/-- **A decimal without an exponent is a number text** that writes it, and has no superfluous zero. -/
theorem Layout.isTidyText_writePositional {layout : Layout} (hlayout : layout.wholeFraction = false) (negative : Bool) :
    NumberText.IsTidyText (NumberText.sign negative ++ layout.writePositional d) (signFactor negative * d.toRat) := by
  unfold writePositional
  dsimp only
  rw [hlayout, if_neg Bool.false_ne_true, List.append_nil]
  by_cases hwhole : (d.digits.length : Int) ≤ d.exponent + 1
  · rw [if_pos hwhole]
    exact NumberText.isTidyText_whole hd negative (by omega)
  rw [if_neg hwhole]
  by_cases hpoint : 0 < d.exponent + 1
  · rw [if_pos hpoint]
    exact NumberText.isTidyText_between hd negative (by omega) (by omega) (by omega)
  · rw [if_neg hpoint]
    exact NumberText.isTidyText_before hd negative (by omega)

end

end FormLogic
