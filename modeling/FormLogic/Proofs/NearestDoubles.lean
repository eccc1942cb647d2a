import FormLogic.Proofs.Rounding
import Mathlib.Tactic.Ring
/-!
# The nearest double

The double nearest to a quotient is what correct rounding asks for (`Double.IsNearest`): no other is nearer, a tie goes
to the even one, and from half a gap above the greatest double on it is infinite.  That is what the rounding rule gives
(`Double.ofQuotient_isNearest`), for a decimal with places after its point too (`Double.ofDecimal_places`).  The double
nearest to a whole number is whole (`exists_whole`), and what is less than half a gap from it is rounded to it
(`wholeUnits_of_near`); the one nearest to an integer of 64 bits is finite (`Double.ofInt_eq_nearest`).
-/
namespace FormLogic

/-- **Half a gap above the greatest finite double**, in units. -/
def overflowUnits : Nat := (2 ^ 54 - 1) * Nat.pow 2 2044

/-- **The double nearest to `numerator / denominator`**, a quotient of units with a sign.  Below the overflow it is a
finite one that no other is nearer than; where another is as near, it is the one of the two that is an even multiple of
its gap.  From the overflow on it is infinite. -/
inductive Double.IsNearest (negative : Bool) (numerator denominator : Nat) : Double → Prop
  | finite (x : FiniteDouble) (sign : x.negative = negative) (below : numerator < overflowUnits * denominator)
      (nearest : ∀ y : FiniteDouble,
        (x.units * denominator).dist numerator ≤ (y.units * denominator).dist numerator ∧
          ((x.units * denominator).dist numerator = (y.units * denominator).dist numerator →
            y.units = x.units ∨ x.units / spacing x.units % 2 = 0)) :
      IsNearest negative numerator denominator (.finite x)
  | infinite (above : overflowUnits * denominator ≤ numerator) :
      IsNearest negative numerator denominator (.infinite negative)

section
variable {a d : Nat}

/-- **Half a gap above** a greatest number of 53 bits is rounded up, the number being an odd multiple of its gap. -/
theorem roundQuotient_half_above (e : Nat) (hd : 0 < d) :
    roundQuotient ((2 ^ 54 - 1) * (2 ^ e * d)) d * d = 2 ^ 54 * (2 ^ e * d) := by
  have hquotient : (2 ^ 54 - 1) * (2 ^ e * d) / d = (2 ^ 54 - 1) * 2 ^ e := by
    rw [← Nat.mul_assoc, Nat.mul_div_cancel _ hd]
  have hlog : ((2 ^ 54 - 1) * 2 ^ e).log2 = e + 53 := by
    have hpos : 0 < 2 ^ e := Nat.two_pow_pos e
    have hlow : 2 ^ (e + 53) = 2 ^ 53 * 2 ^ e := by rw [Nat.pow_add, Nat.mul_comm]
    have hhigh : 2 ^ (e + 53 + 1) = 2 ^ 54 * 2 ^ e := by rw [Nat.add_assoc, Nat.pow_add, Nat.mul_comm]
    rw [Nat.log2_eq_iff (by omega), hlow, hhigh]
    omega
  have hgap : spacing ((2 ^ 54 - 1) * 2 ^ e) = 2 ^ (e + 1) := by
    rw [spacing, hlog]
    rfl
  have hwidth : d * spacing ((2 ^ 54 - 1) * (2 ^ e * d) / d) = 2 * (2 ^ e * d) := by
    rw [hquotient, hgap, Nat.pow_succ]
    ring
  have hfactor : nearestFactor ((2 ^ 54 - 1) * (2 ^ e * d)) (2 * (2 ^ e * d)) = 2 ^ 53 :=
    nearestFactor_half (k := 2 ^ 53 - 1) (Nat.mul_pos (Nat.two_pow_pos e) hd) (by decide)
  rw [roundQuotient_eq, hwidth, hfactor, hquotient, hgap, Nat.pow_succ]
  ring

/-- **What rounding gives is finite** exactly where the quotient is less than half a gap above the greatest double. -/
theorem representable_roundQuotient_iff (hd : 0 < d) : Representable (roundQuotient a d) ↔ a < overflowUnits * d := by
  have hlimit : Nat.pow 2 2098 = 2 ^ 54 * Nat.pow 2 2044 := by decide +kernel
  unfold Representable overflowUnits
  rw [hlimit, and_iff_left (Nat.mod_eq_zero_of_dvd (spacing_dvd_roundQuotient hd))]
  -- The exponent becomes a variable, so that nothing evaluates the power.
  generalize 2044 = e
  have hscaled : 2 ^ 54 * Nat.pow 2 e ≤ roundQuotient a d ↔ 2 ^ 54 * (2 ^ e * d) ≤ roundQuotient a d * d := by
    rw [← Nat.mul_assoc]
    exact (Nat.mul_le_mul_right_iff hd).symm
  have hbound : (2 ^ 54 - 1) * Nat.pow 2 e * d = (2 ^ 54 - 1) * (2 ^ e * d) := Nat.mul_assoc _ _ _
  rw [← not_iff_not, Nat.not_lt, Nat.not_lt, hscaled, hbound]
  constructor
  · intro hround
    have hgreatest : (2 ^ 53 - 1) * 2 ^ (e + 1) * d = (2 ^ 54 - 2) * (2 ^ e * d) := by
      rw [Nat.pow_succ]
      ring
    have hdvd := spacing_dvd_mul_two_pow (m := 2 ^ 53 - 1) (e := e + 1) (by decide)
    have hnear := (dist_roundQuotient (a := a) hd hdvd).1
    rw [hgreatest] at hnear
    unfold Nat.dist at hnear
    omega
  · intro hle
    rw [← roundQuotient_half_above e hd]
    exact Nat.mul_le_mul_right d (roundQuotient_mono hd hle)

/-- **The rounding rule gives the nearest double.** -/
theorem Double.ofQuotient_isNearest (negative : Bool) (hd : 0 < d) :
    (ofQuotient negative a d).IsNearest negative a d := by
  have hlimit := representable_roundQuotient_iff (a := a) hd
  cases Classical.em (Representable (roundQuotient a d)) with
  | inl h =>
    rw [ofQuotient, ofUnits, dif_pos h]
    exact .finite _ rfl (hlimit.mp h) fun y => dist_roundQuotient hd y.representable.spacing_dvd
  | inr h =>
    rw [ofQuotient, ofUnits, dif_neg h]
    exact .infinite (Nat.le_of_not_lt fun hlt => h (hlimit.mpr hlt))

end

/-- **Digits with places after the point** are rounded as the quotient that they are, however small it is. -/
theorem Double.ofDecimal_places (negative : Bool) (digits places : Nat) :
    ofDecimal negative digits (-(places : Int)) = ofQuotient negative (digits * oneInUnits) (10 ^ places) := by
  have hpos : 0 < 10 ^ places := Nat.pow_pos (by decide)
  unfold ofDecimal ofQuotient
  by_cases hdigits : digits = 0
  · have hround : roundQuotient (digits * oneInUnits) (10 ^ places) = 0 := by
      apply roundQuotient_eq_zero
      rw [hdigits]
      omega
    rw [if_pos hdigits, hround]
  rw [if_neg hdigits, if_neg (by omega)]
  by_cases hsmall : -(places : Int) + (digits.log2 : Int) < -1400
  · have hround : roundQuotient (digits * oneInUnits) (10 ^ places) = 0 := by
      apply roundQuotient_eq_zero
      obtain ⟨e, he, hone⟩ := oneInUnits_eq
      rw [hone]
      calc 2 * (digits * 2 ^ e) < 2 * (2 ^ (digits.log2 + 1) * 2 ^ e) := by
            have hmul := Nat.mul_lt_mul_of_pos_right (Nat.lt_log2_self (n := digits)) (Nat.two_pow_pos e)
            omega
        _ = 2 ^ (digits.log2 + 1 + e + 1) := by rw [← Nat.pow_add, Nat.pow_succ, Nat.mul_comm]
        _ ≤ 2 ^ places := Nat.pow_le_pow_right Nat.two_pos (by omega)
        _ ≤ 10 ^ places := Nat.pow_le_pow_left (by decide) places
    rw [if_pos hsmall, hround]
  rw [if_neg hsmall]
  by_cases hzero : places = 0
  · rw [hzero, if_pos (by decide)]
    simp
  · rw [if_neg (by omega), Int.neg_neg, Int.toNat_natCast]
    rfl

section
variable {m n : Nat}

/-- **The units of the double nearest to a whole number.** -/
def wholeUnits (n : Nat) : Nat := roundQuotient (n * oneInUnits) 1

theorem wholeUnits_mono (h : m ≤ n) : wholeUnits m ≤ wholeUnits n :=
  roundQuotient_mono Nat.one_pos (Nat.mul_le_mul_right _ h)

/-- **A whole number of at most 53 bits is a double.** -/
theorem wholeUnits_exact (h : n ≤ 2 ^ 53) : wholeUnits n = n * oneInUnits := by
  obtain ⟨e, -, hone⟩ := oneInUnits_eq
  have hround := roundQuotient_of_dvd Nat.one_pos (spacing_dvd_mul_two_pow (e := e) h)
  rwa [Nat.one_mul, ← hone] at hround

theorem wholeUnits_pos (h : 0 < n) : 0 < wholeUnits n := by
  have hone : wholeUnits 1 = 1 * oneInUnits := wholeUnits_exact (by decide)
  have hle : wholeUnits 1 ≤ wholeUnits n := wholeUnits_mono h
  have hpos : 0 < oneInUnits := oneInUnits_pos
  omega

theorem wholeUnits_zero : wholeUnits 0 = 0 := (wholeUnits_exact (Nat.zero_le _)).trans (Nat.zero_mul _)

theorem spacing_dvd_wholeUnits (n : Nat) : spacing (wholeUnits n) ∣ wholeUnits n :=
  spacing_dvd_roundQuotient Nat.one_pos

/-- **A whole number that is a multiple of its gap** is a double. -/
theorem wholeUnits_of_dvd (h : spacing (n * oneInUnits) ∣ n * oneInUnits) : wholeUnits n = n * oneInUnits := by
  have hround := roundQuotient_of_dvd Nat.one_pos h
  rwa [Nat.one_mul] at hround

/-- **Powers of ten are doubles** as far as their odd part has no more than 53 bits. -/
theorem wholeUnits_pow_ten (h : n ≤ 22) : wholeUnits (10 ^ n) = 10 ^ n * oneInUnits := by
  obtain ⟨e, -, hone⟩ := oneInUnits_eq
  have hbits : 5 ^ n ≤ 2 ^ 53 := Nat.le_trans (Nat.pow_le_pow_right (by decide) h) (by decide)
  have hparts : 10 ^ n * oneInUnits = 5 ^ n * 2 ^ (n + e) := by
    rw [hone, Nat.pow_add, ← Nat.mul_assoc, ← Nat.mul_pow]
  apply wholeUnits_of_dvd
  rw [hparts]
  exact spacing_dvd_mul_two_pow hbits

/-- **Powers of two are doubles.** -/
theorem wholeUnits_two_pow (k : Nat) : wholeUnits (2 ^ k) = 2 ^ k * oneInUnits := by
  obtain ⟨e, -, hone⟩ := oneInUnits_eq
  apply wholeUnits_of_dvd
  rw [hone, ← Nat.pow_add]
  exact spacing_dvd_two_pow (Nat.pow_lt_pow_right (by decide) (by omega))

/-- **Far out, the nearest doubles are multiples** of the gap there. -/
theorem two_pow_dvd_wholeUnits {k : Nat} (h : 2 ^ (k + 52) ≤ n) : 2 ^ k * oneInUnits ∣ wholeUnits n := by
  obtain ⟨e, -, hone⟩ := oneInUnits_eq
  have hpower : 2 ^ (k + e + 52) = 2 ^ (k + 52) * oneInUnits := by
    rw [hone, ← Nat.pow_add, Nat.add_right_comm]
  have hle : 2 ^ (k + e + 52) ≤ wholeUnits n := by
    rw [hpower, ← wholeUnits_two_pow]
    exact wholeUnits_mono h
  rw [hone, ← Nat.pow_add]
  exact Nat.dvd_trans (two_pow_dvd_spacing hle) (spacing_dvd_wholeUnits n)

/-- **The double nearest to a whole number** is a whole number. -/
theorem exists_whole (n : Nat) : ∃ m, wholeUnits n = m * oneInUnits := by
  by_cases h : n ≤ 2 ^ 53
  · exact ⟨n, wholeUnits_exact h⟩
  · obtain ⟨m, hm⟩ := two_pow_dvd_wholeUnits (k := 0) (Nat.le_trans (by decide) (Nat.le_of_not_le h))
    exact ⟨m, by rw [hm, Nat.pow_zero, Nat.one_mul, Nat.mul_comm]⟩

/-- Two multiples that are less than one apart are the same. -/
theorem eq_of_dvd_of_dist_lt {a b gap : Nat} (ha : gap ∣ a) (hb : gap ∣ b) (h : a.dist b < gap) : a = b := by
  have hdvd : gap ∣ a.dist b := Nat.dvd_add (Nat.dvd_sub ha hb) (Nat.dvd_sub hb ha)
  exact Nat.eq_of_dist_eq_zero (Nat.eq_zero_of_dvd_of_lt hdvd h)

/-- **A whole number less than half a gap from a double** is rounded to it. -/
theorem wholeUnits_of_near {k : Nat} (hn : wholeUnits n = n * oneInUnits) (hlow : 2 ^ (k + 52) ≤ n)
    (hlow' : 2 ^ (k + 52) ≤ m) (hdist : 2 * m.dist n < 2 ^ k) : wholeUnits m = n * oneInUnits := by
  have hgap : spacing (n * oneInUnits) ∣ n * oneInUnits := by
    have hgap := spacing_dvd_wholeUnits n
    rwa [hn] at hgap
  have hnear := (dist_roundQuotient (a := m * oneInUnits) Nat.one_pos hgap).1
  rw [Nat.mul_one, Nat.mul_one, ← wholeUnits, Nat.dist_mul_right, Nat.dist_comm n] at hnear
  have htriangle := Nat.dist.triangle_inequality (wholeUnits m) (m * oneInUnits) (n * oneInUnits)
  rw [Nat.dist_mul_right] at htriangle
  have hclose : 2 * (m.dist n * oneInUnits) < 2 ^ k * oneInUnits := by
    rw [← Nat.mul_assoc]
    exact Nat.mul_lt_mul_of_pos_right hdist oneInUnits_pos
  have hdvd : 2 ^ k * oneInUnits ∣ n * oneInUnits := by
    rw [← hn]
    exact two_pow_dvd_wholeUnits hlow
  exact eq_of_dvd_of_dist_lt (two_pow_dvd_wholeUnits hlow') hdvd (by omega)

theorem representable_wholeUnits (h : n ≤ 2 ^ 64) : Representable (wholeUnits n) := by
  obtain ⟨e, he, hone⟩ := oneInUnits_eq
  refine representable_roundQuotient (e := 64 + e) Nat.one_pos ?_ (by omega)
  rw [hone, Nat.mul_one, Nat.pow_add]
  exact Nat.mul_le_mul_right _ h

end

/-- **An integer of 64 bits**, with a sign or without: what a number in data can be when it is an integer. -/
def Number.InRange (i : Int) : Prop := -(Nat.pow 2 63 : Int) ≤ i ∧ i < Nat.pow 2 64

instance (i : Int) : Decidable (Number.InRange i) := inferInstanceAs (Decidable (_ ∧ _))

theorem Number.InRange.natAbs_le {i : Int} (h : Number.InRange i) : i.natAbs ≤ 2 ^ 64 := by
  obtain ⟨hlow, hhigh⟩ := h
  simp only [Nat.pow_eq] at hlow hhigh
  omega

namespace FiniteDouble

theorem eq_of_parts {x y : FiniteDouble} (hnegative : x.negative = y.negative) (hunits : x.units = y.units) :
    x = y := by
  cases x
  cases y
  cases hnegative
  cases hunits
  rfl

/-- **The double nearest to an integer**, with the sign of the integer. -/
def nearest (i : Int) (h : i.natAbs ≤ 2 ^ 64) : FiniteDouble :=
  ⟨decide (i < 0), wholeUnits i.natAbs, representable_wholeUnits h⟩

theorem units_nearest {i : Int} {h : i.natAbs ≤ 2 ^ 64} : (nearest i h).units = wholeUnits i.natAbs := by
  rw [nearest]

theorem signedUnits_nearest {i : Int} {h : i.natAbs ≤ 2 ^ 64} :
    (nearest i h).signedUnits = if i < 0 then -(wholeUnits i.natAbs : Int) else wholeUnits i.natAbs := by
  simp [nearest, signedUnits]

end FiniteDouble

namespace Double

theorem ofUnits_of_representable {negative : Bool} {n : Nat} (h : Representable n) :
    ofUnits negative n = .finite ⟨negative, n, h⟩ := dif_pos h

theorem ofInt_eq_nearest (h : i.natAbs ≤ 2 ^ 64) : ofInt i = .finite (.nearest i h) := by
  have hunits : ofInt i = ofUnits (decide (i < 0)) (wholeUnits i.natAbs) := by
    rw [ofInt, ofQuotient, wholeUnits]
  rw [hunits, ofUnits_of_representable (representable_wholeUnits h), FiniteDouble.nearest]

end Double
end FormLogic
