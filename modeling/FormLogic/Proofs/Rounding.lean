import FormLogic.Double.Basic
import Mathlib.Algebra.GroupWithZero.Nat
import Mathlib.Data.Nat.Dist
import Mathlib.Tactic.ByContra
import Mathlib.Tactic.SplitIfs
/-!
# Rounding

The one rounding rule takes a quotient to a multiple of the local gap.  It never leaves the interval between two
multiples that hold the quotient, so it keeps the order of quotients (`roundQuotient_mono`) and leaves a representable
magnitude alone (`roundQuotient_of_dvd`); what it gives is representable, while it is below the greatest
double (`representable_roundQuotient`); and no representable magnitude is nearer to the quotient (`dist_roundQuotient`).
-/
namespace FormLogic

/-- The multiple of `width` nearest to `n`, as a factor; of two the even one. -/
def nearestFactor (n width : Nat) : Nat :=
  if 2 * (n % width) < width ∨ (2 * (n % width) = width ∧ n / width % 2 = 0) then n / width else n / width + 1

section
variable {n m k width : Nat}

theorem le_nearestFactor (hwidth : 0 < width) (h : k * width ≤ n) : k ≤ nearestFactor n width := by
  have hk : k ≤ n / width := (Nat.le_div_iff_mul_le hwidth).mpr h
  unfold nearestFactor
  split_ifs
  · exact hk
  · exact Nat.le_succ_of_le hk

theorem nearestFactor_le (hwidth : 0 < width) (h : n ≤ k * width) : nearestFactor n width ≤ k := by
  have hsplit : width * (n / width) + n % width = n := Nat.div_add_mod n width
  unfold nearestFactor
  split_ifs with hdown
  · exact Nat.div_le_of_le_mul (by rwa [Nat.mul_comm])
  · -- Rounded up, so there is a remainder and `n` is below the next multiple.
    by_contra hlt
    have hle : k ≤ n / width := by omega
    have hmul : k * width ≤ width * (n / width) := by
      rw [Nat.mul_comm]
      exact Nat.mul_le_mul_left width hle
    exact hdown (.inl (by omega))

/-- **Of two numbers, the smaller does not have the greater nearest multiple.** -/
theorem nearestFactor_mono (hwidth : 0 < width) (h : n ≤ m) : nearestFactor n width ≤ nearestFactor m width := by
  have hn : width * (n / width) + n % width = n := Nat.div_add_mod n width
  have hm : width * (m / width) + m % width = m := Nat.div_add_mod m width
  have hmod : n % width < width := Nat.mod_lt n hwidth
  rcases Nat.lt_or_eq_of_le (Nat.div_le_div_right (c := width) h) with hlt | heq
  · have hup : n ≤ (n / width + 1) * width := by
      rw [Nat.succ_mul, Nat.mul_comm]
      omega
    have hdown : (n / width + 1) * width ≤ m :=
      (Nat.le_div_iff_mul_le hwidth).mp hlt
    exact Nat.le_trans (nearestFactor_le hwidth hup) (le_nearestFactor hwidth hdown)
  · have hrest : n % width ≤ m % width := by
      rw [heq] at hn
      omega
    unfold nearestFactor
    rw [heq]
    split_ifs with h1 h2 h2
    · exact Nat.le_refl _
    · exact Nat.le_succ _
    · exact absurd (by omega) h1
    · exact Nat.le_refl _

/-- **A multiple beside a number or farther off**: one of the two around the number, or at least a whole width below or
above these. -/
theorem multiple_cases (n k width : Nat) :
    k = n / width ∨ k = n / width + 1 ∨ k * width + width ≤ n / width * width ∨
      n / width * width + width + width ≤ k * width := by
  by_cases hlow : k + 1 ≤ n / width
  · have hmul := Nat.mul_le_mul_right width hlow
    rw [Nat.succ_mul] at hmul
    exact .inr (.inr (.inl hmul))
  by_cases hhigh : n / width + 2 ≤ k
  · have hmul := Nat.mul_le_mul_right width hhigh
    rw [Nat.succ_mul, Nat.succ_mul] at hmul
    exact .inr (.inr (.inr hmul))
  · omega

/-- **No multiple is nearer than the nearest one**, and where another is as near, the nearest one is even. -/
theorem dist_nearestFactor (hwidth : 0 < width) (k : Nat) :
    (nearestFactor n width * width).dist n ≤ (k * width).dist n ∧
      ((nearestFactor n width * width).dist n = (k * width).dist n →
        k = nearestFactor n width ∨ nearestFactor n width % 2 = 0) := by
  have hsplit : n / width * width + n % width = n := Nat.div_add_mod' n width
  have hmod : n % width < width := Nat.mod_lt n hwidth
  have hsucc : (n / width + 1) * width = n / width * width + width := Nat.succ_mul _ _
  unfold nearestFactor Nat.dist
  rcases multiple_cases n k width with rfl | rfl | hk | hk
  · split_ifs <;> omega
  · split_ifs <;> omega
  · split_ifs <;> omega
  · split_ifs <;> omega

/-- Half way between two multiples, the nearest one is even. -/
theorem nearestFactor_half {k width : Nat} (hwidth : 0 < width) (hk : k % 2 = 1) :
    nearestFactor ((2 * k + 1) * width) (2 * width) = k + 1 := by
  have hsplit : (2 * k + 1) * width = width + 2 * width * k := by
    rw [Nat.succ_mul, Nat.add_comm, Nat.mul_right_comm]
  have hquotient : (2 * k + 1) * width / (2 * width) = k := by
    rw [hsplit, Nat.add_mul_div_left _ _ (by omega), Nat.div_eq_of_lt (by omega), Nat.zero_add]
  have hrest : (2 * k + 1) * width % (2 * width) = width := by
    rw [hsplit, Nat.add_mul_mod_self_left, Nat.mod_eq_of_lt (by omega)]
  unfold nearestFactor
  rw [hquotient, hrest]
  split_ifs <;> omega

end

theorem oneInUnits_eq : ∃ e ≤ 1074, oneInUnits = 2 ^ e := by
  unfold oneInUnits
  generalize h : 1074 = e
  exact ⟨e, Nat.le_refl _, rfl⟩

theorem oneInUnits_pos : 0 < oneInUnits := by
  obtain ⟨e, -, hone⟩ := oneInUnits_eq
  rw [hone]
  exact Nat.two_pow_pos e

section
variable {n m a b d e r : Nat}

theorem log2_le_of_lt (h : n < 2 ^ (e + 1)) : n.log2 ≤ e := by
  by_cases hn : n = 0
  · rw [hn]
    exact Nat.zero_le _
  · exact Nat.le_of_lt_succ ((Nat.log2_lt hn).mpr h)

theorem spacing_pos (n : Nat) : 0 < spacing n := Nat.two_pow_pos _

/-- **The gap only grows with the magnitude**, each a multiple of the smaller ones. -/
theorem spacing_dvd_spacing (h : n.log2 ≤ m.log2) : spacing n ∣ spacing m :=
  Nat.pow_dvd_pow 2 (Nat.sub_le_sub_right h 52)

/-- **A power of two is a multiple of the gap** at all magnitudes up to fifty-two bits above it. -/
theorem spacing_dvd_two_pow (h : n < 2 ^ (e + 53)) : spacing n ∣ 2 ^ e :=
  Nat.pow_dvd_pow 2 (Nat.sub_le_of_le_add (log2_le_of_lt h))

/-- **The gap is a multiple of a power of two** at all magnitudes from fifty-two bits above it. -/
theorem two_pow_dvd_spacing (h : 2 ^ (e + 52) ≤ n) : 2 ^ e ∣ spacing n := by
  have hpos : n ≠ 0 := Nat.ne_of_gt (Nat.lt_of_lt_of_le (Nat.two_pow_pos _) h)
  have hlog : e + 52 ≤ n.log2 := (Nat.le_log2 hpos).mpr h
  exact Nat.pow_dvd_pow 2 (by omega)

/-- A number of at most 53 bits, shifted, is a multiple of its own gap. -/
theorem spacing_dvd_mul_two_pow (h : m ≤ 2 ^ 53) : spacing (m * 2 ^ e) ∣ m * 2 ^ e := by
  rcases Nat.lt_or_eq_of_le h with hlt | rfl
  · have hbits : m * 2 ^ e < 2 ^ (e + 53) := by
      rw [Nat.pow_add, Nat.mul_comm]
      exact Nat.mul_lt_mul_of_pos_left hlt (Nat.two_pow_pos e)
    exact Nat.dvd_trans (spacing_dvd_two_pow hbits) (Nat.dvd_mul_left _ _)
  · rw [← Nat.pow_add]
    exact spacing_dvd_two_pow (Nat.pow_lt_pow_right (by decide) (by omega))

theorem roundQuotient_eq (a d : Nat) :
    roundQuotient a d = nearestFactor a (d * spacing (a / d)) * spacing (a / d) := by
  unfold roundQuotient nearestFactor
  dsimp only
  split_ifs <;> rfl

theorem roundQuotient_le (hd : 0 < d) (hgap : spacing (a / d) ∣ r) (h : a ≤ d * r) : roundQuotient a d ≤ r := by
  obtain ⟨k, rfl⟩ := hgap
  rw [roundQuotient_eq, Nat.mul_comm _ k]
  refine Nat.mul_le_mul_right _ (nearestFactor_le (Nat.mul_pos hd (spacing_pos _)) ?_)
  rwa [Nat.mul_left_comm, Nat.mul_comm k]

theorem le_roundQuotient (hd : 0 < d) (hgap : spacing (a / d) ∣ r) (h : d * r ≤ a) : r ≤ roundQuotient a d := by
  obtain ⟨k, rfl⟩ := hgap
  rw [roundQuotient_eq, Nat.mul_comm _ k]
  refine Nat.mul_le_mul_right _ (le_nearestFactor (Nat.mul_pos hd (spacing_pos _)) ?_)
  rwa [Nat.mul_left_comm, Nat.mul_comm k]

theorem roundQuotient_le_two_pow (hd : 0 < d) (h : a ≤ 2 ^ e * d) : roundQuotient a d ≤ 2 ^ e := by
  rw [Nat.mul_comm] at h
  refine roundQuotient_le hd (spacing_dvd_two_pow ?_) h
  calc a / d ≤ 2 ^ e := Nat.div_le_of_le_mul h
    _ < 2 ^ (e + 53) := Nat.pow_lt_pow_right (by decide) (by omega)

/-- **Rounding leaves a multiple of its own gap alone.** -/
theorem roundQuotient_of_dvd (hd : 0 < d) (hgap : spacing n ∣ n) : roundQuotient (d * n) d = n := by
  have hquotient : d * n / d = n := Nat.mul_div_cancel_left n hd
  have hdvd : spacing (d * n / d) ∣ n := by rwa [hquotient]
  exact Nat.le_antisymm (roundQuotient_le hd hdvd (Nat.le_refl _)) (le_roundQuotient hd hdvd (Nat.le_refl _))

/-- **Less than half the least double** is rounded to zero. -/
theorem roundQuotient_eq_zero (h : 2 * a < d) : roundQuotient a d = 0 := by
  have hquotient : a / d = 0 := Nat.div_eq_of_lt (by omega)
  have hgap : spacing (a / d) = 1 := by
    rw [hquotient]
    rfl
  have hfactor : nearestFactor a d = 0 := by
    rw [nearestFactor, if_pos (.inl (by rwa [Nat.mod_eq_of_lt (by omega)])), hquotient]
  rw [roundQuotient_eq, hgap, Nat.mul_one, Nat.mul_one, hfactor]

theorem two_pow_log2_le_roundQuotient (hd : 0 < d) (h : a / d ≠ 0) : 2 ^ (a / d).log2 ≤ roundQuotient a d := by
  refine le_roundQuotient hd (spacing_dvd_two_pow ?_) ?_
  · exact Nat.lt_of_lt_of_le Nat.lt_log2_self (Nat.pow_le_pow_right Nat.two_pos (by omega))
  · rw [Nat.mul_comm]
    exact (Nat.le_div_iff_mul_le hd).mp (Nat.log2_self_le h)

/-- **Rounding keeps the order of quotients.** -/
theorem roundQuotient_mono (hd : 0 < d) (h : a ≤ b) : roundQuotient a d ≤ roundQuotient b d := by
  by_cases hlog : (b / d).log2 ≤ (a / d).log2
  · have hquotients : a / d ≤ b / d := Nat.div_le_div_right h
    have hlog' : (a / d).log2 ≤ (b / d).log2 :=
      log2_le_of_lt (Nat.lt_of_le_of_lt hquotients Nat.lt_log2_self)
    have hgap : spacing (a / d) = spacing (b / d) :=
      Nat.dvd_antisymm (spacing_dvd_spacing hlog') (spacing_dvd_spacing hlog)
    rw [roundQuotient_eq, roundQuotient_eq, hgap]
    exact Nat.mul_le_mul_right _ (nearestFactor_mono (Nat.mul_pos hd (spacing_pos _)) h)
  · -- A power of two lies between the quotients, and it is a multiple of both gaps.
    have hbelow : a / d < 2 ^ (b / d).log2 :=
      Nat.lt_of_lt_of_le Nat.lt_log2_self (Nat.pow_le_pow_right Nat.two_pos (by omega))
    have hzero : b / d ≠ 0 := by
      intro hzero
      simp [hzero] at hlog
    have hle : roundQuotient a d ≤ 2 ^ (b / d).log2 :=
      roundQuotient_le_two_pow hd (Nat.le_of_lt ((Nat.div_lt_iff_lt_mul hd).mp hbelow))
    exact Nat.le_trans hle (two_pow_log2_le_roundQuotient hd hzero)

/-- **What rounding gives is a multiple of its own gap**, also where it goes up to the next power of two. -/
theorem spacing_dvd_roundQuotient (hd : 0 < d) : spacing (roundQuotient a d) ∣ roundQuotient a d := by
  have hle : roundQuotient a d ≤ 2 ^ ((a / d).log2 + 1) :=
    roundQuotient_le_two_pow hd (Nat.le_of_lt ((Nat.div_lt_iff_lt_mul hd).mp Nat.lt_log2_self))
  rcases Nat.lt_or_eq_of_le hle with hbelow | hpower
  · have hgap : spacing (a / d) ∣ roundQuotient a d := by
      rw [roundQuotient_eq]
      exact Nat.dvd_mul_left _ _
    exact Nat.dvd_trans (spacing_dvd_spacing (log2_le_of_lt hbelow)) hgap
  · rw [hpower]
    exact spacing_dvd_two_pow (Nat.pow_lt_pow_right (by decide) (by omega))

/-- **An even multiple of the gap stays one** where rounding goes up to the next power of two and the gap doubles. -/
theorem roundQuotient_div_spacing_even (hd : 0 < d) (heven : nearestFactor a (d * spacing (a / d)) % 2 = 0) :
    roundQuotient a d / spacing (roundQuotient a d) % 2 = 0 := by
  have hle : roundQuotient a d ≤ 2 ^ ((a / d).log2 + 1) :=
    roundQuotient_le_two_pow hd (Nat.le_of_lt ((Nat.div_lt_iff_lt_mul hd).mp Nat.lt_log2_self))
  rcases Nat.lt_or_eq_of_le hle with hbelow | hpower
  · have hlog : (a / d).log2 ≤ (roundQuotient a d).log2 := by
      by_cases hzero : a / d = 0
      · simp [hzero]
      · have hge : 2 ^ (a / d).log2 ≤ roundQuotient a d := two_pow_log2_le_roundQuotient hd hzero
        have hround : roundQuotient a d ≠ 0 := Nat.ne_of_gt (Nat.lt_of_lt_of_le (Nat.two_pow_pos _) hge)
        exact (Nat.le_log2 hround).mpr hge
    have hgap : spacing (roundQuotient a d) = spacing (a / d) :=
      congrArg (fun log => Nat.pow 2 (log - 52)) (Nat.le_antisymm (log2_le_of_lt hbelow) hlog)
    rw [hgap, roundQuotient_eq, Nat.mul_div_cancel _ (spacing_pos _)]
    exact heven
  · have hgap : spacing (roundQuotient a d) = 2 ^ ((a / d).log2 + 1 - 52) := by
      rw [hpower, spacing, Nat.log2_two_pow]
      rfl
    rw [hgap, hpower, Nat.pow_div (Nat.sub_le _ _) Nat.two_pos]
    exact Nat.two_pow_mod_two_eq_zero.mpr (by omega)

/-- **No double is nearer to a quotient than the rounded one**; and where another is as near, the rounded one is the
even multiple of its gap. -/
theorem dist_roundQuotient (hd : 0 < d) (hr : spacing r ∣ r) :
    (roundQuotient a d * d).dist a ≤ (r * d).dist a ∧
      ((roundQuotient a d * d).dist a = (r * d).dist a →
        r = roundQuotient a d ∨ roundQuotient a d / spacing (roundQuotient a d) % 2 = 0) := by
  have hround : roundQuotient a d * d = nearestFactor a (d * spacing (a / d)) * (d * spacing (a / d)) := by
    rw [roundQuotient_eq, Nat.mul_assoc, Nat.mul_comm (spacing (a / d))]
  have hwidth : 0 < d * spacing (a / d) := Nat.mul_pos hd (spacing_pos _)
  by_cases hlog : (a / d).log2 ≤ r.log2
  · obtain ⟨k, hk⟩ := Nat.dvd_trans (spacing_dvd_spacing hlog) hr
    have hr : r * d = k * (d * spacing (a / d)) := by rw [hk]; ac_rfl
    obtain ⟨hnear, heven⟩ := dist_nearestFactor (n := a) hwidth k
    rw [hround, hr]
    refine ⟨hnear, fun heq => (heven heq).imp (fun h => ?_) (roundQuotient_div_spacing_even hd)⟩
    rw [roundQuotient_eq, ← h, hk, Nat.mul_comm]
  · -- A power of two lies between the two, and it is a multiple of the gap.
    have hzero : a / d ≠ 0 := by
      intro hzero
      simp [hzero] at hlog
    obtain ⟨k, hk⟩ : spacing (a / d) ∣ 2 ^ (a / d).log2 :=
      spacing_dvd_two_pow (Nat.lt_of_lt_of_le Nat.lt_log2_self (Nat.pow_le_pow_right Nat.two_pos (by omega)))
    have hbelow : r < 2 ^ (a / d).log2 :=
      Nat.lt_of_lt_of_le Nat.lt_log2_self (Nat.pow_le_pow_right Nat.two_pos (by omega))
    have hscaled : r * d < 2 ^ (a / d).log2 * d := Nat.mul_lt_mul_of_pos_right hbelow hd
    have habove : 2 ^ (a / d).log2 * d ≤ a := (Nat.le_div_iff_mul_le hd).mp (Nat.log2_self_le hzero)
    have hpower : 2 ^ (a / d).log2 * d = k * (d * spacing (a / d)) := by rw [hk]; ac_rfl
    have hnear := (dist_nearestFactor (n := a) hwidth k).1
    rw [← hround, ← hpower] at hnear
    unfold Nat.dist at hnear ⊢
    omega

theorem Representable.spacing_dvd (h : Representable n) : spacing n ∣ n := by
  unfold Representable at h
  generalize 2098 = limit at h
  exact Nat.dvd_of_mod_eq_zero h.2

/-- **What rounding gives is representable**, unless the quotient is beyond all doubles. -/
theorem representable_roundQuotient (hd : 0 < d) (h : a ≤ 2 ^ e * d) (he : e < 2098) :
    Representable (roundQuotient a d) := by
  unfold Representable
  -- The limit becomes a variable, so that nothing evaluates the power.
  generalize 2098 = limit at he ⊢
  have hlimit : 2 ^ e < Nat.pow 2 limit := Nat.pow_lt_pow_right (by decide) he
  exact ⟨Nat.lt_of_le_of_lt (roundQuotient_le_two_pow hd h) hlimit,
    Nat.mod_eq_zero_of_dvd (spacing_dvd_roundQuotient hd)⟩

end
end FormLogic
