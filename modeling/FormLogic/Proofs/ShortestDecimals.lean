import FormLogic.Decimal.Shortest
import FormLogic.Proofs.NumberTexts
import FormLogic.Proofs.Rounding
import Mathlib.Data.List.TakeWhile
/-!
# The search for the shortest decimal

The shortest decimal is that of the first grid on which one reads back (`shortestDecimal_eq_of_first`).  It has a digit
to start with, so that its text can be taken apart after it (`digits_shortestDecimal_ne_nil`).  Where a decimal was
found, it reads back as a magnitude other than zero; and where none was found, the grid of seventeen digits still has a
point other than zero below the magnitude.
-/
namespace FormLogic

section
variable {n coefficient : Nat} {power : Int}

theorem pow_length_toDigits_le (hn : 0 < n) : 10 ^ ((Nat.toDigits 10 n).length - 1) ≤ n := by
  by_cases hlength : (Nat.toDigits 10 n).length - 1 = 0
  · rw [hlength]
    exact hn
  · refine Nat.le_of_not_lt fun hlt => ?_
    have hle := (Nat.length_toDigits_le_iff (by decide) (Nat.pos_of_ne_zero hlength)).mpr hlt
    omega

/-- **A power of ten** puts zeros behind the digits. -/
theorem toDigits_mul_pow {n : Nat} (hn : 0 < n) (k : Nat) :
    Nat.toDigits 10 (n * 10 ^ k) = Nat.toDigits 10 n ++ List.replicate k '0' := by
  induction k with
  | zero => simp
  | succ k ih =>
    have hpos : 0 < n * 10 ^ k := Nat.mul_pos hn (Nat.pow_pos (by decide))
    have happend := Nat.toDigits_append_toDigits (b := 10) (d := 0) (by decide) hpos (by decide)
    have hscaled : n * 10 ^ (k + 1) = 10 * (n * 10 ^ k) + 0 := by rw [Nat.pow_succ, ← Nat.mul_assoc, Nat.mul_comm]; rfl
    rw [hscaled, ← happend, ih, List.append_assoc, List.replicate_succ', Nat.toDigits_zero]

namespace Decimal

/-- **What is left out** at the end of the digits is zeros. -/
theorem dropZeros_append_zeros (digits : List Char) :
    ∃ count, dropZeros digits ++ List.replicate count '0' = digits := by
  have hall : ∀ c ∈ digits.reverse.takeWhile (· = '0'), c = '0' := fun c hc => by
    simpa using List.mem_takeWhile_imp (p := (· = '0')) hc
  have hzeros := List.eq_replicate_iff.mpr ⟨rfl, hall⟩
  refine ⟨(digits.reverse.takeWhile (· = '0')).length, ?_⟩
  calc dropZeros digits ++ List.replicate (digits.reverse.takeWhile (· = '0')).length '0'
      = (digits.reverse.dropWhile (· = '0')).reverse ++ (digits.reverse.takeWhile (· = '0')).reverse := by
        rw [hzeros, List.reverse_replicate, List.length_replicate, dropZeros]
    _ = digits := by rw [← List.reverse_append, List.takeWhile_append_dropWhile, List.reverse_reverse]

/-- **A decimal other than zero keeps a digit** when the zeros at its end are left out. -/
theorem digits_ofCoefficient_ne_nil (h : coefficient ≠ 0) : (ofCoefficient coefficient power).digits ≠ [] := by
  intro hnil
  obtain ⟨count, hzeros⟩ := dropZeros_append_zeros (Nat.toDigits 10 coefficient)
  have hnil : dropZeros (Nat.toDigits 10 coefficient) = [] := hnil
  rw [hnil, List.nil_append] at hzeros
  have hvalue := congrArg (Nat.ofDigitChars 10 · 0) hzeros
  simp only [Nat.ofDigitChars_ten_toDigits, Nat.ofDigitChars_replicate_zero, Nat.mul_zero] at hvalue
  exact h hvalue.symm

end Decimal

theorem coefficient_ne_zero_of_readsBack (hn : n ≠ 0) (h : readsBack n coefficient power = true) : coefficient ≠ 0 := by
  rintro rfl
  have hdenominator : 0 < (decimalQuotient 0 power).2 := by
    unfold decimalQuotient
    split
    · exact Nat.one_pos
    · exact Nat.pow_pos (by decide)
  have hnumerator : (decimalQuotient 0 power).1 = 0 := by
    unfold decimalQuotient
    split <;> simp
  have hround : roundQuotient (decimalQuotient 0 power).1 (decimalQuotient 0 power).2 = n := of_decide_eq_true h
  have hle : roundQuotient (decimalQuotient 0 power).1 (decimalQuotient 0 power).2 ≤ 0 :=
    roundQuotient_le hdenominator (Nat.dvd_zero _) (by rw [hnumerator]; exact Nat.zero_le _)
  omega

/-- **The coefficient that is taken** reads back, and is the nearer one where both do. -/
theorem nearestReadBack_eq_some {upperNearer lowerReads upperReads : Bool} {lower : Nat}
    (h : nearestReadBack upperNearer lower lowerReads upperReads = some coefficient) :
    (coefficient = lower ∧ lowerReads = true ∧ (upperReads = true → upperNearer = false)) ∨
      (coefficient = lower + 1 ∧ upperReads = true ∧ (lowerReads = true → upperNearer = true)) := by
  cases lowerReads <;> cases upperReads <;> cases upperNearer <;> cases h <;> simp

theorem shortestWith_eq_some_of_ne_zero {tie : Tie} {digits : Nat} {d : Decimal} (hn : n ≠ 0)
    (h : shortestWith tie n digits = some d) :
    ∃ coefficient power, coefficient ≠ 0 ∧ d = .ofCoefficient coefficient power := by
  dsimp only [shortestWith] at h
  generalize leadingPower n - (digits : Int) + 1 = power at h
  generalize gridPoint n power = point at h
  obtain ⟨coefficient, hnearest, rfl⟩ := Option.map_eq_some_iff.mp h
  refine ⟨coefficient, power, ?_, rfl⟩
  rcases nearestReadBack_eq_some hnearest with ⟨hcoefficient, hlower, -⟩ | ⟨hcoefficient, -⟩
  · rw [hcoefficient]
    exact coefficient_ne_zero_of_readsBack hn hlower
  · omega

/-- A power of ten on both sides of a comparison cancels. -/
theorem mul_pow_le_of_scaled {unit a b : Nat} (h : 10 ^ (a + b) * unit ≤ n * 10 ^ b) : unit * 10 ^ a ≤ n := by
  have hscaled : unit * 10 ^ a * 10 ^ b ≤ n * 10 ^ b := by
    rwa [Nat.mul_assoc, ← Nat.pow_add, Nat.mul_comm]
  exact Nat.le_of_mul_le_mul_right hscaled (Nat.pow_pos (by decide))

/-- **A grid that is fine enough has a point other than zero** below a magnitude.  The magnitude times `10 ^ scale` is
at least `10 ^ k`, and the grid has at least `spare` digits more than that takes. -/
theorem gridPoint_ne_zero {k scale spare : Nat} (h : 10 ^ k * oneInUnits ≤ n * Nat.pow 10 scale) :
    (gridPoint n ((k : Int) - (spare + scale : Nat))).1 ≠ 0 := by
  generalize hpower : (k : Int) - (spare + scale : Nat) = power
  unfold gridPoint
  split
  · have hk : power.toNat + spare + scale = k := by omega
    rw [← hk] at h
    have hle : oneInUnits * Nat.pow 10 power.toNat ≤ n :=
      calc oneInUnits * 10 ^ power.toNat ≤ oneInUnits * 10 ^ (power.toNat + spare) :=
            Nat.mul_le_mul_left _ (Nat.pow_le_pow_right (by decide) (Nat.le_add_right _ _))
        _ ≤ n := mul_pow_le_of_scaled h
    exact Nat.div_ne_zero_iff.mpr ⟨Nat.ne_of_gt (Nat.mul_pos oneInUnits_pos (Nat.pow_pos (by decide))), hle⟩
  · have hk : spare + scale = k + (-power).toNat := by omega
    have hscaled : 10 ^ (spare + scale) * oneInUnits ≤ n * Nat.pow 10 (-power).toNat * 10 ^ scale :=
      calc 10 ^ (spare + scale) * oneInUnits = 10 ^ k * oneInUnits * 10 ^ (-power).toNat := by
            rw [hk, Nat.pow_add, Nat.mul_right_comm]
        _ ≤ n * 10 ^ scale * 10 ^ (-power).toNat := Nat.mul_le_mul_right _ h
        _ = n * 10 ^ (-power).toNat * 10 ^ scale := Nat.mul_right_comm _ _ _
    have hle : oneInUnits ≤ n * Nat.pow 10 (-power).toNat :=
      calc oneInUnits ≤ oneInUnits * 10 ^ spare := Nat.le_mul_of_pos_right _ (Nat.pow_pos (by decide))
        _ ≤ n * Nat.pow 10 (-power).toNat := mul_pow_le_of_scaled hscaled
    exact Nat.div_ne_zero_iff.mpr ⟨Nat.ne_of_gt oneInUnits_pos, hle⟩

/-- A magnitude is scaled to a whole number before its digits are counted. -/
theorem leadingPower_eq : ∃ scale, oneInUnits ≤ Nat.pow 10 scale ∧
    ∀ n, leadingPower n = ((Nat.toDigits 10 (n * Nat.pow 10 scale / oneInUnits)).length : Int) - (scale + 1 : Nat) :=
  ⟨330, by decide +kernel, fun _ => rfl⟩

/-- **The grid of seventeen digits has a point other than zero** below every magnitude other than zero. -/
theorem gridPoint_leadingPower_ne_zero (hn : n ≠ 0) : (gridPoint n (leadingPower n - 16)).1 ≠ 0 := by
  obtain ⟨scale, hscale, hleading⟩ := leadingPower_eq
  have hscaled : 0 < n * Nat.pow 10 scale / oneInUnits :=
    Nat.div_pos (Nat.le_trans hscale (Nat.le_mul_of_pos_left _ (Nat.pos_of_ne_zero hn))) oneInUnits_pos
  have hdigits := (Nat.le_div_iff_mul_le oneInUnits_pos).mp (pow_length_toDigits_le hscaled)
  have hlength : 0 < (Nat.toDigits 10 (n * Nat.pow 10 scale / oneInUnits)).length :=
    List.length_pos_iff.mpr Nat.toDigits_ne_nil
  have hpower : leadingPower n - 16 =
      (((Nat.toDigits 10 (n * Nat.pow 10 scale / oneInUnits)).length - 1 : Nat) : Int) - (16 + scale : Nat) := by
    rw [hleading]
    omega
  rw [hpower]
  exact gridPoint_ne_zero hdigits

/-- The first number below a bound that gives something. -/
theorem findSome?_range {α : Type} {f : Nat → Option α} {k bound : Nat} {a : α} (hk : k < bound) (hfound : f k = some a)
    (hfirst : ∀ j < k, f j = none) : (List.range bound).findSome? f = some a := by
  obtain ⟨rest, rfl⟩ := Nat.exists_eq_add_of_lt hk
  have hbefore : (List.range k).findSome? f = none :=
    List.findSome?_eq_none_iff.mpr fun j hj => hfirst j (List.mem_range.mp hj)
  rw [Nat.add_assoc, List.range_add, List.findSome?_append, hbefore, Option.none_or, List.range_succ_eq_map,
    List.map_cons, List.findSome?_cons, Nat.add_zero, hfound]

/-- **The first grid on which a decimal reads back** gives the shortest decimal. -/
theorem shortestDecimal_eq_of_first {tie : Tie} {k : Nat} {d : Decimal} (hk : k < 17)
    (hfound : shortestWith tie n (k + 1) = some d) (hfirst : ∀ j < k, shortestWith tie n (j + 1) = none) :
    shortestDecimal tie n = d := by
  have hfirst : (List.range 17).findSome? (fun k => shortestWith tie n (k + 1)) = some d :=
    findSome?_range hk hfound hfirst
  unfold shortestDecimal
  rw [hfirst, Option.getD_some]

/-- **The shortest decimal of a magnitude other than zero** has a coefficient other than zero. -/
theorem shortestDecimal_eq_of_ne_zero (tie : Tie) (hn : n ≠ 0) :
    ∃ coefficient power, coefficient ≠ 0 ∧ shortestDecimal tie n = .ofCoefficient coefficient power := by
  unfold shortestDecimal
  cases h : (List.range 17).findSome? fun k => shortestWith tie n (k + 1) with
  | none => exact ⟨_, _, gridPoint_leadingPower_ne_zero hn, rfl⟩
  | some d =>
    obtain ⟨k, -, hk⟩ := List.exists_of_findSome?_eq_some h
    exact shortestWith_eq_some_of_ne_zero hn hk

theorem digits_shortestDecimal_ne_nil (tie : Tie) (hn : n ≠ 0) : (shortestDecimal tie n).digits ≠ [] := by
  obtain ⟨coefficient, power, hcoefficient, heq⟩ := shortestDecimal_eq_of_ne_zero tie hn
  rw [heq]
  exact Decimal.digits_ofCoefficient_ne_nil hcoefficient

end
end FormLogic
