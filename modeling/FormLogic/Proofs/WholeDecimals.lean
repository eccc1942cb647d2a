import FormLogic.Proofs.Layouts
import FormLogic.Proofs.NearestDoubles
import FormLogic.Proofs.ShortestDecimals
/-!
# The shortest decimal of a whole number

The shortest decimal of a double that is a whole number is a whole number too: of those with the same nearest double it
ends in the most zeros, and of these it is nearest to the double (`IsRoundest`, `isRoundest_shortestDecimal`).  The
grids that the search goes through are the multiples of the powers of ten, and a grid has a point that reads back
exactly where one of the two points around the number does.
-/
namespace FormLogic

/-- **The roundest of the whole numbers that a double stands for.**  It is rounded to the double, every power of ten
that divides one of these numbers divides it, and of those that are so divided it is nearest to the double, the greater
one of two. -/
structure IsRoundest (units m : Nat) : Prop where
  same : wholeUnits m = units
  roundest : ∀ i, wholeUnits i = units → ∀ k, 10 ^ k ∣ i → 10 ^ k ∣ m
  nearest : ∀ i, wholeUnits i = units → (∀ k, 10 ^ k ∣ m → 10 ^ k ∣ i) →
    (m * oneInUnits).dist units ≤ (i * oneInUnits).dist units ∧
      ((m * oneInUnits).dist units = (i * oneInUnits).dist units → i ≤ m)

theorem wholeUnits_next : wholeUnits (2 ^ 53 + 2) = (2 ^ 53 + 2) * oneInUnits := by
  obtain ⟨e, -, hone⟩ := oneInUnits_eq
  have hhalf : (2 ^ 53 + 2) * oneInUnits = (2 ^ 52 + 1) * 2 ^ (e + 1) := by
    rw [hone, Nat.pow_succ]
    omega
  apply wholeUnits_of_dvd
  rw [hhalf]
  exact spacing_dvd_mul_two_pow (by decide)

namespace IsRoundest

variable {units m n : Nat}

/-- **A double has one roundest number.** -/
theorem unique (hm : IsRoundest units m) (hn : IsRoundest units n) : m = n := by
  obtain ⟨hdistm, hgreatm⟩ := hm.nearest n hn.same (hn.roundest m hm.same)
  obtain ⟨hdistn, hgreatn⟩ := hn.nearest m hm.same (hm.roundest n hn.same)
  have hdist := Nat.le_antisymm hdistm hdistn
  exact Nat.le_antisymm (hgreatn hdist.symm) (hgreatm hdist)

/-- **Up to `2 ^ 53` the roundest number is the number itself.**  Only the last of these doubles stands for two numbers,
and neither ends in a zero. -/
theorem eq_of_le (hm : IsRoundest (wholeUnits n) m) (hn : n ≤ 2 ^ 53) : m = n := by
  have hone : 0 < oneInUnits := oneInUnits_pos
  have hsame : wholeUnits m = n * oneInUnits := hm.same.trans (wholeUnits_exact hn)
  by_cases hsmall : m ≤ 2 ^ 53
  · rw [wholeUnits_exact hsmall] at hsame
    exact Nat.eq_of_mul_eq_mul_right hone hsame
  have hle : wholeUnits (2 ^ 53) ≤ wholeUnits m := wholeUnits_mono (Nat.le_of_not_le hsmall)
  rw [hsame, wholeUnits_exact (Nat.le_refl _)] at hle
  have hlast : n = 2 ^ 53 := Nat.le_antisymm hn (Nat.le_of_mul_le_mul_right hle hone)
  have hnext : m = 2 ^ 53 + 1 := by
    by_contra hne
    have hle : wholeUnits (2 ^ 53 + 2) ≤ wholeUnits m := wholeUnits_mono (by omega)
    rw [hsame, wholeUnits_next, hlast] at hle
    exact absurd (Nat.le_of_mul_le_mul_right hle hone) (by decide)
  have hround : ∀ k, 10 ^ k ∣ m → 10 ^ k ∣ n := by
    rintro (_ | k) hdvd
    · exact Nat.one_dvd n
    · have hten : 10 ∣ m := Nat.dvd_trans (Dvd.intro_left (10 ^ k) rfl) hdvd
      omega
  have hnear := (hm.nearest n rfl hround).1
  rw [wholeUnits_exact hn, Nat.dist_self, Nat.le_zero] at hnear
  exact Nat.eq_of_mul_eq_mul_right hone (Nat.eq_of_dist_eq_zero hnear)

end IsRoundest

section
variable {n i t c p : Nat}

/-- **The multiple of a power of ten that reads back** as a whole number: one of the two around it, the nearer one where
both do. -/
def wholeCoefficient? (n p : Nat) : Option Nat :=
  nearestReadBack (decide (10 ^ p ≤ 2 * (n % 10 ^ p))) (n / 10 ^ p)
    (decide (wholeUnits (n / 10 ^ p * 10 ^ p) = n * oneInUnits))
    (decide (wholeUnits ((n / 10 ^ p + 1) * 10 ^ p) = n * oneInUnits))

theorem leadingPower_whole (hn : 0 < n) : leadingPower (n * oneInUnits) = ((Nat.toDigits 10 n).length : Int) - 1 := by
  obtain ⟨scale, -, hleading⟩ := leadingPower_eq
  have hscaled : n * oneInUnits * Nat.pow 10 scale / oneInUnits = n * 10 ^ scale := by
    rw [Nat.mul_right_comm, Nat.mul_div_cancel _ oneInUnits_pos]
    rfl
  rw [hleading, hscaled, toDigits_mul_pow hn, List.length_append, List.length_replicate]
  omega

theorem gridPoint_whole (n p : Nat) :
    gridPoint (n * oneInUnits) p = (n / 10 ^ p, n % 10 ^ p * oneInUnits, 10 ^ p * oneInUnits) := by
  unfold gridPoint
  rw [if_pos (Int.natCast_nonneg p), Int.toNat_natCast]
  dsimp only
  rw [Nat.mul_comm oneInUnits, Nat.mul_div_mul_right _ _ oneInUnits_pos, Nat.mul_mod_mul_right]
  rfl

theorem readsBack_whole (units c p : Nat) : readsBack units c p = decide (wholeUnits (c * 10 ^ p) = units) := by
  unfold readsBack decimalQuotient
  rw [if_pos (Int.natCast_nonneg p), Int.toNat_natCast]
  rfl

theorem upperIsNearer_whole (lower remainder width : Nat) :
    upperIsNearer .up (lower, remainder * oneInUnits, width * oneInUnits) = decide (width ≤ 2 * remainder) := by
  have hone : 0 < oneInUnits := oneInUnits_pos
  unfold upperIsNearer
  rw [Bool.eq_iff_iff]
  simp only [Bool.or_eq_true, Bool.and_eq_true, decide_eq_true_eq, ← Nat.mul_assoc, Nat.mul_lt_mul_right hone,
    Nat.mul_left_inj (Nat.ne_of_gt hone), true_or, and_true]
  omega

/-- **The search on one grid**, for a whole number. -/
theorem shortestWith_whole {digits : Nat} (hn : 0 < n) (hp : p + digits = (Nat.toDigits 10 n).length) :
    shortestWith .up (n * oneInUnits) digits = (wholeCoefficient? n p).map fun c => .ofCoefficient c p := by
  have hpower : leadingPower (n * oneInUnits) - (digits : Int) + 1 = p := by
    rw [leadingPower_whole hn]
    omega
  unfold shortestWith
  dsimp only
  rw [hpower, gridPoint_whole, readsBack_whole, readsBack_whole, upperIsNearer_whole, wholeCoefficient?]

/-- **Between a double and a number that is rounded to it** every number is rounded to it. -/
theorem wholeUnits_of_between {m : Nat} (hn : wholeUnits n = n * oneInUnits) (hi : wholeUnits i = n * oneInUnits)
    (h : (i ≤ m ∧ m ≤ n) ∨ (n ≤ m ∧ m ≤ i)) : wholeUnits m = n * oneInUnits := by
  rcases h with ⟨hlow, hhigh⟩ | ⟨hlow, hhigh⟩
  · have hle : wholeUnits i ≤ wholeUnits m := wholeUnits_mono hlow
    have hge : wholeUnits m ≤ wholeUnits n := wholeUnits_mono hhigh
    omega
  · have hle : wholeUnits n ≤ wholeUnits m := wholeUnits_mono hlow
    have hge : wholeUnits m ≤ wholeUnits i := wholeUnits_mono hhigh
    omega

theorem div_mul_le_and_lt (n p : Nat) : n / 10 ^ p * 10 ^ p ≤ n ∧ n < (n / 10 ^ p + 1) * 10 ^ p :=
  ⟨Nat.div_mul_le_self n _, (Nat.div_lt_iff_lt_mul (Nat.pow_pos (by decide))).mp (Nat.lt_succ_self _)⟩

/-- **No number of the double is a multiple of a power of ten beyond its digits.** -/
theorem lt_length_of_pow_dvd {k : Nat} (hpos : 0 < n) (hlength : (Nat.toDigits 10 n).length ≤ 22)
    (hi : wholeUnits i = n * oneInUnits) (hdvd : 10 ^ k ∣ i) : k < (Nat.toDigits 10 n).length := by
  refine Nat.lt_of_not_le fun hle => ?_
  have hone : 0 < oneInUnits := oneInUnits_pos
  have hi' : i ≠ 0 := by
    rintro rfl
    rw [wholeUnits_zero] at hi
    exact absurd hi (Nat.ne_of_lt (Nat.mul_pos hpos hone))
  have hlow : 10 ^ (Nat.toDigits 10 n).length ≤ i :=
    Nat.le_trans (Nat.pow_le_pow_right (by decide) hle) (Nat.le_of_dvd (Nat.pos_of_ne_zero hi') hdvd)
  have hhigh : n < 10 ^ (Nat.toDigits 10 n).length :=
    (Nat.length_toDigits_le_iff (by decide) Nat.length_toDigits_pos).mp (Nat.le_refl _)
  have hmono := wholeUnits_mono hlow
  rw [wholeUnits_pow_ten hlength, hi] at hmono
  exact absurd (Nat.mul_lt_mul_of_pos_right hhigh hone) (Nat.not_lt.mpr hmono)

section
variable (hn : wholeUnits n = n * oneInUnits)
include hn

/-- **If any multiple reads back**, the one of the two around the number that lies on the same side does. -/
theorem reads_beside (ht : wholeUnits (t * 10 ^ p) = n * oneInUnits) :
    (t ≤ n / 10 ^ p → wholeUnits (n / 10 ^ p * 10 ^ p) = n * oneInUnits) ∧
      (n / 10 ^ p + 1 ≤ t → wholeUnits ((n / 10 ^ p + 1) * 10 ^ p) = n * oneInUnits) := by
  obtain ⟨hlower, hupper⟩ := div_mul_le_and_lt n p
  exact ⟨fun hle => wholeUnits_of_between hn ht (.inl ⟨Nat.mul_le_mul_right _ hle, hlower⟩),
    fun hle => wholeUnits_of_between hn ht (.inr ⟨Nat.le_of_lt hupper, Nat.mul_le_mul_right _ hle⟩)⟩

theorem wholeCoefficient?_ne_none (ht : wholeUnits (t * 10 ^ p) = n * oneInUnits) : wholeCoefficient? n p ≠ none := by
  obtain ⟨hlower, hupper⟩ := reads_beside hn ht
  unfold wholeCoefficient?
  rcases Nat.lt_or_ge (n / 10 ^ p) t with hlt | hle
  · rw [decide_eq_true (hupper hlt)]
    cases decide (wholeUnits (n / 10 ^ p * 10 ^ p) = n * oneInUnits) <;> simp [nearestReadBack]
  · rw [decide_eq_true (hlower hle)]
    cases decide (wholeUnits ((n / 10 ^ p + 1) * 10 ^ p) = n * oneInUnits) <;> simp [nearestReadBack]

/-- **The multiple that is taken reads back**, no other that does is nearer, and none that is as near is greater. -/
theorem wholeCoefficient?_spec (h : wholeCoefficient? n p = some c) :
    wholeUnits (c * 10 ^ p) = n * oneInUnits ∧ ∀ t, wholeUnits (t * 10 ^ p) = n * oneInUnits →
      (c * 10 ^ p).dist n ≤ (t * 10 ^ p).dist n ∧ ((c * 10 ^ p).dist n = (t * 10 ^ p).dist n → t ≤ c) := by
  have hsplit : n / 10 ^ p * 10 ^ p + n % 10 ^ p = n := Nat.div_add_mod' n _
  have hmod : n % 10 ^ p < 10 ^ p := Nat.mod_lt n (Nat.pow_pos (by decide))
  have hsucc : (n / 10 ^ p + 1) * 10 ^ p = n / 10 ^ p * 10 ^ p + 10 ^ p := Nat.succ_mul _ _
  unfold wholeCoefficient? at h
  rcases nearestReadBack_eq_some h with ⟨rfl, hreads, hnearer⟩ | ⟨rfl, hreads, hnearer⟩
  · refine ⟨of_decide_eq_true hreads, fun t ht => ?_⟩
    rcases Nat.lt_or_ge (n / 10 ^ p) t with hlt | hle
    · have hnearer := of_decide_eq_false (hnearer (decide_eq_true ((reads_beside hn ht).2 hlt)))
      have hmul : (n / 10 ^ p + 1) * 10 ^ p ≤ t * 10 ^ p := Nat.mul_le_mul_right _ hlt
      unfold Nat.dist
      omega
    · have hmul : t * 10 ^ p ≤ n / 10 ^ p * 10 ^ p := Nat.mul_le_mul_right _ hle
      unfold Nat.dist
      omega
  · refine ⟨of_decide_eq_true hreads, fun t ht => ?_⟩
    rcases Nat.lt_or_ge (n / 10 ^ p) t with hlt | hle
    · have hmul : (n / 10 ^ p + 1) * 10 ^ p ≤ t * 10 ^ p := Nat.mul_le_mul_right _ hlt
      have hgreatest : t * 10 ^ p ≤ (n / 10 ^ p + 1) * 10 ^ p → t ≤ n / 10 ^ p + 1 := fun hle =>
        Nat.le_of_mul_le_mul_right hle (Nat.pow_pos (by decide))
      unfold Nat.dist
      omega
    · have hnearer := of_decide_eq_true (hnearer (decide_eq_true ((reads_beside hn ht).1 hle)))
      have hmul : t * 10 ^ p ≤ n / 10 ^ p * 10 ^ p := Nat.mul_le_mul_right _ hle
      unfold Nat.dist
      omega

/-- **Seventeen digits are enough** for a whole number of up to twenty. -/
theorem exists_wholeCoefficient? (hpos : 0 < n) (hlength : (Nat.toDigits 10 n).length ≤ 20) :
    ∃ p c, wholeCoefficient? n p = some c ∧ p < (Nat.toDigits 10 n).length ∧ (Nat.toDigits 10 n).length ≤ p + 17 := by
  have hfirst : 0 < (Nat.toDigits 10 n).length := Nat.length_toDigits_pos
  have hfound : ∀ {p t}, wholeUnits (t * 10 ^ p) = n * oneInUnits → ∃ c, wholeCoefficient? n p = some c := fun ht =>
    Option.ne_none_iff_exists'.mp (wholeCoefficient?_ne_none hn ht)
  by_cases hshort : (Nat.toDigits 10 n).length ≤ 17
  · obtain ⟨c, hc⟩ := hfound (p := 0) (t := n) (by rwa [Nat.pow_zero, Nat.mul_one])
    exact ⟨0, c, hc, hfirst, by omega⟩
  · -- The grid of seventeen digits is finer than the gap between doubles.
    obtain ⟨p, hp⟩ : ∃ p, (Nat.toDigits 10 n).length = p + 17 := ⟨_, (Nat.sub_add_cancel (by omega)).symm⟩
    have hfine : ∃ k, 10 ^ p < 2 ^ k ∧ 2 ^ (k + 52) ≤ 10 ^ (p + 16) := by
      have hrange : p = 1 ∨ p = 2 ∨ p = 3 := by omega
      rcases hrange with rfl | rfl | rfl
      · exact ⟨4, by decide, by decide⟩
      · exact ⟨7, by decide, by decide⟩
      · exact ⟨10, by decide, by decide⟩
    obtain ⟨k, hgap, hlow⟩ := hfine
    have hleast : 10 ^ (p + 16) ≤ n := by
      have hle := pow_length_toDigits_le hpos
      rwa [hp] at hle
    have hlower : 10 ^ (p + 16) ≤ n / 10 ^ p * 10 ^ p := by
      rw [Nat.add_comm p, Nat.pow_add]
      refine Nat.mul_le_mul_right _ ((Nat.le_div_iff_mul_le (Nat.pow_pos (by decide))).mpr ?_)
      rwa [← Nat.pow_add, Nat.add_comm]
    have hsplit : n / 10 ^ p * 10 ^ p + n % 10 ^ p = n := Nat.div_add_mod' n _
    have hmod : n % 10 ^ p < 10 ^ p := Nat.mod_lt n (Nat.pow_pos (by decide))
    have hsucc : (n / 10 ^ p + 1) * 10 ^ p = n / 10 ^ p * 10 ^ p + 10 ^ p := Nat.succ_mul _ _
    have hnear : ∃ t, 2 ^ (k + 52) ≤ t * 10 ^ p ∧ 2 * (t * 10 ^ p).dist n < 2 ^ k := by
      unfold Nat.dist
      by_cases hdown : 2 * (n % 10 ^ p) ≤ 10 ^ p
      · exact ⟨n / 10 ^ p, by omega, by omega⟩
      · exact ⟨n / 10 ^ p + 1, by omega, by omega⟩
    obtain ⟨t, hlow', hdist⟩ := hnear
    obtain ⟨c, hc⟩ := hfound (wholeUnits_of_near hn (Nat.le_trans hlow hleast) hlow' hdist)
    exact ⟨p, c, hc, by omega, by omega⟩

/-- **The search ends on the coarsest grid** that has a multiple that reads back. -/
theorem shortestDecimal_whole (hpos : 0 < n) (hlength : (Nat.toDigits 10 n).length ≤ 20) :
    ∃ p c, wholeCoefficient? n p = some c ∧ shortestDecimal .up (n * oneInUnits) = .ofCoefficient c p ∧
      ∀ q, p < q → q < (Nat.toDigits 10 n).length → wholeCoefficient? n q = none := by
  -- The first number of digits that gives something, each number of digits having its grid.
  obtain ⟨p, c, hc, hp, hdigits⟩ := exists_wholeCoefficient? hn hpos hlength
  have hgrid : (Nat.toDigits 10 n).length - ((Nat.toDigits 10 n).length - (p + 1) + 1) = p := by omega
  have hfound : (wholeCoefficient? n ((Nat.toDigits 10 n).length - ((Nat.toDigits 10 n).length - (p + 1) + 1))).isSome
      = true := by rw [hgrid, hc, Option.isSome_some]
  have hless : (Nat.toDigits 10 n).length - (p + 1) < (Nat.toDigits 10 n).length := by omega
  have hexists : ∃ k, k < (Nat.toDigits 10 n).length ∧
      (wholeCoefficient? n ((Nat.toDigits 10 n).length - (k + 1))).isSome = true := ⟨_, hless, hfound⟩
  have hfew : Nat.find hexists < 17 := Nat.lt_of_le_of_lt (Nat.find_min' hexists ⟨hless, hfound⟩) (by omega)
  obtain ⟨hk, hsome⟩ := Nat.find_spec hexists
  have hnone : ∀ j < Nat.find hexists, wholeCoefficient? n ((Nat.toDigits 10 n).length - (j + 1)) = none := by
    intro j hj
    have hmin := Nat.find_min hexists hj
    rw [not_and, Option.not_isSome_iff_eq_none] at hmin
    exact hmin (Nat.lt_trans hj hk)
  generalize Nat.find hexists = k at hfew hk hsome hnone
  obtain ⟨c, hc⟩ := Option.isSome_iff_exists.mp hsome
  refine ⟨_, c, hc, shortestDecimal_eq_of_first hfew ?_ fun j hj => ?_, fun q hq hdigits => ?_⟩
  · rw [shortestWith_whole hpos (Nat.sub_add_cancel hk), hc, Option.map_some]
  · rw [shortestWith_whole hpos (Nat.sub_add_cancel (Nat.lt_trans hj hk)), hnone j hj, Option.map_none]
  · have hgrid : (Nat.toDigits 10 n).length - ((Nat.toDigits 10 n).length - (q + 1) + 1) = q := by omega
    have hnone := hnone ((Nat.toDigits 10 n).length - (q + 1)) (by omega)
    rwa [hgrid] at hnone

/-- **The shortest decimal of a double that is a whole number** is the roundest of the whole numbers with this
double. -/
theorem isRoundest_shortestDecimal (hpos : 0 < n) (hlength : (Nat.toDigits 10 n).length ≤ 20) :
    ∃ c p : Nat, shortestDecimal .up (n * oneInUnits) = .ofCoefficient c p ∧
      IsRoundest (n * oneInUnits) (c * 10 ^ p) := by
  obtain ⟨p, c, hc, hshortest, hcoarsest⟩ := shortestDecimal_whole hn hpos hlength
  obtain ⟨hreads, hnearest⟩ := wholeCoefficient?_spec hn hc
  refine ⟨c, p, hshortest, hreads, fun i hi k hdvd => ?_, fun i hi hround => ?_⟩
  · have hk : k ≤ p := by
      refine Nat.le_of_not_lt fun hlt => ?_
      have hdigits : k < (Nat.toDigits 10 n).length := lt_length_of_pow_dvd hpos (by omega) hi hdvd
      obtain ⟨t, rfl⟩ := hdvd
      rw [Nat.mul_comm] at hi
      exact wholeCoefficient?_ne_none hn hi (hcoarsest k hlt hdigits)
    exact Nat.dvd_trans (Nat.pow_dvd_pow 10 hk) (Nat.dvd_mul_left _ _)
  · obtain ⟨t, rfl⟩ := hround p (Nat.dvd_mul_left _ _)
    rw [Nat.mul_comm (10 ^ p)] at hi ⊢
    obtain ⟨hnear, hgreatest⟩ := hnearest t hi
    rw [Nat.dist_mul_right, Nat.dist_mul_right]
    refine ⟨Nat.mul_le_mul_right _ hnear, fun heq => ?_⟩
    exact Nat.mul_le_mul_right _ (hgreatest (Nat.eq_of_mul_eq_mul_right oneInUnits_pos heq))

end

end
end FormLogic
