import FormLogic.Proofs.NearestDoubles
import FormLogic.Proofs.NumberGrammar
import FormLogic.Proofs.StandardCalls
import FormLogic.Proofs.Words
/-!
# What a number text is worth

A text of the plain form stands for the double nearest to what it writes (`NumberText.standsFor_toDouble`), and its
value is a number of that double, or null where the double is infinite (`NumberText.value_eq`).  The cast to a number,
the cast to a boolean and the operator `isNumber` all go by this one reading (`Dialect.standard_reads_numbers`).
-/
namespace FormLogic

namespace Double

theorem same_self (x : FiniteDouble) : (finite x).same (finite x) = true := decide_eq_true rfl

/-- **Doubles that are equal as numbers** are equal to the same doubles. -/
theorem same_congr {x y : Double} (h : x.same y = true) (z : Double) : x.same z = y.same z := by
  cases x with
  | undefined => cases h
  | infinite n =>
    cases y with
    | infinite m => rw [eq_of_beq h]
    | _ => cases h
  | finite x =>
    cases y with
    | finite y =>
      have hunits : x.signedUnits = y.signedUnits := of_decide_eq_true h
      cases z with
      | finite z => simp only [same, FiniteDouble.same, hunits]
      | _ => rfl
    | _ => cases h

end Double

namespace FiniteDouble

theorem signedUnits_truncate {x : FiniteDouble} (h : x.isWhole = true) : x.signedUnits = x.truncate * oneInUnits := by
  have hsplit : x.units / oneInUnits * oneInUnits = x.units :=
    Nat.div_mul_cancel (Nat.dvd_of_mod_eq_zero (of_decide_eq_true h))
  unfold signedUnits truncate
  split_ifs
  · rw [Int.neg_mul, ← Int.natCast_mul, hsplit]
  · rw [← Int.natCast_mul, hsplit]

theorem natAbs_truncate (x : FiniteDouble) : x.truncate.natAbs = x.units / oneInUnits := by
  unfold truncate
  split_ifs
  · rw [Int.natAbs_neg, Int.natAbs_natCast]
  · rw [Int.natAbs_natCast]

/-- An integer of at most 53 bits is its nearest double. -/
theorem signedUnits_nearest_of_small {i : Int} (hsmall : i.natAbs ≤ 2 ^ 53) {h : i.natAbs ≤ 2 ^ 64} :
    (nearest i h).signedUnits = i * oneInUnits := by
  have hneg : i < 0 → i = -(i.natAbs : Int) := by omega
  have hpos : ¬ i < 0 → i = (i.natAbs : Int) := by omega
  rw [signedUnits_nearest, wholeUnits_exact hsmall, Int.natCast_mul]
  split_ifs with hi
  · rw [← Int.neg_mul, ← hneg hi]
  · rw [← hpos hi]

end FiniteDouble

/-- **Folding a whole double into an integer** keeps its double. -/
theorem Number.same_of_ofDouble? {x : Double} {n : Number} (h : ofDouble? x = some n) : n.toDouble.same x = true := by
  cases x with
  | finite x =>
    rw [ofDouble?] at h
    split at h
    · rename_i hfold
      obtain ⟨hwhole, hsmall⟩ := hfold
      cases h
      have hbits : x.truncate.natAbs ≤ 2 ^ 53 := by
        have hone : 0 < oneInUnits := oneInUnits_pos
        rw [x.natAbs_truncate]
        generalize oneInUnits = one at hone hsmall ⊢
        exact Nat.le_of_lt ((Nat.div_lt_iff_lt_mul hone).mpr hsmall)
      have hunits : x.truncate.natAbs ≤ 2 ^ 64 := Nat.le_trans hbits (by decide)
      rw [toDouble, Double.ofInt_eq_nearest hunits]
      refine decide_eq_true ?_
      rw [FiniteDouble.signedUnits_nearest_of_small hbits, FiniteDouble.signedUnits_truncate hwhole]
    · cases h
      exact Double.same_self x
  | _ => cases h

/-- **The value of a double** is a number of that double, or null where it is not finite. -/
theorem Value.ofDouble_eq (x : Double) :
    (∃ n, Value.ofDouble x = .number n ∧ n.toDouble.same x = true) ∨
      (Value.ofDouble x = .null ∧ ∀ y, x ≠ .finite y) := by
  unfold ofDouble
  cases h : Number.ofDouble? x with
  | some n => exact .inl ⟨n, rfl, Number.same_of_ofDouble? h⟩
  | none =>
    refine .inr ⟨rfl, ?_⟩
    rintro y rfl
    rw [Number.ofDouble?] at h
    split at h <;> cases h

namespace NumberText

/-- **The double nearest to what a text writes**: its digits, read as one number, over a power of ten. -/
def StandsFor (t : NumberText) (x : Double) : Prop :=
  x.IsNearest t.negative (Text.natOfDigits t.digits * oneInUnits) (10 ^ (t.fraction.getD []).length)

theorem toDouble_eq (t : NumberText) : t.toDouble =
    .ofQuotient t.negative (Text.natOfDigits t.digits * oneInUnits) (10 ^ (t.fraction.getD []).length) := by
  rw [toDouble, Double.ofDecimal_places]

theorem standsFor_toDouble (t : NumberText) : t.StandsFor t.toDouble := by
  unfold StandsFor
  rw [toDouble_eq]
  exact Double.ofQuotient_isNearest t.negative (Nat.pow_pos (by decide))

theorem natAbs_toInt (t : NumberText) : t.toInt.natAbs = Text.natOfDigits t.whole := by
  unfold toInt
  split_ifs <;> omega

theorem toDouble_of_whole {t : NumberText} (hwhole : t.fraction = none) (h : t.toInt.natAbs ≤ 2 ^ 64) :
    t.toDouble = .finite ⟨t.negative, wholeUnits t.toInt.natAbs, representable_wholeUnits h⟩ := by
  rw [← Double.ofUnits_of_representable, toDouble_eq, hwhole, digits, hwhole, natAbs_toInt]
  simp [Double.ofQuotient, wholeUnits]

/-- **A text without a fraction, in the range of 64-bit integers,** stands for the double nearest to its integer; only
the sign of zero may differ. -/
theorem same_ofInt_toInt {t : NumberText} (hwhole : t.fraction = none) (h : t.toInt.natAbs ≤ 2 ^ 64) :
    (Double.ofInt t.toInt).same t.toDouble = true := by
  rw [toDouble_of_whole hwhole h, Double.ofInt_eq_nearest h]
  refine decide_eq_true ?_
  rw [FiniteDouble.signedUnits_nearest, FiniteDouble.signedUnits]
  by_cases hzero : t.toInt = 0
  · have hunits : wholeUnits t.toInt.natAbs = 0 := by
      rw [hzero, Int.natAbs_zero, wholeUnits_exact (Nat.zero_le _), Nat.zero_mul]
    simp [hunits]
  · have hsign : t.toInt < 0 ↔ t.negative = true := by
      cases hnegative : t.negative with
      | true =>
        simp only [toInt, hnegative, if_true] at hzero ⊢
        simp only [iff_true]
        omega
      | false =>
        simp only [toInt, hnegative, Bool.false_eq_true, if_false, iff_false]
        omega
    simp only [hsign]

theorem natAbs_toInt_le {t : NumberText} (hlow : -(Nat.pow 2 63 : Int) ≤ t.toInt) (hhigh : t.toInt < Nat.pow 2 63) :
    t.toInt.natAbs ≤ 2 ^ 64 := by
  simp only [Nat.pow_eq] at hlow hhigh
  omega

/-- **The value of a number text** is a number of the double that it stands for, or null where that is infinite. -/
theorem value_eq (t : NumberText) :
    (∃ n, t.value = .number n ∧ n.toDouble.same t.toDouble = true) ∨
      (t.value = .null ∧ ∀ x, t.toDouble ≠ .finite x) := by
  unfold value
  split_ifs with h
  · obtain ⟨hwhole, hlow, hhigh⟩ := h
    exact .inl ⟨.int t.toInt, rfl, same_ofInt_toInt (Option.isNone_iff_eq_none.mp hwhole) (natAbs_toInt_le hlow hhigh)⟩
  · exact Value.ofDouble_eq t.toDouble

/-- **The value of the double that a text stands for** is null exactly where that is infinite. -/
theorem ofDouble_toDouble_eq_null (t : NumberText) :
    Value.ofDouble t.toDouble = .null ↔ ∃ negative, t.toDouble = .infinite negative := by
  have hnearest := t.standsFor_toDouble
  cases hdouble : t.toDouble with
  | finite x =>
    obtain ⟨n, hn, -⟩ | ⟨-, hinfinite⟩ := Value.ofDouble_eq (.finite x)
    · simp [hn]
    · exact absurd rfl (hinfinite x)
  | infinite negative => simp [Value.ofDouble, Number.ofDouble?]
  | undefined =>
    rw [hdouble] at hnearest
    cases hnearest

/-- **The value of a number text** is null exactly where it stands for an infinite double. -/
theorem value_eq_null {t : NumberText} : t.value = .null ↔ ∃ negative, t.toDouble = .infinite negative := by
  unfold value
  split_ifs with h
  · obtain ⟨hwhole, hlow, hhigh⟩ := h
    have hfinite := toDouble_of_whole (Option.isNone_iff_eq_none.mp hwhole) (natAbs_toInt_le hlow hhigh)
    simp [hfinite, Value.ofInt]
  · exact t.ofDouble_toDouble_eq_null

theorem not_isWord {t : NumberText} (h : t.IsPlain) : ¬ Text.IsWord t.write := by
  have hdigits : ∀ cs, Text.isDigits cs = true → cs.all isNumberChar = true := by
    intro cs hcs
    simp only [Text.isDigits, Bool.and_eq_true, List.all_eq_true] at hcs ⊢
    exact fun c hc => isNumberChar_of_isDigit (hcs.2 c hc)
  have hsign : (sign t.negative).all isNumberChar = true := by cases t.negative <;> decide
  have hplaces : (places t.fraction).all isNumberChar = true := by
    cases hfraction : t.fraction with
    | none => rfl
    | some digits =>
      have hall := hdigits digits (h.fraction digits hfraction)
      simp [places, hall, isNumberChar]
  have hall : t.write.toList.all isNumberChar = true := by
    rw [toList_write, List.all_append, List.all_append, hsign, hdigits _ h.whole, hplaces]
    rfl
  obtain ⟨hnull, htrue, hfalse⟩ := Text.not_same_of_all_isNumberChar hall
  simp [Text.IsWord, hnull, htrue, hfalse]

end NumberText

namespace Coercion

theorem booleanOfNumber_eq_some {x : Double} {b : Bool} :
    booleanOfNumber x = some (.bool b) ↔ x.same (.ofInt b.toInt) = true := by
  have hdiffer : (Double.ofInt 1).same (.ofInt 0) = false := by decide +kernel
  have hone : true.toInt = 1 := rfl
  have hzero : false.toInt = 0 := rfl
  unfold booleanOfNumber
  by_cases h : x.same (.ofInt 1) = true
  · rw [if_pos h]
    cases b with
    | true => simp [hone, h]
    | false => simp [hzero, Double.same_congr h, hdiffer]
  · rw [if_neg h]
    cases b with
    | true => simp [hone, h]
    | false => simp [hzero]

theorem sameIgnoringCase_toString {s : String} {b c : Bool} (h : Text.sameIgnoringCase s (toString b) = true)
    (h' : Text.sameIgnoringCase s (toString c) = true) : b = c := by
  have hwords : ∀ b c : Bool, (toString b).toList.map Char.toLower = (toString c).toList.map Char.toLower → b = c := by
    decide
  exact hwords b c ((of_decide_eq_true h).symm.trans (of_decide_eq_true h'))

/-- **The boolean of a number text** is that of the double it stands for. -/
theorem booleanOfNumber_value (t : NumberText) {b : Bool} :
    t.value.double?.bind booleanOfNumber = some (.bool b) ↔ t.toDouble.same (.ofInt b.toInt) = true := by
  obtain ⟨n, hvalue, hsame⟩ | ⟨hvalue, hinfinite⟩ := t.value_eq
  · rw [hvalue, ← Double.same_congr hsame]
    exact booleanOfNumber_eq_some
  · have hdiffer : t.toDouble.same (.ofInt b.toInt) = false := by
      have hbits : b.toInt.natAbs ≤ 2 ^ 64 := by cases b <;> decide
      rw [Double.ofInt_eq_nearest hbits]
      cases hdouble : t.toDouble with
      | finite x => exact absurd hdouble (hinfinite x)
      | _ => rfl
    rw [hvalue, hdiffer]
    simp [Value.double?]

section
variable {s : String} {b : Bool}

theorem isWord_of_sameIgnoringCase (h : Text.sameIgnoringCase s (toString b) = true) : Text.IsWord s := by
  cases b with
  | true => exact .inr (.inl h)
  | false => exact .inr (.inr h)

theorem toBoolean_of_same (h : Text.sameIgnoringCase s (toString b) = true) :
    toBoolean (.string s) = some (.bool b) := by
  cases b with
  | true => exact if_pos h
  | false =>
    have htrue : ¬ Text.sameIgnoringCase s "true" = true := fun htrue => by
      cases sameIgnoringCase_toString (b := true) htrue h
    exact (if_neg htrue).trans (if_pos h)

theorem toBoolean_of_not_same (h : ∀ c : Bool, ¬ Text.sameIgnoringCase s (toString c) = true) :
    toBoolean (.string s) = (Value.ofNumberText? s).bind fun v => v.double?.bind booleanOfNumber :=
  (if_neg (h true)).trans (if_neg (h false))

/-- **The boolean of a text**: it spells the word for it, or it is a number text that stands for one or zero. -/
theorem toBoolean_string :
    toBoolean (.string s) = some (.bool b) ↔
      Text.sameIgnoringCase s (toString b) = true ∨
        ∃ t : NumberText, t.IsPlain ∧ t.write = s ∧ t.toDouble.same (.ofInt b.toInt) = true := by
  by_cases hword : ∃ c : Bool, Text.sameIgnoringCase s (toString c) = true
  · obtain ⟨c, hc⟩ := hword
    have hplain : ¬ ∃ t : NumberText, t.IsPlain ∧ t.write = s ∧ t.toDouble.same (.ofInt b.toInt) = true := by
      rintro ⟨t, ht, rfl, -⟩
      exact NumberText.not_isWord ht (isWord_of_sameIgnoringCase hc)
    rw [toBoolean_of_same hc, or_iff_left hplain, Option.some.injEq, Value.bool.injEq]
    constructor
    · rintro rfl
      exact hc
    · exact sameIgnoringCase_toString hc
  · have hnot : ∀ c : Bool, ¬ Text.sameIgnoringCase s (toString c) = true := fun c hc => hword ⟨c, hc⟩
    rw [toBoolean_of_not_same hnot, or_iff_right (hnot b), Value.ofNumberText?]
    cases hparse : NumberText.parse? s with
    | none =>
      simp only [Option.map_none, Option.bind_none, reduceCtorEq, false_iff, not_exists, not_and]
      intro t ht hwrite
      rw [NumberText.parse?_eq_some.mpr ⟨ht, hwrite⟩] at hparse
      cases hparse
    | some t =>
      rw [Option.map_some, Option.bind_some, booleanOfNumber_value]
      constructor
      · intro h
        obtain ⟨ht, hwrite⟩ := NumberText.parse?_eq_some.mp hparse
        exact ⟨t, ht, hwrite, h⟩
      · rintro ⟨t', ht', hwrite, h⟩
        rw [NumberText.parse?_eq_some.mpr ⟨ht', hwrite⟩] at hparse
        cases hparse
        exact h

end

end Coercion

namespace Dialect

/-- **How the standard engine reads a text as a number.**  It takes the texts of the plain form and no others.  Such a
text is worth its integer where it has no fraction and the integer is one of 64 bits with a sign, and else the double
nearest to what it writes, which is null where that is infinite.  The operator `isNumber` answers whether the text can
be cast to a number, and the cast to a boolean knows the two words and the texts of the plain form that stand for one or
for zero. -/
theorem standard_reads_numbers (s : String) (sources : Sources) (node : Node) :
    ((Value.ofNumberText? s).isSome = true ↔ s.toList ∈ Grammar.number.matches') ∧
      (∀ t : NumberText, t.IsPlain → t.write = s →
        t.StandsFor t.toDouble ∧
        Value.ofNumberText? s = some
          (if t.fraction = none ∧ -(2 ^ 63 : Int) ≤ t.toInt ∧ t.toInt < 2 ^ 63 then .ofInt t.toInt
          else .ofDouble t.toDouble) ∧
        (Value.ofDouble t.toDouble = .null ↔ ∃ negative, t.toDouble = .infinite negative)) ∧
      (∃ numeric : Bool,
        (standard.evaluate (.array [.string "isNumber", .string s]) sources node {}).result = .ok (.bool numeric) ∧
        (numeric = true ↔ ∃ v, CastTable.standard.cast (.string s) .number = .ok v)) ∧
      ∀ b : Bool, CastTable.standard.cast (.string s) .boolean = .ok (.bool b) ↔
        Text.sameIgnoringCase s (toString b) = true ∨
          ∃ t : NumberText, t.IsPlain ∧ t.write = s ∧ t.toDouble.same (.ofInt b.toInt) = true := by
  have hparsed : (Value.ofNumberText? s).isSome = (NumberText.parse? s).isSome := Option.isSome_map
  refine ⟨?_, fun t ht hwrite => ⟨t.standsFor_toDouble, ?_, t.ofDouble_toDouble_eq_null⟩, ?_, fun b => ?_⟩
  · rw [hparsed]
    exact NumberText.isSome_parse?_iff
  · rw [Value.ofNumberText?, NumberText.parse?_eq_some.mpr ⟨ht, hwrite⟩, Option.map_some, NumberText.value]
    simp only [Option.isNone_iff_eq_none, Nat.pow_eq, Nat.cast_pow, Nat.cast_ofNat]
  · refine ⟨(NumberText.parse? s).isSome, standard_result_of_one (b := .isNumber) rfl rfl rfl rfl rfl, ?_⟩
    simp only [CastTable.standard_cast_of_kind (v := .string s) rfl, ← hparsed]
    exact Option.isSome_iff_exists
  · rw [CastTable.standard_cast_of_kind rfl]
    exact Coercion.toBoolean_string

/-- Leading zeros and a sign: the text is worth the integer. -/
theorem standard_reads_numbers_zeros :
    (⟨true, ['0', '0', '7'], none⟩ : NumberText).IsPlain ∧ Value.ofNumberText? "-007" = some (.ofInt (-7)) := by
  have hplain : (⟨true, ['0', '0', '7'], none⟩ : NumberText).IsPlain := ⟨rfl, nofun⟩
  have hread := (standard_reads_numbers "-007" .none .detached).2.1 _ hplain rfl
  exact ⟨hplain, hread.2.1⟩

end Dialect
end FormLogic
