import FormLogic.Proofs.IntegerTexts
/-!
# Integers compared

Equality compares the texts of two numbers, and different integers have different texts.  The orders compare the doubles
nearest to the numbers, and past `2 ^ 53` neighbouring integers share one.  So equality always agrees with the integers
themselves, and an order agrees with them where it can tell them apart (`Dialect.standard_compares_integers`).
-/
namespace FormLogic

namespace FiniteDouble

section
variable {a b : Int} {ha : a.natAbs ≤ 2 ^ 64} {hb : b.natAbs ≤ 2 ^ 64}

/-- **The doubles nearest to two integers** are never in the opposite order. -/
theorem signedUnits_nearest_mono (ha : a.natAbs ≤ 2 ^ 64) (hb : b.natAbs ≤ 2 ^ 64) (h : a ≤ b) :
    (nearest a ha).signedUnits ≤ (nearest b hb).signedUnits := by
  rw [signedUnits_nearest, signedUnits_nearest]
  split_ifs with hna hnb hnb
  · have hle : wholeUnits b.natAbs ≤ wholeUnits a.natAbs := wholeUnits_mono (by omega)
    omega
  · omega
  · omega
  · have hle : wholeUnits a.natAbs ≤ wholeUnits b.natAbs := wholeUnits_mono (by omega)
    omega

theorem nearest_eq_of_signedUnits (h : (nearest a ha).signedUnits = (nearest b hb).signedUnits) :
    nearest a ha = nearest b hb := by
  have hsign : a < 0 ↔ b < 0 := by
    have hpos : ∀ i : Int, i < 0 → 0 < wholeUnits i.natAbs := fun i hi => wholeUnits_pos (by omega)
    have hposa := hpos a
    have hposb := hpos b
    rw [signedUnits_nearest, signedUnits_nearest] at h
    split_ifs at h <;> omega
  have hunits : wholeUnits a.natAbs = wholeUnits b.natAbs := by
    rw [signedUnits_nearest, signedUnits_nearest] at h
    split_ifs at h <;> omega
  exact eq_of_parts (decide_eq_decide.mpr hsign) hunits

end
end FiniteDouble

namespace Double

section
variable {a b : Int}

section
variable (ha : a.natAbs ≤ 2 ^ 64) (hb : b.natAbs ≤ 2 ^ 64)
include ha hb

theorem same_ofInt : (ofInt a).same (ofInt b) = decide (ofInt a = ofInt b) := by
  rw [ofInt_eq_nearest ha, ofInt_eq_nearest hb, Bool.eq_iff_iff]
  simp only [same, FiniteDouble.same, decide_eq_true_eq, finite.injEq]
  exact ⟨FiniteDouble.nearest_eq_of_signedUnits, congrArg FiniteDouble.signedUnits⟩

/-- **The order of the nearest doubles** is that of the integers, as far as the doubles differ. -/
theorem lt_ofInt : (ofInt a).lt (ofInt b) = decide (a < b ∧ ofInt a ≠ ofInt b) := by
  rw [ofInt_eq_nearest ha, ofInt_eq_nearest hb, Bool.eq_iff_iff]
  simp only [lt, decide_eq_true_eq, ne_eq, finite.injEq]
  constructor
  · intro hlt
    refine ⟨?_, fun heq => ?_⟩
    · by_contra hle
      have hmono := FiniteDouble.signedUnits_nearest_mono hb ha (Int.not_lt.mp hle)
      omega
    · rw [heq] at hlt
      exact Int.lt_irrefl _ hlt
  · rintro ⟨hlt, hne⟩
    have hmono := FiniteDouble.signedUnits_nearest_mono ha hb (Int.le_of_lt hlt)
    exact Int.lt_iff_le_and_ne.mpr ⟨hmono, fun heq => hne (FiniteDouble.nearest_eq_of_signedUnits heq)⟩

theorem le_ofInt : (ofInt a).le (ofInt b) = decide (a ≤ b ∨ ofInt a = ofInt b) := by
  have hle : a ≤ b → a < b ∨ ofInt a = ofInt b := fun h => (Int.lt_or_eq_of_le h).imp_right (congrArg ofInt)
  rw [le, lt_ofInt ha hb, same_ofInt ha hb, Bool.eq_iff_iff]
  simp only [Bool.or_eq_true, decide_eq_true_eq]
  constructor
  · rintro (⟨hlt, -⟩ | heq)
    · exact .inl (Int.le_of_lt hlt)
    · exact .inr heq
  · intro h
    by_cases heq : ofInt a = ofInt b
    · exact .inr heq
    · have hlt : a < b := (hle (h.resolve_right heq)).resolve_right heq
      exact .inl ⟨hlt, heq⟩

end

/-- **Up to `2 ^ 53` different integers are different doubles.** -/
theorem ofInt_injective (ha : a.natAbs ≤ 2 ^ 53) (hb : b.natAbs ≤ 2 ^ 53) (h : ofInt a = ofInt b) : a = b := by
  have hbits : (2 ^ 53 : Nat) ≤ 2 ^ 64 := by decide
  rw [ofInt_eq_nearest (Nat.le_trans ha hbits), ofInt_eq_nearest (Nat.le_trans hb hbits), finite.injEq] at h
  have hsign : decide (a < 0) = decide (b < 0) := congrArg FiniteDouble.negative h
  have hunits : wholeUnits a.natAbs = wholeUnits b.natAbs := congrArg FiniteDouble.units h
  rw [wholeUnits_exact ha, wholeUnits_exact hb] at hunits
  have habs : a.natAbs = b.natAbs := Nat.eq_of_mul_eq_mul_right oneInUnits_pos hunits
  have hneg : a < 0 ↔ b < 0 := decide_eq_decide.mp hsign
  omega

end
end Double

section
variable {a b : Int}

theorem Value.same_toString : (Value.string (toString a)).same (.string (toString b)) = decide (a = b) := by
  rw [Bool.eq_iff_iff]
  simp only [Value.same, Value.agree, beq_iff_eq, decide_eq_true_eq, toString_inj]

namespace Dialect

/-- **An order of two integers**, asked for as a request, is that of the doubles nearest to them. -/
theorem standard_result_of_integers (operator : Builtin) {relation : Double → Double → Bool}
    (hsignature : operator.signature = .fixed [.number, .number] .boolean)
    (hrun : ∀ args scope, operator.run args scope = .ok (.bool (Comparison.compare relation args))) (a b : Int)
    {sources : Sources} {node : Node} :
    (standard.evaluate (.array [.string operator.name, .ofInt a, .ofInt b]) sources node {}).result =
      .ok (.bool (relation (.ofInt a) (.ofInt b))) :=
  standard_result_of_two hsignature rfl rfl rfl rfl (hrun _ _) rfl

/-- **How two integers compare.**  They are equal exactly when they are the same integer.  One is below the other
exactly when it is so as an integer and the doubles nearest to the two differ, and at most the other when it is so as an
integer or the doubles are the same.  The doubles of different integers differ at least up to `2 ^ 53`. -/
theorem standard_compares_integers (ha : Number.InRange a) (hb : Number.InRange b) (sources : Sources) (node : Node) :
    (standard.evaluate (.array [.string "equals", .ofInt a, .ofInt b]) sources node {}).result
        = .ok (.bool (a = b)) ∧
      (standard.evaluate (.array [.string "lessThan", .ofInt a, .ofInt b]) sources node {}).result
        = .ok (.bool (a < b ∧ Double.ofInt a ≠ .ofInt b)) ∧
      (standard.evaluate (.array [.string "greaterThan", .ofInt a, .ofInt b]) sources node {}).result
        = .ok (.bool (b < a ∧ Double.ofInt b ≠ .ofInt a)) ∧
      (standard.evaluate (.array [.string "lessThanEq", .ofInt a, .ofInt b]) sources node {}).result
        = .ok (.bool (a ≤ b ∨ Double.ofInt a = .ofInt b)) ∧
      (a.natAbs ≤ 2 ^ 53 → b.natAbs ≤ 2 ^ 53 → a ≠ b → Double.ofInt a ≠ .ofInt b) := by
  have hbitsa := ha.natAbs_le
  have hbitsb := hb.natAbs_le
  refine ⟨?_, ?_, ?_, ?_, fun hexacta hexactb hne heq => hne (Double.ofInt_injective hexacta hexactb heq)⟩
  · rw [← Value.same_toString]
    exact standard_result_of_two (b := .equals) rfl rfl rfl rfl rfl rfl rfl
  · rw [← Double.lt_ofInt hbitsa hbitsb]
    exact standard_result_of_integers .lessThan rfl (fun _ _ => rfl) a b
  · rw [← Double.lt_ofInt hbitsb hbitsa]
    exact standard_result_of_integers .greaterThan rfl (fun _ _ => rfl) a b
  · rw [← Double.le_ofInt hbitsa hbitsb]
    exact standard_result_of_integers .lessThanEq rfl (fun _ _ => rfl) a b

/-- Past `2 ^ 53` two neighbours may still be told apart. -/
theorem standard_compares_integers_apart :
    Number.InRange 9007199254740993 ∧ Number.InRange 9007199254740994 ∧
      (standard.evaluate (.array [.string "lessThan", .ofInt 9007199254740993, .ofInt 9007199254740994])
        .none .detached {}).result = .ok (.bool true) := by
  have ha : Number.InRange 9007199254740993 := by decide
  have hb : Number.InRange 9007199254740994 := by decide
  have hless := (standard_compares_integers ha hb .none .detached).2.1
  have hdiffer : Double.ofInt 9007199254740993 ≠ .ofInt 9007199254740994 := by decide +kernel
  rw [decide_eq_true ⟨by decide, hdiffer⟩] at hless
  exact ⟨ha, hb, hless⟩

/-- Two neighbours with the same nearest double: none of the three comparisons holds of them. -/
theorem standard_compares_integers_alike :
    Number.InRange 9007199254740992 ∧ Number.InRange 9007199254740993 ∧
      (standard.evaluate (.array [.string "lessThan", .ofInt 9007199254740992, .ofInt 9007199254740993])
        .none .detached {}).result = .ok (.bool false) ∧
      (standard.evaluate (.array [.string "equals", .ofInt 9007199254740992, .ofInt 9007199254740993])
        .none .detached {}).result = .ok (.bool false) ∧
      (standard.evaluate (.array [.string "greaterThan", .ofInt 9007199254740992, .ofInt 9007199254740993])
        .none .detached {}).result = .ok (.bool false) := by
  have hless : (Double.ofInt 9007199254740992).lt (.ofInt 9007199254740993) = false := by decide +kernel
  have hgreater : (Double.ofInt 9007199254740993).lt (.ofInt 9007199254740992) = false := by decide +kernel
  refine ⟨by decide, by decide, ?_, rfl, ?_⟩
  · rw [← hless]
    exact standard_result_of_integers .lessThan rfl (fun _ _ => rfl) _ _
  · rw [← hgreater]
    exact standard_result_of_integers .greaterThan rfl (fun _ _ => rfl) _ _

end Dialect
end
end FormLogic
