import FormLogic.Proofs.IntegerTexts
import FormLogic.Proofs.WholeDecimals
/-!
# Integers formatted

An operator on numbers sees the double nearest to an integer, and the plain text of that is the roundest of the integers
that it stands for.  A cast to a text sees the integer itself.  So the two make the same text of an integer exactly
where it is the roundest one of its double, which it is at least up to `2 ^ 53`
(`Dialect.standard_formatNumber_integer`).
-/
namespace FormLogic

section
variable {n : Int}

theorem isRoundest_zero : IsRoundest (wholeUnits 0) 0 := by
  have hzero : ∀ i, wholeUnits i = wholeUnits 0 → i = 0 := by
    intro i hi
    rw [wholeUnits_zero] at hi
    by_contra hne
    exact absurd hi (Nat.ne_of_gt (wholeUnits_pos (Nat.pos_of_ne_zero hne)))
  refine ⟨rfl, fun i _ k _ => Nat.dvd_zero _, fun i hi _ => ?_⟩
  rw [hzero i hi]
  exact ⟨Nat.le_refl _, fun _ => Nat.le_refl _⟩

/-- **The shortest decimal of a nearest double**, laid out as plain text, is the roundest number in full. -/
theorem exists_isRoundest {a : Nat} (hpos : 0 < a) (hbits : a ≤ 2 ^ 64) :
    ∃ m, 0 < m ∧ IsRoundest (wholeUnits a) m ∧
      Layout.plain.write (shortestDecimal .up (wholeUnits a)) = Nat.toDigits 10 m := by
  have hone : 0 < oneInUnits := oneInUnits_pos
  have hunits : 0 < wholeUnits a := wholeUnits_pos hpos
  have hdvd := spacing_dvd_wholeUnits a
  have hgreatest : wholeUnits a ≤ 2 ^ 64 * oneInUnits := by
    rw [← wholeUnits_two_pow]
    exact wholeUnits_mono hbits
  obtain ⟨n, hn⟩ := exists_whole a
  rw [hn] at hunits hdvd hgreatest ⊢
  have hlow : 0 < n := Nat.pos_of_mul_pos_right hunits
  have hhigh : n ≤ 2 ^ 64 := Nat.le_of_mul_le_mul_right hgreatest hone
  have hlength : (Nat.toDigits 10 n).length ≤ 20 :=
    (Nat.length_toDigits_le_iff (by decide) (by decide)).mpr (Nat.lt_of_le_of_lt hhigh (by decide))
  obtain ⟨c, p, hshortest, hround⟩ := isRoundest_shortestDecimal (wholeUnits_of_dvd hdvd) hlow hlength
  have hm : 0 < c * 10 ^ p := by
    refine Nat.pos_of_ne_zero fun hzero => ?_
    have hsame := hround.same
    rw [hzero, wholeUnits_zero] at hsame
    exact absurd hsame (Nat.ne_of_lt hunits)
  have hsmall : c * 10 ^ p < 10 ^ 21 := by
    refine Nat.lt_of_not_le fun hle => ?_
    have hmono := wholeUnits_mono hle
    rw [hround.same, wholeUnits_pow_ten (by decide)] at hmono
    exact absurd (Nat.le_trans (Nat.le_of_mul_le_mul_right hmono hone) hhigh) (by decide)
  exact ⟨_, hm, hround, by rw [hshortest, Layout.plain_write_whole (Nat.pos_of_mul_pos_right hm) hsmall]⟩

theorem NumberText.ofInt_sign_mul {m : Nat} (hn : n ≠ 0) (hm : 0 < m) :
    ofInt (n.sign * m) = ⟨decide (n < 0), Nat.toDigits 10 m, none⟩ := by
  have habs : (n.sign * m).natAbs = m := by
    rw [Int.natAbs_mul, Int.natAbs_sign_of_ne_zero hn, Nat.one_mul, Int.natAbs_natCast]
  have hsign : n.sign * m < 0 ↔ n < 0 := by
    rcases Int.lt_or_gt_of_ne hn with hneg | hpos
    · rw [Int.sign_eq_neg_one_of_neg hneg]
      omega
    · rw [Int.sign_eq_one_of_pos hpos]
      omega
  rw [ofInt, habs, decide_eq_decide.mpr hsign]

/-- **The plain text of the double nearest to an integer** is the roundest integer of this double. -/
theorem Layout.plain_writeDouble_ofInt (h : n.natAbs ≤ 2 ^ 64) :
    ∃ m : Nat, IsRoundest (wholeUnits n.natAbs) m ∧ plain.writeDouble (.ofInt n) = toString (n.sign * m) := by
  rw [Double.ofInt_eq_nearest h, writeDouble]
  by_cases hzero : n = 0
  · subst hzero
    have hunits : (FiniteDouble.nearest 0 h).units = 0 := by
      rw [FiniteDouble.units_nearest, Int.natAbs_zero, wholeUnits_zero]
    refine ⟨0, ?_, plain_writeFinite_zero hunits⟩
    rw [Int.natAbs_zero]
    exact isRoundest_zero
  · obtain ⟨m, hm, hround, hwrite⟩ := exists_isRoundest (Int.natAbs_pos.mpr hzero) h
    have hunits : (FiniteDouble.nearest n h).units ≠ 0 := by
      rw [FiniteDouble.units_nearest]
      exact Nat.ne_of_gt (wholeUnits_pos (Int.natAbs_pos.mpr hzero))
    have hbody : plain.write (shortestDecimal plain.tie (FiniteDouble.nearest n h).units) = Nat.toDigits 10 m := hwrite
    refine ⟨m, hround, ?_⟩
    rw [plain.writeFinite_of_ne_zero hunits, hbody, ← NumberText.write_ofInt, NumberText.ofInt_sign_mul hzero hm,
      ← String.toList_inj, NumberText.toList_write, String.toList_ofList]
    exact congrArg _ (List.append_nil _).symm

namespace Dialect

variable {sources : Sources} {node : Node}

/-- **One integer joined** is its text. -/
theorem standard_concat_integer (i : Int) :
    (standard.evaluate (.array [.string "concat", .ofInt i]) sources node {}).result = .ok (.string (toString i)) := by
  have hargument : (evaluateArgument (standard.rules defaultMaxDepth) ⟨sources, node, []⟩ [] Builtin.concat.name
      Builtin.concat.signature 0 (.ofInt i)).outcome = .ok (.string (toString i)) :=
    evaluateArgument_literal rfl rfl rfl
  have hjoined : Strings.concat [.string (toString i)] = .string (toString i) := by
    show Value.string (String.join [toString i]) = _
    rw [String.join_cons, String.join_nil, String.append_empty]
  exact result_of_evaluate (evaluate_builtin (b := .concat) rfl (Nat.zero_le _) rfl
    (evaluateArguments_cons_of_ok hargument rfl) (congrArg Except.ok hjoined)
    (CastTable.standard_cast_toString_settled i))

theorem standard_formatNumber_of_host {text : String} (hhost : sources.formatNumber (.ofInt n) = none)
    (htext : Layout.plain.writeDouble (.ofInt n) = text)
    (hsettled : CastTable.standard.cast (.string text) .string = .ok (.string text)) :
    (standard.evaluate (.array [.string "formatNumber", .ofInt n]) sources node {}).result = .ok (.string text) := by
  have hrun : Builtin.formatNumber.run [.ofInt n] ⟨sources, node, []⟩ = .ok (.string text) := by
    show Except.ok (Lookup.formatNumber [.ofInt n] ⟨sources, node, []⟩) = _
    have hnumber : Arguments.number? [.ofInt n] 0 = some (.ofInt n) := rfl
    simp only [Lookup.formatNumber, hnumber, hhost, Option.getD_none, htext]
  exact standard_result_of_one (b := .formatNumber) rfl rfl rfl hrun hsettled

/-- **The two texts of an integer**, where the host does not write numbers itself.  The cast, and what is joined, has
the digits of the integer.  What is formatted has the digits of the roundest number of its double, with the sign of the
integer.  The two are the same text exactly where the integer is that number itself, as all are up to `2 ^ 53`. -/
theorem standard_formatNumber_integer (h : Number.InRange n) (hhost : sources.formatNumber (.ofInt n) = none)
    (node : Node) :
    ∃ m : Nat, IsRoundest (wholeUnits n.natAbs) m ∧
      (standard.evaluate (.array [.string "formatNumber", .ofInt n]) sources node {}).result
        = .ok (.string (toString (n.sign * m))) ∧
      (standard.evaluate (.array [.string "concat", .ofInt n]) sources node {}).result = .ok (.string (toString n)) ∧
      CastTable.standard.cast (.ofInt n) .string = .ok (.string (toString n)) ∧
      (toString (n.sign * m) = toString n ↔ IsRoundest (wholeUnits n.natAbs) n.natAbs) ∧
      (n.natAbs ≤ 2 ^ 53 → m = n.natAbs) := by
  obtain ⟨m, hround, htext⟩ := Layout.plain_writeDouble_ofInt h.natAbs_le
  have hsettled := CastTable.standard_cast_toString_settled (n.sign * m)
  refine ⟨m, hround, standard_formatNumber_of_host hhost htext hsettled, standard_concat_integer n, rfl, ?_,
    hround.eq_of_le⟩
  rw [toString_inj]
  constructor
  · intro heq
    have hm : m = n.natAbs := by
      by_cases hzero : n = 0
      · exact hround.eq_of_le (by omega)
      · have habs := congrArg Int.natAbs heq
        rwa [Int.natAbs_mul, Int.natAbs_sign_of_ne_zero hzero, Nat.one_mul, Int.natAbs_natCast] at habs
    subst hm
    exact hround
  · intro hself
    rw [hround.unique hself, Int.sign_mul_natAbs]

/-- The last integer below zero up to which the two are always the same. -/
theorem standard_formatNumber_integer_exact :
    Number.InRange (-9007199254740992) ∧ Sources.none.formatNumber (.ofInt (-9007199254740992)) = none ∧
      (standard.evaluate (.array [.string "formatNumber", .ofInt (-9007199254740992)]) .none .detached {}).result
        = .ok (.string "-9007199254740992") := by
  have hrange : Number.InRange (-9007199254740992) := by decide
  have hhost : Sources.none.formatNumber (.ofInt (-9007199254740992)) = none := rfl
  obtain ⟨m, -, hformat, -, -, -, hexact⟩ := standard_formatNumber_integer hrange hhost .detached
  rw [hexact (by decide)] at hformat
  exact ⟨hrange, hhost, hformat⟩

/-- The next integer above has the text of its neighbour when it is formatted, and its own when it is joined. -/
theorem standard_formatNumber_integer_neighbour :
    Number.InRange 9007199254740993 ∧ Sources.none.formatNumber (.ofInt 9007199254740993) = none ∧
      (standard.evaluate (.array [.string "formatNumber", .ofInt 9007199254740993]) .none .detached {}).result
        = .ok (.string "9007199254740992") ∧
      (standard.evaluate (.array [.string "concat", .ofInt 9007199254740993]) .none .detached {}).result
        = .ok (.string "9007199254740993") := by
  have hhost : Sources.none.formatNumber (.ofInt 9007199254740993) = none := rfl
  have htext : Layout.plain.writeDouble (.ofInt 9007199254740993) = "9007199254740992" := by decide +kernel
  have hsettled := CastTable.standard_cast_toString_settled 9007199254740992
  exact ⟨by decide, hhost, standard_formatNumber_of_host hhost htext hsettled, standard_concat_integer _⟩

end Dialect
end
end FormLogic
