import FormLogic.Proofs.Accesses
import FormLogic.Proofs.DecimalValues
/-!
# Number texts read exactly

`Text.toRat?` reads a number text without rounding, also one with a power of ten behind the mark `e`.  So read, the
plain text of a double is its shortest decimal, whichever layout it is in; which one that is depends on the exponent
alone (`Layout.plain_writeFinite_of_ne_zero`).
-/
namespace FormLogic

namespace Text

/-- **The power of ten of a text**: a sign, which is never left out, and digits. -/
def power? : List Char → Option Int
  | '+' :: digits => if isDigits digits then some (natOfDigits digits) else none
  | '-' :: digits => if isDigits digits then some (-(natOfDigits digits : Int)) else none
  | _ => none

/-- **The number that a text writes exactly**: a text of the plain form, or one with the mark `e` and a power of ten
behind it. -/
def toRat? (text : List Char) : Option ℚ :=
  let number := (NumberText.parse? (String.ofList (text.takeWhile (· ≠ 'e')))).map NumberText.toRat
  match text.dropWhile (· ≠ 'e') with
  | [] => number
  | _ :: power => do return (← number) * 10 ^ (← power? power)

example : toRat? "-2.5e+21".toList = some (-2500000000000000000000) := by decide +kernel

theorem power?_write (exponent : Int) :
    power? ((if exponent < 0 then '-' else '+') :: Nat.toDigits 10 exponent.natAbs) = some exponent := by
  have hvalue : ((natOfDigits (Nat.toDigits 10 exponent.natAbs) : Nat) : Int) = exponent.natAbs := by
    rw [natOfDigits_toDigits]
  by_cases hneg : exponent < 0
  · rw [if_pos hneg, power?, if_pos (isDigits_toDigits _), hvalue]
    exact congrArg some (by omega)
  · rw [if_neg hneg, power?, if_pos (isDigits_toDigits _), hvalue]
    exact congrArg some (by omega)

end Text

namespace NumberText

variable {t : NumberText}

/-- The mark of an exponent is no character of a text of the plain form. -/
theorem mark_not_mem_write (h : t.IsPlain) : 'e' ∉ t.write.toList := by
  have hdigits : ∀ cs : List Char, Text.isDigits cs = true → 'e' ∉ cs := by
    intro cs hcs hmem
    exact absurd (List.all_eq_true.mp (Bool.and_eq_true_iff.mp hcs).2 _ hmem) (by decide)
  have hsign : 'e' ∉ sign t.negative := by cases t.negative <;> decide
  have hplaces : 'e' ∉ places t.fraction := by
    cases hfraction : t.fraction with
    | none => exact List.not_mem_nil
    | some digits => simpa [places] using hdigits digits (h.fraction digits hfraction)
  rw [toList_write, List.mem_append, List.mem_append]
  simp [hsign, hdigits _ h.whole, hplaces]

theorem parse?_write (h : t.IsPlain) : parse? (String.ofList t.write.toList) = some t := by
  rw [String.ofList_toList]
  exact parse?_eq_some.mpr ⟨h, rfl⟩

theorem ne_mark_of_mem_write (h : t.IsPlain) : ∀ c ∈ t.write.toList, decide (c ≠ 'e') = true := by
  intro c hc
  apply decide_eq_true
  rintro rfl
  exact mark_not_mem_write h hc

theorem toRat?_write (h : t.IsPlain) : Text.toRat? t.write.toList = some t.toRat := by
  have hmark := ne_mark_of_mem_write h
  rw [Text.toRat?, List.dropWhile_eq_nil_iff.mpr hmark, List.takeWhile_eq_self_iff.mpr hmark, parse?_write h]
  rfl

theorem toRat?_write_power (h : t.IsPlain) (exponent : Int) :
    Text.toRat? (t.write.toList ++ 'e' :: (if exponent < 0 then '-' else '+') :: Nat.toDigits 10 exponent.natAbs)
      = some (t.toRat * 10 ^ exponent) := by
  have hmark := ne_mark_of_mem_write h
  rw [Text.toRat?, List.dropWhile_append_of_pos hmark, List.takeWhile_append_of_pos hmark,
    List.dropWhile_cons_of_neg (by simp), List.takeWhile_cons_of_neg (by simp), List.append_nil, parse?_write h]
  dsimp only [Option.map_some]
  rw [Text.power?_write]
  rfl

end NumberText

namespace Layout

open NumberText (sign)

/-- **A decimal with an exponent** has one digit before the point, and the point only before further digits. -/
theorem writeScientific_cons (first : Char) (rest : List Char) (exponent : Int) :
    writeScientific ⟨first :: rest, exponent⟩ = first :: (if rest = [] then [] else '.' :: rest) ++
      'e' :: (if exponent < 0 then '-' else '+') :: Nat.toDigits 10 exponent.natAbs := by
  cases rest <;> rfl

/-- **A decimal with an exponent** is read as itself. -/
theorem toRat?_writeScientific {first : Char} {rest : List Char} {exponent : Int}
    (hd : Decimal.IsReduced ⟨first :: rest, exponent⟩) (negative : Bool) :
    Text.toRat? (sign negative ++ writeScientific ⟨first :: rest, exponent⟩)
      = some (signFactor negative * Decimal.toRat ⟨first :: rest, exponent⟩) := by
  obtain ⟨t, hplain, hwrite, hvalue⟩ : ∃ t : NumberText, t.IsPlain ∧
      t.write.toList = sign negative ++ first :: (if rest = [] then [] else '.' :: rest) ∧
      t.toRat = signFactor negative * (Text.natOfDigits (first :: rest) / 10 ^ rest.length) := by
    have hfirst : Text.isDigits [first] = true := hd.isDigits_of_subset (List.cons_ne_nil _ _) (by simp)
    by_cases hrest : rest = []
    · subst hrest
      exact ⟨⟨negative, [first], none⟩, ⟨hfirst, nofun⟩, by simp [NumberText.toList_write, NumberText.places], rfl⟩
    · have hplaces : Text.isDigits rest = true := hd.isDigits_of_subset hrest (List.subset_cons_self _ _)
      exact ⟨⟨negative, [first], some rest⟩, ⟨hfirst, by simpa using hplaces⟩,
        by simp [NumberText.toList_write, NumberText.places, hrest], rfl⟩
  rw [writeScientific_cons, ← List.append_assoc, ← hwrite, NumberText.toRat?_write_power hplain, hvalue, mul_assoc]
  rfl

/-- **The plain text of a double other than zero**, by its shortest decimal `d₁.d₂…dₖ · 10 ^ exponent`, of which neither
the first nor the last digit is a zero.  Read exactly, it is this decimal with the sign of the double.  From `10 ^ -6`
to below `10 ^ 21` it is a number text, without a superfluous zero; anywhere else it is not of that form, but the first
digit, a point and the other digits where there are any, and the exponent with its sign.  To write it, no text is taken
apart at a place that it does not have, and no negative number of zeros is asked for. -/
theorem plain_writeFinite_of_ne_zero {x : FiniteDouble} (hx : x.units ≠ 0) :
    ∃ (first : Char) (rest : List Char) (exponent : Int),
      shortestDecimal .up x.units = ⟨first :: rest, exponent⟩ ∧
      Decimal.IsReduced ⟨first :: rest, exponent⟩ ∧
      Text.toRat? (plain.writeFinite x).toList
        = some (signFactor x.negative * (Text.natOfDigits (first :: rest) / 10 ^ rest.length * 10 ^ exponent)) ∧
      ((plain.writeFinite x).toList ∈ Grammar.number.matches' ↔ -6 ≤ exponent ∧ exponent ≤ 20) ∧
      (∀ t : NumberText, t.IsPlain → t.write = plain.writeFinite x → t.IsTidy) ∧
      (¬ (-6 ≤ exponent ∧ exponent ≤ 20) → (plain.writeFinite x).toList =
        sign x.negative ++ (first :: (if rest = [] then [] else '.' :: rest) ++
          'e' :: (if exponent < 0 then '-' else '+') :: Nat.toDigits 10 exponent.natAbs)) ∧
      Access.plainFinite x = .ok (plain.writeFinite x) := by
  have hd := shortestDecimal_isReduced .up hx
  have hwrite : (plain.writeFinite x).toList = sign x.negative ++ plain.write (shortestDecimal .up x.units) := by
    rw [plain.writeFinite_of_ne_zero hx, String.toList_ofList]
    rfl
  generalize shortestDecimal .up x.units = d at hd hwrite
  obtain ⟨digits, exponent⟩ := d
  obtain ⟨first, rest, rfl⟩ := List.exists_cons_of_ne_nil hd.ne_nil
  refine ⟨first, rest, exponent, rfl, hd, ?_⟩
  by_cases hrange : -6 ≤ exponent ∧ exponent ≤ 20
  · have hlayout : plain.wholeFraction = false := rfl
    obtain ⟨t, hplain, htidy, htext, hvalue⟩ := isTidyText_writePositional hd hlayout x.negative
    rw [Access.plain_write_positional hrange] at hwrite
    rw [← hwrite] at htext
    refine ⟨?_, iff_of_true ?_ hrange, fun t' hplain' htext' => ?_, fun h => absurd hrange h, Access.plainFinite_eq x⟩
    · rw [← htext, NumberText.toRat?_write hplain, hvalue]
      rfl
    · exact NumberText.mem_number_iff.mpr ⟨t, hplain, htext⟩
    · rw [String.toList_inj] at htext
      have hparse := NumberText.parse?_eq_some.mpr ⟨hplain, htext⟩
      rw [NumberText.parse?_eq_some.mpr ⟨hplain', htext'⟩] at hparse
      cases hparse
      exact htidy
  · rw [Access.plain_write_scientific hrange] at hwrite
    have hmark : 'e' ∈ (plain.writeFinite x).toList := by
      rw [hwrite, writeScientific_cons]
      simp
    refine ⟨?_, iff_of_false ?_ hrange, fun t' hplain' htext' => ?_, fun _ => ?_, Access.plainFinite_eq x⟩
    · rw [hwrite, toRat?_writeScientific hd]
      rfl
    · intro hmem
      obtain ⟨t, hplain, htext⟩ := NumberText.mem_number_iff.mp hmem
      rw [← htext] at hmark
      exact NumberText.mark_not_mem_write hplain hmark
    · rw [← htext'] at hmark
      exact absurd hmark (NumberText.mark_not_mem_write hplain')
    · rw [hwrite, writeScientific_cons]

/-- The negative one of the least doubles. -/
theorem plain_writeFinite_of_ne_zero_least :
    ∃ least : Representable 1, (⟨true, 1, least⟩ : FiniteDouble).units ≠ 0 ∧
      (plain.writeFinite ⟨true, 1, least⟩).toList = "-5e-324".toList ∧
      (plain.writeFinite ⟨true, 1, least⟩).toList ∉ Grammar.number.matches' ∧
      Text.toRat? (plain.writeFinite ⟨true, 1, least⟩).toList = some (-(5 * 10 ^ (-324 : Int))) := by
  have least : Representable 1 := by decide +kernel
  have hne : (⟨true, 1, least⟩ : FiniteDouble).units ≠ 0 := Nat.one_ne_zero
  have hshortest : shortestDecimal .up 1 = ⟨['5'], -324⟩ := by decide +kernel
  obtain ⟨first, rest, exponent, hd, -, hvalue, hplain, -, htext, -⟩ := plain_writeFinite_of_ne_zero hne
  cases hshortest.symm.trans hd
  have hrange : ¬ (-6 ≤ (-324 : Int) ∧ (-324 : Int) ≤ 20) := by decide
  refine ⟨least, hne, htext hrange, fun hmem => hrange (hplain.mp hmem), ?_⟩
  have hfive : Text.natOfDigits ['5'] = 5 := rfl
  rw [hvalue, hfive]
  simp [signFactor]

end Layout
end FormLogic
