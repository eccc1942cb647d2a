import FormLogic.Number
import FormLogic.Text.Case
/-!
# The characters of number texts

The text of a number is made of digits, signs, the point and the mark of the exponent, in every layout.  So no number
is written as one of the words `null`, `true` and `false` (`Number.text_not_same`).
-/
namespace FormLogic

/-- **The characters that number texts are made of.** -/
def isNumberChar (c : Char) : Bool := c.isDigit || c = '-' || c = '+' || c = '.' || c = 'e'

theorem isNumberChar_of_isDigit {c : Char} (h : c.isDigit = true) : isNumberChar c = true := by
  simp only [isNumberChar, h, Bool.true_or]

theorem all_isNumberChar_toDigits (n : Nat) : (Nat.toDigits 10 n).all isNumberChar = true :=
  List.all_eq_true.mpr fun _ hc => isNumberChar_of_isDigit (Nat.isDigit_of_mem_toDigits (by decide) (by decide) hc)

namespace Decimal

theorem mem_of_mem_dropZeros {digits : List Char} {c : Char} (h : c ∈ dropZeros digits) : c ∈ digits := by
  have h : c ∈ digits.reverse.dropWhile (· = '0') := List.mem_reverse.mp h
  exact List.mem_reverse.mp ((List.dropWhile_sublist _).subset h)

theorem all_isNumberChar_ofCoefficient (coefficient : Nat) (power : Int) :
    (ofCoefficient coefficient power).digits.all isNumberChar = true :=
  List.all_eq_true.mpr fun c hc =>
    List.all_eq_true.mp (all_isNumberChar_toDigits coefficient) c (mem_of_mem_dropZeros hc)

end Decimal

theorem shortestWith_eq_some {tie : Tie} {n digits : Nat} {d : Decimal} (h : shortestWith tie n digits = some d) :
    ∃ coefficient power, d = .ofCoefficient coefficient power := by
  unfold shortestWith at h
  obtain ⟨coefficient, -, rfl⟩ := Option.map_eq_some_iff.mp h
  exact ⟨coefficient, _, rfl⟩

/-- The shortest decimal is found on a grid, whatever the tie. -/
theorem shortestDecimal_eq (tie : Tie) (n : Nat) :
    ∃ coefficient power, shortestDecimal tie n = .ofCoefficient coefficient power := by
  unfold shortestDecimal
  cases h : (List.range 17).findSome? fun k => shortestWith tie n (k + 1) with
  | none => exact ⟨_, _, rfl⟩
  | some d =>
    obtain ⟨k, -, hk⟩ := List.exists_of_findSome?_eq_some h
    exact shortestWith_eq_some hk

namespace Layout

theorem all_isNumberChar_zeros (count : Nat) : (zeros count).all isNumberChar = true := by
  simp [zeros, isNumberChar]

theorem all_isNumberChar_write (layout : Layout) {d : Decimal} (hd : d.digits.all isNumberChar = true) :
    (layout.write d).all isNumberChar = true := by
  have htake : ∀ n, (d.digits.take n).all isNumberChar = true := fun n =>
    List.all_eq_true.mpr fun c hc => List.all_eq_true.mp hd c (List.mem_of_mem_take hc)
  have hdrop : ∀ n, (d.digits.drop n).all isNumberChar = true := fun n =>
    List.all_eq_true.mpr fun c hc => List.all_eq_true.mp hd c (List.mem_of_mem_drop hc)
  unfold write
  split
  · unfold writePositional
    dsimp only
    split
    · rw [List.all_append, List.all_append, hd, all_isNumberChar_zeros]
      split <;> decide
    · split
      · rw [List.all_append, List.all_cons, htake, hdrop]
        decide
      · rw [List.all_append, List.all_cons, List.all_cons, hd, all_isNumberChar_zeros]
        decide
  · unfold writeScientific
    dsimp only
    rw [List.all_append, List.all_append, List.all_cons, List.all_cons, htake, all_isNumberChar_toDigits]
    split
    · split <;> decide
    · rw [List.all_cons, hdrop]
      split <;> decide

theorem all_isNumberChar_writeFinite (layout : Layout) (x : FiniteDouble) :
    (layout.writeFinite x).toList.all isNumberChar = true := by
  have hbody : (if x.units = 0 then (if layout.wholeFraction then ['0', '.', '0'] else ['0'])
      else layout.write (shortestDecimal layout.tie x.units)).all isNumberChar = true := by
    split
    · split <;> decide
    · obtain ⟨coefficient, power, hd⟩ := shortestDecimal_eq layout.tie x.units
      rw [hd]
      exact layout.all_isNumberChar_write (Decimal.all_isNumberChar_ofCoefficient coefficient power)
  unfold writeFinite
  rw [String.toList_ofList]
  split
  · rw [List.all_cons, hbody]
    decide
  · exact hbody

end Layout

/-- **The characters of a number text.** -/
theorem Number.all_isNumberChar_write (n : Number) (layout : Layout) :
    (n.write layout).toList.all isNumberChar = true := by
  cases n with
  | float x => exact layout.all_isNumberChar_writeFinite x
  | int i =>
    have hrepr : ∀ m : Nat, m.repr.toList.all isNumberChar = true := fun m => by
      rw [Nat.repr, String.toList_ofList]
      exact all_isNumberChar_toDigits m
    show (toString i).toList.all isNumberChar = true
    rw [Int.toString_eq_repr, Int.repr_eq_if]
    split
    · exact hrepr _
    · rw [String.toList_append, List.all_append, hrepr]
      decide

/-- No character of a number text is, in any case, one of these letters. -/
theorem toLower_ne_of_isNumberChar {c : Char} (h : isNumberChar c = true) :
    c.toLower ≠ 'n' ∧ c.toLower ≠ 't' ∧ c.toLower ≠ 'f' := by
  simp only [isNumberChar, Bool.or_eq_true, decide_eq_true_eq] at h
  rcases h with (((h | rfl) | rfl) | rfl) | rfl
  · have hlower : c.toLower = c := by
      unfold Char.toLower
      rw [dif_neg]
      simp only [Char.isDigit, Bool.and_eq_true, decide_eq_true_eq, ge_iff_le, UInt32.le_iff_toNat_le] at h ⊢
      have h57 := h.2
      have h65 : ('A').val.toNat = 65 := rfl
      have h9 : ('9').val.toNat = 57 := rfl
      omega
    rw [hlower]
    refine ⟨?_, ?_, ?_⟩ <;> rintro rfl <;> revert h <;> decide
  all_goals decide

theorem Text.sameIgnoringCase_eq_false {s word : String} {first : Char} {rest : List Char}
    (hword : word.toList.map Char.toLower = first :: rest) (hs : ∀ c ∈ s.toList, c.toLower ≠ first) :
    Text.sameIgnoringCase s word = false := by
  refine decide_eq_false fun h => ?_
  rw [hword] at h
  have hfirst : first ∈ s.toList.map Char.toLower := by
    rw [h]
    exact List.mem_cons_self
  obtain ⟨c, hc, heq⟩ := List.mem_map.mp hfirst
  exact hs c hc heq

/-- **A text of such characters spells none of the words** for null and the truth values. -/
theorem Text.not_same_of_all_isNumberChar {s : String} (h : s.toList.all isNumberChar = true) :
    sameIgnoringCase s "null" = false ∧ sameIgnoringCase s "true" = false ∧ sameIgnoringCase s "false" = false := by
  have hchars : ∀ c ∈ s.toList, c.toLower ≠ 'n' ∧ c.toLower ≠ 't' ∧ c.toLower ≠ 'f' := fun c hc =>
    toLower_ne_of_isNumberChar (List.all_eq_true.mp h c hc)
  exact ⟨sameIgnoringCase_eq_false rfl fun c hc => (hchars c hc).1,
    sameIgnoringCase_eq_false rfl fun c hc => (hchars c hc).2.1,
    sameIgnoringCase_eq_false rfl fun c hc => (hchars c hc).2.2⟩

/-- **No number is written as one of the words** for null and the truth values. -/
theorem Number.text_not_same (n : Number) :
    Text.sameIgnoringCase n.text "null" = false ∧ Text.sameIgnoringCase n.text "true" = false ∧
      Text.sameIgnoringCase n.text "false" = false :=
  Text.not_same_of_all_isNumberChar (n.all_isNumberChar_write Layout.plain)

end FormLogic
