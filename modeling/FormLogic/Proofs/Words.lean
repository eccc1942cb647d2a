import FormLogic.Proofs.StandardCasts
import Mathlib.Tactic.SplitIfs
/-!
# The three words

A text that spells `null`, `true` or `false` is not passed on as it stands: wherever a text is asked for, it is brought
to the form of its word (`Text.settle?`), which for `null` is no text at all.  Every other text is left alone.
-/
namespace FormLogic

namespace Text

/-- **A spelling of one of the three words**, in any case. -/
def IsWord (s : String) : Prop :=
  sameIgnoringCase s "null" = true ∨ sameIgnoringCase s "true" = true ∨ sameIgnoringCase s "false" = true

instance (s : String) : Decidable (IsWord s) := inferInstanceAs (Decidable (_ ∨ _))

/-- **The form of a text where a text is asked for**: nothing for a spelling of `null`, the word in lower case for one
of `true` or `false`, and any other text itself. -/
def settle? (s : String) : Option String :=
  if sameIgnoringCase s "null" then none
  else if sameIgnoringCase s "true" then some "true"
  else if sameIgnoringCase s "false" then some "false"
  else some s

/-- **What is no word is left alone.** -/
theorem settle?_of_not_isWord {s : String} (h : ¬ IsWord s) : settle? s = some s := by
  simp only [IsWord, not_or] at h
  obtain ⟨hnull, htrue, hfalse⟩ := h
  rw [settle?, if_neg hnull, if_neg htrue, if_neg hfalse]

theorem isSettled_of_not_isWord {s : String} (h : ¬ IsWord s) : IsSettled s := by
  simp only [IsWord, not_or, Bool.not_eq_true] at h
  obtain ⟨hnull, htrue, hfalse⟩ := h
  exact ⟨hnull, fun h => absurd (htrue.symm.trans h) Bool.false_ne_true,
    fun h => absurd (hfalse.symm.trans h) Bool.false_ne_true⟩

theorem length_of_sameIgnoringCase {s t : String} (h : sameIgnoringCase s t = true) : s.length = t.length := by
  have heq : s.toList.map Char.toLower = t.toList.map Char.toLower := of_decide_eq_true h
  have hlength := congrArg List.length heq
  rw [List.length_map, List.length_map] at hlength
  exact hlength

/-- **The length of the form of a text** is that of the text, unless there is no form. -/
theorem length_settle? (s : String) :
    (settle? s).elim 0 String.length = if sameIgnoringCase s "null" then 0 else s.length := by
  unfold settle?
  split_ifs with hnull htrue hfalse
  · rfl
  · exact (length_of_sameIgnoringCase htrue).symm
  · exact (length_of_sameIgnoringCase hfalse).symm
  · rfl

end Text

/-- The value of a text that may be missing. -/
def Value.ofText? (s : Option String) : Value := (s.map .string).getD .null

theorem Value.string?_ofText? (s : Option String) : (Value.ofText? s).string? = s := by
  cases s <;> rfl

theorem Coercion.toText_string (s : String) : toText (.string s) = some (.ofText? (Text.settle? s)) := by
  rw [toText, Text.settle?]
  split_ifs <;> rfl

/-- **The cast of a text to a text** is the form of the text. -/
theorem CastTable.standard_cast_string (s : String) :
    standard.cast (.string s) .string = .ok (.ofText? (Text.settle? s)) :=
  (standard_cast_of_kind rfl).mpr (Coercion.toText_string s)

theorem CastTable.standard_cast_ofText? (s : Option String) :
    standard.cast (.ofText? s) .string = .ok (.ofText? (s.bind Text.settle?)) := by
  cases s with
  | none => rfl
  | some s => exact standard_cast_string s

end FormLogic
