import FormLogic.Proofs.NumberValues
/-!
# The standard casts as projections

A standard cast brings a value to a kind, and what is of the kind stays as it is when it is cast again.  Only arrays and
objects have no kind to start from.  Null comes out where null went in, and where a text writes null or a number that no
double holds (`CastTable.standard_cast_eq_null`), and nowhere else (`CastTable.standard_cast_projects`).
-/
namespace FormLogic

namespace Coercion

theorem toBoolean_ne_null {v : Value} : toBoolean v ≠ some .null := by
  intro h
  have hnumber : ∀ x, booleanOfNumber x ≠ some .null := by
    intro x
    unfold booleanOfNumber
    split_ifs <;> simp
  cases v with
  | number n => exact hnumber n.toDouble h
  | string s =>
    rw [toBoolean] at h
    split_ifs at h
    · cases h
    · cases h
    · obtain ⟨number, -, h⟩ := Option.bind_eq_some_iff.mp h
      obtain ⟨x, -, h⟩ := Option.bind_eq_some_iff.mp h
      exact hnumber x h
  | _ => cases h

theorem toText_eq_null {v : Value} :
    toText v = some .null ↔ ∃ s, v = .string s ∧ Text.sameIgnoringCase s "null" = true := by
  cases v with
  | string s =>
    rw [toText]
    split_ifs with hnull htrue hfalse <;> simp [hnull]
  | _ => simp [toText]

theorem toNumber_eq_null {v : Value} :
    toNumber v = some .null ↔
      ∃ t : NumberText, t.IsPlain ∧ v = .string t.write ∧ ∃ negative, t.toDouble = .infinite negative := by
  cases v with
  | string s =>
    rw [toNumber, Value.ofNumberText?, Option.map_eq_some_iff]
    simp only [NumberText.parse?_eq_some, NumberText.value_eq_null, Value.string.injEq, eq_comm (a := s), and_assoc]
  | _ => simp [toNumber]

end Coercion

namespace CastTable

/-- **What a standard cast makes null of.** -/
theorem standard_cast_eq_null {v : Value} {kind : Kind} :
    standard.cast v kind = .ok .null ↔
      v = .null ∨
        (kind = .string ∧ ∃ s, v = .string s ∧ Text.sameIgnoringCase s "null" = true) ∨
        (kind = .number ∧
          ∃ t : NumberText, t.IsPlain ∧ v = .string t.write ∧ ∃ negative, t.toDouble = .infinite negative) := by
  cases hkind : v.kind? with
  | none =>
    cases v with
    | null => exact iff_of_true rfl (.inl rfl)
    | array items => simp [cast, standard, Value.isNull, Value.kind?]
    | object members => simp [cast, standard, Value.isNull, Value.kind?]
    | _ => cases hkind
  | some source =>
    have hnull : v ≠ .null := by
      rintro rfl
      cases hkind
    rw [standard_cast_of_kind hkind]
    cases kind with
    | boolean => simp [Coercion.standard, Coercion.toBoolean_ne_null, hnull]
    | string => simp [Coercion.standard, Coercion.toText_eq_null, hnull]
    | number => simp [Coercion.standard, Coercion.toNumber_eq_null, hnull]
    | any => simp [Coercion.standard, hnull]

/-- **A standard cast does not know where to start** exactly with arrays and objects. -/
theorem standard_cast_unknownSource {v : Value} {kind : Kind} :
    (∃ found target, standard.cast v kind = .error (.unknownSource found target)) ↔
      (∃ items, v = .array items) ∨ ∃ members, v = .object members := by
  constructor
  · rintro ⟨found, target, h⟩
    obtain ⟨-, htype⟩ | ⟨hcause, -⟩ := standard_cast_eq_error h
    · cases v with
      | array items => exact .inl ⟨items, rfl⟩
      | object members => exact .inr ⟨members, rfl⟩
      | _ => simp [Value.typeName] at htype
    · cases hcause
  · rintro (⟨items, rfl⟩ | ⟨members, rfl⟩)
    · exact ⟨_, _, rfl⟩
    · exact ⟨_, _, rfl⟩

/-- **The standard casts are projections.**  What a cast to a kind gives is null or of the kind, and the same cast
leaves it alone.  The cast fails for the type of the value exactly with arrays and objects, and a scalar always has a
text and always passes as any.  Null is given for null, for a text that spells it where a text is asked for, and for a
number text that stands for an infinite double where a number is asked for. -/
theorem standard_cast_projects (v : Value) (kind : Kind) :
    (∀ w, standard.cast v kind = .ok w → (w = .null ∨ w.HasKind kind) ∧ standard.cast w kind = .ok w) ∧
      ((∃ found target, standard.cast v kind = .error (.unknownSource found target)) ↔
        (∃ items, v = .array items) ∨ ∃ members, v = .object members) ∧
      (kind = .string ∨ kind = .any → v = .null ∨ v.HasKind .any → ∃ w, standard.cast v kind = .ok w) ∧
      (standard.cast v kind = .ok .null ↔
        v = .null ∨
          (kind = .string ∧ ∃ s, v = .string s ∧ Text.sameIgnoringCase s "null" = true) ∨
          (kind = .number ∧
            ∃ t : NumberText, t.IsPlain ∧ v = .string t.write ∧ ∃ negative, t.toDouble = .infinite negative)) := by
  refine ⟨fun w hw => ?_, standard_cast_unknownSource, fun hkind hv => ?_, standard_cast_eq_null⟩
  · have hfits := standard_cast_fits hw
    exact ⟨hfits.kinded, standard_cast_of_fits hfits⟩
  · cases hcast : standard.cast v kind with
    | ok w => exact ⟨w, rfl⟩
    | error cause =>
      obtain ⟨-, htype⟩ | ⟨-, hasked, -⟩ := standard_cast_eq_error hcast
      · cases v with
        | array | object => simp [Value.HasKind, Value.kind?] at hv
        | _ => simp [Value.typeName] at htype
      · rcases hkind with rfl | rfl <;> simp at hasked

/-- A word in upper case, cast to a text and cast again. -/
theorem standard_cast_projects_true :
    standard.cast (.string "TRUE") .string = .ok (.string "true") ∧
      standard.cast (.string "true") .string = .ok (.string "true") := by
  have hcast : standard.cast (.string "TRUE") .string = .ok (.string "true") := rfl
  exact ⟨hcast, ((standard_cast_projects (.string "TRUE") .string).1 _ hcast).2⟩

end CastTable
end FormLogic
