import FormLogic.Cast
import FormLogic.Proofs.NumberTexts
/-!
# What the standard casts give

A value that the standard table has cast to a kind is null or of that kind, and a text among them is in the one form
that the three words have (`CastTable.standard_cast_fits`).  The operators index and destructure their arguments by
this and test nothing again.
-/
namespace FormLogic

/-- **A text in which the three words are in their form**: it is no spelling of `null`, and no spelling of `true` or
`false` but the one in lower case. -/
structure Text.IsSettled (s : String) : Prop where
  not_null : Text.sameIgnoringCase s "null" = false
  of_true : Text.sameIgnoringCase s "true" = true → s = "true"
  of_false : Text.sameIgnoringCase s "false" = true → s = "false"

/-- **A value that fits a kind**: null or of the kind, and where texts are asked for, a settled text. -/
structure Value.Fits (v : Value) (kind : Kind) : Prop where
  kinded : v = .null ∨ v.HasKind kind
  settled : kind = .string → ∀ s, v = .string s → Text.IsSettled s

namespace Value

theorem fits_null (kind : Kind) : Value.null.Fits kind := ⟨.inl rfl, fun _ s h => by cases h⟩

theorem fits_bool (b : Bool) : (Value.bool b).Fits .boolean := ⟨.inr rfl, fun h => by cases h⟩

theorem fits_number (n : Number) : (Value.number n).Fits .number := ⟨.inr rfl, fun h => by cases h⟩

theorem fits_string {s : String} (h : Text.IsSettled s) : (Value.string s).Fits .string := by
  refine ⟨.inr rfl, fun _ t ht => ?_⟩
  cases ht
  exact h

theorem fits_any {v : Value} (h : v.kind?.isSome = true) : v.Fits .any := ⟨.inr h, fun h => by cases h⟩

theorem HasKind.any {v : Value} {kind : Kind} (h : v.HasKind kind) : v.HasKind .any := by
  have hsome : ∀ k, v.kind? = some k → v.kind?.isSome = true := fun k hk => by rw [hk, Option.isSome_some]
  cases kind with
  | any => exact h
  | boolean => exact hsome .boolean h
  | string => exact hsome .string h
  | number => exact hsome .number h

theorem ofDouble_fits (x : Double) : (Value.ofDouble x).Fits .number := by
  unfold ofDouble
  split
  · exact fits_number _
  · exact fits_null _

theorem ofNumberText?_fits {s : String} {w : Value} (h : Value.ofNumberText? s = some w) : w.Fits .number := by
  obtain ⟨t, -, rfl⟩ := Option.map_eq_some_iff.mp h
  unfold NumberText.value
  split
  · exact fits_number _
  · exact ofDouble_fits _

end Value

namespace Text

theorem isSettled_true : IsSettled "true" := ⟨rfl, fun _ => rfl, nofun⟩

theorem isSettled_false : IsSettled "false" := ⟨rfl, nofun, fun _ => rfl⟩

theorem isSettled_number (n : Number) : IsSettled n.text := by
  obtain ⟨hnull, htrue, hfalse⟩ := n.text_not_same
  refine ⟨hnull, fun h => ?_, fun h => ?_⟩
  · rw [htrue] at h
    cases h
  · rw [hfalse] at h
    cases h

end Text

namespace Coercion

variable {v w : Value}

theorem booleanOfNumber_fits {x : Double} (h : booleanOfNumber x = some w) : w.Fits .boolean := by
  unfold booleanOfNumber at h
  split at h
  · cases h
    exact Value.fits_bool true
  · split at h
    · cases h
      exact Value.fits_bool false
    · cases h

theorem toBoolean_fits (h : toBoolean v = some w) : w.Fits .boolean := by
  cases v with
  | bool b =>
    cases h
    exact Value.fits_bool b
  | number n => exact booleanOfNumber_fits h
  | string s =>
    rw [toBoolean] at h
    split at h
    · cases h
      exact Value.fits_bool true
    · split at h
      · cases h
        exact Value.fits_bool false
      · obtain ⟨number, -, h⟩ := Option.bind_eq_some_iff.mp h
        obtain ⟨x, -, h⟩ := Option.bind_eq_some_iff.mp h
        exact booleanOfNumber_fits h
  | _ => cases h

/-- **To a string**: the words are brought to their form, and every other text is settled as it is. -/
theorem toText_fits (h : toText v = some w) : w.Fits .string := by
  cases v with
  | bool b =>
    cases h
    cases b with
    | true => exact Value.fits_string Text.isSettled_true
    | false => exact Value.fits_string Text.isSettled_false
  | number n =>
    cases h
    exact Value.fits_string (Text.isSettled_number n)
  | string s =>
    rw [toText] at h
    split at h
    · cases h
      exact Value.fits_null _
    · rename_i hnull
      split at h
      · cases h
        exact Value.fits_string Text.isSettled_true
      · rename_i htrue
        split at h
        · cases h
          exact Value.fits_string Text.isSettled_false
        · rename_i hfalse
          cases h
          exact Value.fits_string
            ⟨eq_false_of_ne_true hnull, fun h => absurd h htrue, fun h => absurd h hfalse⟩
  | _ => cases h

theorem toNumber_fits (h : toNumber v = some w) : w.Fits .number := by
  cases v with
  | number n =>
    cases h
    exact Value.fits_number n
  | string s => exact Value.ofNumberText?_fits h
  | _ => cases h

/-- **A standard coercion gives a value that fits**, where it is asked to coerce a scalar. -/
theorem standard_fits {kind : Kind} (hv : v.kind?.isSome = true) (h : standard kind v = some w) : w.Fits kind := by
  cases kind with
  | boolean => exact toBoolean_fits h
  | string => exact toText_fits h
  | number => exact toNumber_fits h
  | any =>
    cases h
    exact Value.fits_any hv

/-- **Every scalar has a text.** -/
theorem toText_isSome (hv : v.kind?.isSome = true) : (toText v).isSome = true := by
  cases v with
  | bool b => rfl
  | number n => rfl
  | string s =>
    rw [toText]
    split
    · rfl
    · split
      · rfl
      · split <;> rfl
  | _ => cases hv

/-- **What the standard coercions do not take**: booleans and numbers are asked for, and the value is not of that
kind. -/
theorem standard_eq_none {kind : Kind} (hv : v.kind?.isSome = true) (h : standard kind v = none) :
    (kind = .boolean ∨ kind = .number) ∧ ¬ v.HasKind kind := by
  cases kind with
  | boolean =>
    refine ⟨.inl rfl, fun hkind => ?_⟩
    cases v <;> cases hkind
    cases h
  | number =>
    refine ⟨.inr rfl, fun hkind => ?_⟩
    cases v <;> cases hkind
    cases h
  | string =>
    have hsome : (toText v).isSome = true := toText_isSome hv
    have h : toText v = none := h
    rw [h] at hsome
    cases hsome
  | any => cases h

theorem toText_of_isSettled {s : String} (h : Text.IsSettled s) : toText (.string s) = some (.string s) := by
  rw [toText, if_neg (ne_true_of_eq_false h.not_null)]
  split
  · rename_i htrue
    rw [h.of_true htrue]
  · split
    · rename_i hfalse
      rw [h.of_false hfalse]
    · rfl

/-- **A coercion leaves alone what fits its kind**, null apart, which is never coerced. -/
theorem standard_of_fits {kind : Kind} (hnull : v ≠ .null) (h : v.Fits kind) : standard kind v = some v := by
  have hkind : v.HasKind kind := h.kinded.resolve_left hnull
  cases kind with
  | boolean => cases v <;> first | rfl | cases hkind
  | number => cases v <;> first | rfl | cases hkind
  | any => rfl
  | string =>
    cases v with
    | string s => exact toText_of_isSettled (h.settled rfl s rfl)
    | _ => cases hkind

end Coercion

theorem Value.isNull_eq_false {v : Value} (h : v ≠ .null) : v.isNull = false := by
  cases v with
  | null => exact absurd rfl h
  | _ => rfl

namespace CastTable

/-- **A cast succeeds** on null where its rule lets null through, and on a value of a kind that the rule takes and
coerces. -/
theorem cast_eq_ok {t : CastTable} {v w : Value} {target : Kind} :
    t.cast v target = .ok w ↔
      ∃ rule, t.rule? target = some rule ∧
        ((v = .null ∧ rule.nullable = true ∧ w = .null) ∨
          ∃ kind, v.kind? = some kind ∧ kind ∈ rule.accepts ∧ rule.coerce v = some w) := by
  unfold cast
  cases t.rule? target with
  | none => simp
  | some rule =>
    simp only [Option.some.injEq, exists_eq_left']
    by_cases hnull : v = .null
    · subst hnull
      cases rule.nullable <;> simp [Value.isNull, Value.kind?, eq_comm]
    · rw [Value.isNull_eq_false hnull, Bool.false_and, if_neg Bool.false_ne_true]
      cases v.kind? with
      | none => simp [hnull]
      | some kind =>
        by_cases haccepts : kind ∈ rule.accepts
        · cases rule.coerce v <;> simp [hnull, haccepts]
        · simp [hnull, haccepts]

/-- **A standard cast of a scalar** is its coercion. -/
theorem standard_cast_of_kind {v w : Value} {source kind : Kind} (h : v.kind? = some source) :
    standard.cast v kind = .ok w ↔ Coercion.standard kind v = some w := by
  rw [cast_eq_ok]
  constructor
  · rintro ⟨rule, hrule, ⟨rfl, -, -⟩ | ⟨-, -, -, hcoerce⟩⟩
    · cases h
    · cases hrule
      exact hcoerce
  · intro hcoerce
    have haccepts : source ∈ Kind.all := by cases source <;> decide
    exact ⟨_, rfl, .inr ⟨source, h, haccepts, hcoerce⟩⟩

theorem standard_cast_fits {v w : Value} {kind : Kind} (h : standard.cast v kind = .ok w) : w.Fits kind := by
  obtain ⟨rule, hrule, ⟨-, -, rfl⟩ | ⟨source, hsource, -, hcoerce⟩⟩ := cast_eq_ok.mp h
  · exact Value.fits_null kind
  · cases hrule
    have hscalar : v.kind?.isSome = true := by rw [hsource, Option.isSome_some]
    exact Coercion.standard_fits hscalar hcoerce

/-- **A standard cast leaves alone what fits its kind**: the values that fit are the fixed points of the cast. -/
theorem standard_cast_of_fits {v : Value} {kind : Kind} (h : v.Fits kind) : standard.cast v kind = .ok v := by
  by_cases hnull : v = .null
  · rw [hnull]
    rfl
  · have hsome : v.kind?.isSome = true := Value.HasKind.any (h.kinded.resolve_left hnull)
    obtain ⟨source, hsource⟩ := Option.isSome_iff_exists.mp hsome
    exact (standard_cast_of_kind hsource).mpr (Coercion.standard_of_fits hnull h)

/-- **A standard cast fails** on arrays and objects, and on scalars that are asked to be a boolean or a number, are of
another kind, and stand for none. -/
theorem standard_cast_eq_error {v : Value} {kind : Kind} {cause : Cause} (h : standard.cast v kind = .error cause) :
    (cause = .unknownSource v.typeName kind ∧ (v.typeName = "array" ∨ v.typeName = "object")) ∨
      (cause = .unexpectedValue kind v ∧ (kind = .boolean ∨ kind = .number) ∧ v ≠ .null ∧ ¬ v.HasKind kind) := by
  cases hkind : v.kind? with
  | none =>
    cases v with
    | null => cases h
    | array items =>
      cases h
      exact .inl ⟨rfl, .inl rfl⟩
    | object members =>
      cases h
      exact .inl ⟨rfl, .inr rfl⟩
    | _ => cases hkind
  | some source =>
    have hnull : v ≠ .null := by
      rintro rfl
      cases hkind
    have hfalse : v.isNull = false := Value.isNull_eq_false hnull
    have haccepts : source ∈ Kind.all := by cases source <;> decide
    unfold cast standard at h
    simp only [hfalse, Bool.false_and, Bool.false_eq_true, if_false, hkind, haccepts, if_true] at h
    split at h
    · cases h
    · rename_i hnone
      cases h
      have hsome : v.kind?.isSome = true := by rw [hkind, Option.isSome_some]
      obtain ⟨hasked, hother⟩ := Coercion.standard_eq_none hsome hnone
      exact .inr ⟨rfl, hasked, hnull, hother⟩

/-- **The tables that coerce as the standard one does**, whatever kinds their rules take and wherever null passes. -/
def CoercesAsStandard (t : CastTable) : Prop :=
  ∀ target rule, t.rule? target = some rule → ∃ kind, rule.coerce = Coercion.standard kind

theorem standard_coercesAsStandard : standard.CoercesAsStandard := by
  intro target rule hrule
  cases hrule
  exact ⟨target, rfl⟩

/-- **Nothing but null and scalars comes out of such a table.** -/
theorem CoercesAsStandard.scalar_of_cast {t : CastTable} (ht : t.CoercesAsStandard) {v w : Value} {target : Kind}
    (h : t.cast v target = .ok w) : w = .null ∨ w.HasKind .any := by
  obtain ⟨rule, hrule, ⟨-, -, hnull⟩ | ⟨source, hsource, -, hcoerce⟩⟩ := cast_eq_ok.mp h
  · exact .inl hnull
  · obtain ⟨kind, hkind⟩ := ht target rule hrule
    rw [hkind] at hcoerce
    have hscalar : v.kind?.isSome = true := by rw [hsource, Option.isSome_some]
    exact (Coercion.standard_fits hscalar hcoerce).kinded.imp_right Value.HasKind.any

end CastTable
end FormLogic
