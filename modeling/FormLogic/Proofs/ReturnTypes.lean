import FormLogic.Proofs.KindSoundness
/-!
# The kind asked for

A request that asks for a kind does not cast everything: it passes over null, and over the value of an operator that
declares the very kind.  Under the standard casts nobody can tell.  What comes out of a call has been cast to the
declared kind already, and a cast leaves alone what fits its kind, so the answer is the one that casting every value
would give (`evaluate_eq_cast`).
-/
namespace FormLogic
namespace Dialect

variable {d : Dialect} {config : Config} {kind : Kind}

/-- **The last step of a request is the cast to the kind asked for**, on a value that fits the declared kind. -/
theorem finish_eq_cast (hcasts : d.casts = .standard) (hkind : config.returnType = some kind)
    (hdefault : config.defaultValue = none) {e value : Value} {declared : Kind}
    (hdeclared : d.declared? e = some declared) (hvalue : value.Fits declared) :
    d.finish e config value = d.casts.cast value kind := by
  have hor : config.orDefault = id := funext (config.orDefault_of_none hdefault)
  unfold finish
  rw [hkind, hdeclared, hcasts, hor]
  dsimp only [id]
  split
  · rename_i hskip
    have hfits : value.Fits kind := by
      rcases hskip with hnull | hsame
      · cases value with
        | null => exact Value.fits_null kind
        | _ => cases hnull
      · exact Option.some.inj hsame ▸ hvalue
    exact (CastTable.standard_cast_of_fits hfits).symm
  · cases CastTable.standard.cast value kind <;> rfl

/-- **What a request passes over cannot be noticed.**  Under the standard casts, where the call of a request gives a
value, its operator is found again, and the answer is what an unconditional cast of the value to the kind asked for
gives: the value cast, or the cause of the refusal blamed on the whole expression, with the calls of the evaluation and
without a warning. -/
theorem evaluate_eq_cast (hcasts : d.casts = .standard) (hkind : config.returnType = some kind)
    (hdefault : config.defaultValue = none) {items : List Value} {sources : Sources} {node : Node} {value : Value}
    (hvalue : (FormLogic.evaluate (d.rules config.depthLimit) (config.scope sources node) [] (.array items)).outcome
      = .ok value) :
    (∃ operator, d.operators.resolve items = .ok operator) ∧
      d.evaluate (.array items) sources node config =
        ⟨(d.casts.cast value kind).mapError fun cause =>
            (Failure.of cause (.array items) []).report (.array items) config.errorIntroduction,
          [],
          (FormLogic.evaluate (d.rules config.depthLimit) (config.scope sources node) [] (.array items)).calls⟩ := by
  obtain ⟨-, operator, -, -, -, hresolve⟩ := resolve_of_evaluate hvalue
  refine ⟨⟨operator, hresolve⟩, ?_⟩
  obtain ⟨declared, hdeclared, hfits⟩ := evaluate_array_fits hcasts hvalue
  have hlast : d.finish (.array items) config value = d.casts.cast value kind :=
    finish_eq_cast hcasts hkind hdefault hdeclared hfits
  have houtcome : (d.evaluateRoot (.array items) (config.scope sources node) config).outcome =
      (Run.step (d.casts.cast value kind) (.array items) []).outcome := by
    rw [evaluateRoot_array, Run.bind_eq, Run.andThen_ok hvalue, hlast]
  rw [← calls_evaluate]
  cases hcast : d.casts.cast value kind with
  | ok w =>
    rw [hcast] at houtcome
    obtain ⟨hresult, hwarnings⟩ := evaluate_of_ok houtcome
    rw [Answer.mk.injEq]
    exact ⟨hresult, hwarnings, rfl⟩
  | error cause =>
    rw [hcast] at houtcome
    obtain ⟨hresult, hwarnings⟩ := evaluate_of_error houtcome hdefault
    rw [Answer.mk.injEq]
    exact ⟨hresult, hwarnings, rfl⟩

/-- A text that is not cast again to a text, and is refused as a number. -/
theorem evaluate_eq_cast_word :
    let e : Value := .array [.string "concat", .string "TRUE"]
    let asText : Config := { returnType := some .string }
    let asNumber : Config := { returnType := some .number }
    (Dialect.standard.evaluate e .none .detached asText).result = .ok (.string "true") ∧
      ∃ report, (Dialect.standard.evaluate e .none .detached asNumber).result = .error report ∧
        report.cause = .unexpectedValue .number (.string "true") ∧ report.path = [] ∧ report.subexpression = e := by
  intro e asText asNumber
  have hcasts : Dialect.standard.casts = .standard := rfl
  have hwantsText : asText.returnType = some .string := rfl
  have hwantsNumber : asNumber.returnType = some .number := rfl
  have hvalue : (FormLogic.evaluate (Dialect.standard.rules asText.depthLimit) (asText.scope .none .detached) []
      e).outcome = .ok (.string "true") := rfl
  have hvalue' : (FormLogic.evaluate (Dialect.standard.rules asNumber.depthLimit) (asNumber.scope .none .detached) []
      e).outcome = .ok (.string "true") := rfl
  obtain ⟨-, htext⟩ := evaluate_eq_cast hcasts hwantsText rfl hvalue
  obtain ⟨-, hnumber⟩ := evaluate_eq_cast hcasts hwantsNumber rfl hvalue'
  rw [htext, hnumber]
  exact ⟨rfl, _, rfl, rfl, rfl, rfl⟩

end Dialect
end FormLogic
