import FormLogic.Expression.Dialect
import FormLogic.Proofs.Calls
/-!
# Requests

A request adds a last step to the evaluation of a call (`Dialect.finish`) and decides what becomes of a failure.  The
answer to a request is read off the run of the evaluation: `evaluate_of_ok`, `evaluate_of_error`,
`evaluate_of_error_default`.
-/
namespace FormLogic

/-- What the operators of a request may look at. -/
def Config.scope (config : Config) (sources : Sources) (node : Node) : Scope :=
  ⟨sources, node, config.positionalArguments.getD []⟩

theorem Config.orDefault_of_none {config : Config} (h : config.defaultValue = none) (v : Value) :
    config.orDefault v = v := by
  unfold orDefault
  rw [h, Option.getD_none, ite_self]

namespace Dialect

/-- **What a request makes of the value of its call**: the cast to the kind asked for, where one is needed, and then the
default in place of null. -/
def finish (d : Dialect) (expression : Value) (config : Config) (value : Value) : Except Cause Value :=
  match config.returnType with
  | none => .ok (config.orDefault value)
  | some kind =>
    if value.isNull ∨ d.declared? expression = some kind then .ok (config.orDefault value)
    else (d.casts.cast value kind).map config.orDefault

section
variable {d : Dialect} {scope : Scope} {config : Config} {items : List Value}

theorem evaluateRoot_literal {v : Value} (hv : v.items? = none) :
    d.evaluateRoot v scope config = Run.done (config.orDefault v) := by
  cases v with
  | array items => cases hv
  | _ => rfl

theorem declared?_cons {name : String} {operator : Operator} (h : d.operators.get? name = some operator)
    (arguments : List Value) :
    d.declared? (.array (.string name :: arguments)) = some operator.signature.returns := by
  simp only [declared?, Value.head?, Option.bind_eq_bind, Option.bind_some, h, Option.pure_def]

/-- **The evaluation of a whole call** is that of the call and one last step.  The operator is looked up again only
after the call has succeeded, and so it is there. -/
theorem evaluateRoot_array :
    d.evaluateRoot (.array items) scope config =
      FormLogic.evaluate (d.rules config.depthLimit) scope [] (.array items) >>= fun value =>
        Run.step (d.finish (.array items) config value) (.array items) [] := by
  unfold evaluateRoot
  dsimp only
  refine Run.bind_congr fun value hvalue => ?_
  obtain ⟨name, operator, arguments, hitems, hget, hresolve⟩ := resolve_of_evaluate hvalue
  have hresolve : d.operators.resolve items = .ok operator := hresolve
  have hdeclared : d.declared? (.array items) = some operator.signature.returns := by
    rw [hitems, declared?_cons hget]
  have hfound : Run.step (d.operators.resolve items) (.array items) [] = pure operator := by
    rw [hresolve]
    rfl
  unfold finish
  rw [hfound, hdeclared]
  by_cases hnull : value.isNull = true
  · rw [if_pos hnull]
    cases config.returnType with
    | none => rfl
    | some kind =>
      dsimp only
      rw [if_pos (.inl hnull)]
      rfl
  · have hkept : config.orDefault value = value := if_neg hnull
    rw [if_neg hnull, hkept]
    cases config.returnType with
    | none => rfl
    | some kind =>
      dsimp only
      rw [pure_bind]
      by_cases hsame : operator.signature.returns = kind
      · rw [if_pos hsame, if_pos (.inr (congrArg some hsame))]
        rfl
      · have hcast : ¬ (value.isNull = true ∨ some operator.signature.returns = some kind) :=
          not_or.mpr ⟨hnull, fun h => hsame (Option.some.inj h)⟩
        rw [if_neg hsame, if_neg hcast]
        cases d.casts.cast value kind <;> rfl

/-- **A request gives a value** only where the bare evaluation does. -/
theorem exists_evaluate_of_evaluateRoot {e v : Value} (h : (d.evaluateRoot e scope config).outcome = .ok v) :
    ∃ value, (FormLogic.evaluate (d.rules config.depthLimit) scope [] e).outcome = .ok value := by
  cases e with
  | array items =>
    rw [evaluateRoot_array, Run.outcome_bind_eq_ok] at h
    obtain ⟨value, hvalue, -⟩ := h
    exact ⟨value, hvalue⟩
  | _ => exact ⟨_, rfl⟩

theorem finish_eq_error {e value : Value} {cause : Cause} (h : d.finish e config value = .error cause) :
    ∃ kind, config.returnType = some kind ∧ d.casts.cast value kind = .error cause := by
  unfold finish at h
  split at h
  · cases h
  · rename_i kind hwanted
    split at h
    · cases h
    · refine ⟨kind, hwanted, ?_⟩
      cases hcast : d.casts.cast value kind with
      | ok w =>
        rw [hcast] at h
        cases h
      | error cause' =>
        rw [hcast] at h
        cases h
        rfl

/-- **A request fails**, if at all, on a call: in its evaluation, or in the cast of its value to the kind asked for,
which is blamed on the whole. -/
theorem evaluateRoot_fails {e : Value} {failure : Failure}
    (h : (d.evaluateRoot e scope config).outcome = .error failure) :
    (FormLogic.evaluate (d.rules config.depthLimit) scope [] e).outcome = .error failure ∨
      ∃ value kind cause, (FormLogic.evaluate (d.rules config.depthLimit) scope [] e).outcome = .ok value ∧
        config.returnType = some kind ∧ d.casts.cast value kind = .error cause ∧ failure = .of cause e [] := by
  cases e with
  | array items =>
    rw [evaluateRoot_array, Run.outcome_bind_eq_error] at h
    rcases h with hcall | ⟨value, hvalue, hlast⟩
    · exact .inl hcall
    · obtain ⟨cause, hcause, rfl⟩ := Run.outcome_step_eq_error.mp hlast
      obtain ⟨kind, hwanted, hcast⟩ := finish_eq_error hcause
      exact .inr ⟨value, kind, cause, hvalue, hwanted, hcast, rfl⟩
  | _ => cases h

theorem evaluateRoot_eq_error {e : Value} {failure : Failure}
    (h : (d.evaluateRoot e scope config).outcome = .error failure) :
    (FormLogic.evaluate (d.rules config.depthLimit) scope [] e).outcome = .error failure ∨
      ∃ cause, failure = .of cause e [] := by
  rcases evaluateRoot_fails h with hcall | ⟨_, _, cause, -, -, -, hlast⟩
  · exact .inl hcall
  · exact .inr ⟨cause, hlast⟩

end

section
variable {d : Dialect} {e : Value} {sources : Sources} {node : Node} {config : Config}

/-- **The calls of a request** are those of the bare evaluation: neither the last step nor the default value adds
one. -/
theorem calls_evaluate :
    (d.evaluate e sources node config).calls =
      (FormLogic.evaluate (d.rules config.depthLimit) (config.scope sources node) [] e).calls := by
  have hroot : (d.evaluateRoot e (config.scope sources node) config).calls =
      (FormLogic.evaluate (d.rules config.depthLimit) (config.scope sources node) [] e).calls := by
    cases e with
    | array items => rw [evaluateRoot_array, Run.calls_bind_step]
    | _ => rfl
  rw [← hroot]
  unfold evaluate Config.scope
  dsimp only
  split
  · rfl
  · split <;> rfl

theorem evaluate_of_ok {v : Value} (h : (d.evaluateRoot e (config.scope sources node) config).outcome = .ok v) :
    (d.evaluate e sources node config).result = .ok v ∧ (d.evaluate e sources node config).warnings = [] := by
  unfold Config.scope at h
  unfold evaluate
  simp only [h, and_self]

theorem evaluate_of_error {failure : Failure}
    (h : (d.evaluateRoot e (config.scope sources node) config).outcome = .error failure)
    (hdefault : config.defaultValue = none) :
    (d.evaluate e sources node config).result = .error (failure.report e config.errorIntroduction) ∧
      (d.evaluate e sources node config).warnings = [] := by
  unfold Config.scope at h
  unfold evaluate
  simp only [h, hdefault, and_self]

theorem evaluateRoot_of_ok {v : Value} (h : (d.evaluate e sources node config).result = .ok v)
    (hdefault : config.defaultValue = none) :
    (d.evaluateRoot e (config.scope sources node) config).outcome = .ok v := by
  cases houtcome : (d.evaluateRoot e (config.scope sources node) config).outcome with
  | ok w =>
    rw [(evaluate_of_ok houtcome).1] at h
    cases h
    rfl
  | error failure =>
    rw [(evaluate_of_error houtcome hdefault).1] at h
    cases h

theorem evaluate_of_error_default {failure : Failure} {v : Value}
    (h : (d.evaluateRoot e (config.scope sources node) config).outcome = .error failure)
    (hdefault : config.defaultValue = some v) :
    (d.evaluate e sources node config).result = .ok v ∧
      (d.evaluate e sources node config).warnings = [(failure.report e config.errorIntroduction).warning] := by
  unfold Config.scope at h
  unfold evaluate
  simp only [h, hdefault, and_self]

theorem evaluate_eq_error {report : Report} (h : (d.evaluate e sources node config).result = .error report) :
    ∃ failure, (d.evaluateRoot e (config.scope sources node) config).outcome = .error failure ∧
      report = failure.report e config.errorIntroduction := by
  cases houtcome : (d.evaluateRoot e (config.scope sources node) config).outcome with
  | ok v =>
    rw [(evaluate_of_ok houtcome).1] at h
    cases h
  | error failure =>
    cases hdefault : config.defaultValue with
    | some v =>
      rw [(evaluate_of_error_default houtcome hdefault).1] at h
      cases h
    | none =>
      rw [(evaluate_of_error houtcome hdefault).1] at h
      cases h
      exact ⟨failure, rfl, rfl⟩

end

end Dialect
end FormLogic
