import FormLogic.Proofs.Calls
import FormLogic.Proofs.Requests
/-!
# Default values

What a request gives under a default value is decided by what it gives without one: the default stands in for a
failure, which then leaves a warning, and for null, wherever in the request that came from.  Nothing else changes, and
the default itself is handed out as it is.
-/
namespace FormLogic

def Config.withDefault (config : Config) (v : Value) : Config := { config with defaultValue := some v }

namespace Run

variable {α β : Type}

theorem map_step (f : α → β) (result : Except Cause α) (e : Value) (path : Path) :
    f <$> step result e path = step (result.map f) e path := by
  rw [← bind_pure_comp]
  cases result <;> rfl

theorem outcome_map (f : α → β) (run : Run α) : (f <$> run).outcome = run.outcome.map f := by
  rw [← bind_pure_comp, bind_eq]
  cases h : run.outcome with
  | ok a => rw [andThen_ok h]; rfl
  | error failure => rw [andThen_error h]; rfl

end Run

theorem Config.orDefault_withDefault (config : Config) (v w : Value) :
    (config.withDefault v).orDefault w = if w = .null then v else w := by
  cases w with
  | null => rfl
  | _ => simp [orDefault, Value.isNull]

namespace Dialect

variable {d : Dialect} {config : Config}

/-- The last step of a request takes the default for null at its very end, after the cast. -/
theorem finish_withDefault (h : config.defaultValue = none) (e v value : Value) :
    d.finish e (config.withDefault v) value =
      (d.finish e config value).map (config.withDefault v).orDefault := by
  have hkind : (config.withDefault v).returnType = config.returnType := rfl
  unfold finish
  rw [hkind]
  cases config.returnType with
  | none =>
    dsimp only
    rw [config.orDefault_of_none h]
    rfl
  | some kind =>
    dsimp only
    rw [config.orDefault_of_none h]
    split
    · rfl
    · cases d.casts.cast value kind with
      | error cause => rfl
      | ok w =>
        show Except.ok _ = Except.ok ((config.withDefault v).orDefault (config.orDefault w))
        rw [config.orDefault_of_none h]

/-- **The run under a default value** is the one without it, with the default for null at the end. -/
theorem evaluateRoot_withDefault (h : config.defaultValue = none) (e v : Value) (scope : Scope) :
    d.evaluateRoot e scope (config.withDefault v) =
      (config.withDefault v).orDefault <$> d.evaluateRoot e scope config := by
  have hdepth : (config.withDefault v).depthLimit = config.depthLimit := rfl
  cases hitems : e.items? with
  | none =>
    rw [evaluateRoot_literal hitems, evaluateRoot_literal hitems, config.orDefault_of_none h]
    rfl
  | some items =>
    rw [Value.items?_eq_some.mp hitems, evaluateRoot_array, evaluateRoot_array, map_bind, hdepth]
    congr 1
    funext value
    rw [Run.map_step, finish_withDefault h]

/-- **Recovery.**  A request that fails without a default value gives the default with one, and the warning tells the
place, the operator and the message of the report.  A request that gives null gives the default and no warning; any
other value stays, without a warning.  The calls are the same. -/
theorem evaluate_withDefault (d : Dialect) (e : Value) (sources : Sources) (node : Node) {config : Config}
    (hnone : config.defaultValue = none) (v : Value) :
    (d.evaluate e sources node (config.withDefault v)).calls = (d.evaluate e sources node config).calls ∧
      (∀ report, (d.evaluate e sources node config).result = .error report →
        (d.evaluate e sources node (config.withDefault v)).result = .ok v ∧
          (d.evaluate e sources node (config.withDefault v)).warnings =
            [⟨report.path.text, report.subexpression.head?, report.message⟩]) ∧
      ((d.evaluate e sources node config).result = .ok .null →
        (d.evaluate e sources node (config.withDefault v)).result = .ok v ∧
          (d.evaluate e sources node (config.withDefault v)).warnings = []) ∧
      ∀ w, (d.evaluate e sources node config).result = .ok w → w ≠ .null →
        (d.evaluate e sources node (config.withDefault v)).result = .ok w ∧
          (d.evaluate e sources node (config.withDefault v)).warnings = [] := by
  have hscope : (config.withDefault v).scope sources node = config.scope sources node := rfl
  have hdepth : (config.withDefault v).depthLimit = config.depthLimit := rfl
  have houtcome : (d.evaluateRoot e ((config.withDefault v).scope sources node) (config.withDefault v)).outcome =
      (d.evaluateRoot e (config.scope sources node) config).outcome.map (config.withDefault v).orDefault := by
    rw [hscope, evaluateRoot_withDefault hnone, Run.outcome_map]
  have hvalue : ∀ w, (d.evaluate e sources node config).result = .ok w →
      (d.evaluate e sources node (config.withDefault v)).result = .ok (if w = .null then v else w) ∧
        (d.evaluate e sources node (config.withDefault v)).warnings = [] := by
    intro w hw
    refine evaluate_of_ok ?_
    rw [houtcome, evaluateRoot_of_ok hw hnone, ← config.orDefault_withDefault]
    rfl
  refine ⟨?_, fun report hreport => ?_, fun hnull => ?_, fun w hw hne => ?_⟩
  · rw [calls_evaluate, calls_evaluate, hscope, hdepth]
  · obtain ⟨failure, hfails, rfl⟩ := evaluate_eq_error hreport
    rw [hfails] at houtcome
    exact evaluate_of_error_default houtcome rfl
  · have h := hvalue .null hnull
    rw [if_pos rfl] at h
    exact h
  · have h := hvalue w hw
    rw [if_neg hne] at h
    exact h

/-- A null that only the cast to the kind asked for brings about, and a failure. -/
theorem evaluate_withDefault_word :
    let config : Config := { returnType := some .string }
    let word : Value := .array [.string "if", .bool true, .string "NULL"]
    let maybe : Value := .array [.string "not", .string "maybe"]
    config.defaultValue = none ∧
      (Dialect.standard.evaluate word .none .detached config).result = .ok .null ∧
      (Dialect.standard.evaluate word .none .detached (config.withDefault (.bool true))).result = .ok (.bool true) ∧
      ∃ report, (Dialect.standard.evaluate maybe .none .detached config).result = .error report ∧
        (Dialect.standard.evaluate maybe .none .detached (config.withDefault .null)).result = .ok .null ∧
        (Dialect.standard.evaluate maybe .none .detached (config.withDefault .null)).warnings =
          [⟨"[1]", none, report.message⟩] := by
  intro config word maybe
  have hnone : config.defaultValue = none := rfl
  have hnull : (Dialect.standard.evaluate word .none .detached config).result = .ok .null := rfl
  have hreport : (Dialect.standard.evaluate maybe .none .detached config).result =
      .error ((Failure.of (.unexpectedValue .boolean (.string "maybe")) (.string "maybe") [1]).report maybe none) := rfl
  obtain ⟨-, -, hrecovers, -⟩ := evaluate_withDefault .standard word .none .detached hnone (.bool true)
  obtain ⟨-, hfails, -⟩ := evaluate_withDefault .standard maybe .none .detached hnone .null
  exact ⟨hnone, hnull, (hrecovers hnull).1, _, hreport, hfails _ hreport⟩

end Dialect
end FormLogic
