import FormLogic.Proofs.Places
import FormLogic.Proofs.Requests
/-!
# Where failures and calls belong

Every failure is placed, and its place is exact: the path leads from the expression to the sub-expression that is
blamed.  Every call that is observed stands where its path leads to.  Paths are handed down from call to argument, so
both are shown for an expression at any path, with the rest of the path counted from there.
-/
namespace FormLogic

section
variable {rules : Rules} {scope : Scope}

/-- **A failure is blamed on the sub-expression that its path leads to**: the call itself, the argument that is cast, or
one inside an argument, to whose path a step is added. -/
theorem exists_reaches_of_error (e : Value) (path : Path) (failure : Failure)
    (h : (evaluate rules scope path e).outcome = .error failure) :
    ∃ cause inner sub, failure = .of cause sub (path ++ inner) ∧ e.Reaches inner sub := by
  replace h := arisesIn_of_error e h
  induction h with
  | @tests path items cause _ => exact ⟨cause, [], .array items, by rw [List.append_nil], .refl _⟩
  | @inside path items entry i argument failure entered position _ ih =>
    obtain ⟨cause, inner, sub, rfl, hreaches⟩ := ih
    exact ⟨cause, [i + 1] ++ inner, sub, by rw [List.append_assoc],
      (Rules.reaches_of_enter entered position).append hreaches⟩
  | @argument path items entry i argument value cause entered position _ _ =>
    exact ⟨cause, [i + 1], argument, rfl, Rules.reaches_of_enter entered position⟩
  | @operator path items values entry cause _ _ _ =>
    exact ⟨cause, [], .array items, by rw [List.append_nil], .refl _⟩

/-- **A call is observed where its path leads to**: there stands an array that its operator heads, with as many
arguments as the operator is given. -/
theorem exists_reaches_of_mem_calls (e : Value) (path : Path) (c : Call)
    (hc : c ∈ (evaluate rules scope path e).calls) :
    ∃ inner arguments, c.path = path ++ inner ∧ e.Reaches inner (.array (.string c.operator :: arguments)) ∧
      arguments.length = c.arguments.length := by
  replace hc := observedIn_of_mem_calls e hc
  induction hc with
  | @inside path items entry i argument entered position _ ih =>
    obtain ⟨inner, arguments, hpath, hreaches, hlength⟩ := ih
    refine ⟨[i + 1] ++ inner, arguments, ?_, (Rules.reaches_of_enter entered position).append hreaches, hlength⟩
    rw [hpath, List.append_assoc]
  | @operator path items values entry entered evaluated observed =>
    have hlength : entry.arguments.length = values.length := (evaluateArguments_eq_ok evaluated).1.symm
    have hitems : items = .string entry.name :: entry.arguments := (Rules.enter_eq_ok.mp entered).2.1
    have hreaches : (Value.array items).Reaches [] (.array (.string entry.name :: entry.arguments)) := by
      rw [← hitems]
      exact .refl _
    -- before the operator runs and after it, the call is the same but for the result
    rcases mem_calls_invoke.mp observed with rfl | ⟨result, -, rfl⟩
    · exact ⟨[], entry.arguments, (List.append_nil path).symm, hreaches, hlength⟩
    · exact ⟨[], entry.arguments, (List.append_nil path).symm, hreaches, hlength⟩

end

namespace Dialect

/-- **Exact provenance.**  A report names the whole expression, and its path leads by argument steps to the very
sub-expression that it shows.  The path of every observed call leads to an array that is headed by the operator of the
call and has as many further items as the call has arguments. -/
theorem evaluate_reaches (d : Dialect) (e : Value) (sources : Sources) (node : Node) (config : Config) :
    (∀ report, (d.evaluate e sources node config).result = .error report →
        report.expression = e ∧ e.Reaches report.path report.subexpression) ∧
      ∀ c ∈ (d.evaluate e sources node config).calls, ∃ arguments,
        e.Reaches c.path (.array (.string c.operator :: arguments)) ∧ arguments.length = c.arguments.length := by
  constructor
  · intro report hreport
    obtain ⟨failure, hfails, rfl⟩ := evaluate_eq_error hreport
    refine ⟨rfl, ?_⟩
    rcases evaluateRoot_eq_error hfails with hcall | ⟨cause, rfl⟩
    · obtain ⟨cause, inner, sub, rfl, hreaches⟩ := exists_reaches_of_error e [] failure hcall
      exact hreaches
    · exact .refl e
  · intro c hc
    rw [calls_evaluate] at hc
    obtain ⟨inner, arguments, hpath, hreaches, hlength⟩ := exists_reaches_of_mem_calls e [] c hc
    rw [hpath]
    exact ⟨arguments, hreaches, hlength⟩

/-- A literal that is no boolean, two levels down, after a call that has succeeded. -/
theorem evaluate_reaches_maybe :
    let maybe : Value := .string "maybe"
    let e : Value := .array [.string "and", .array [.string "not", .bool false], .array [.string "not", maybe]]
    let answer := Dialect.standard.evaluate e .none .detached {}
    (∃ report, answer.result = .error report ∧ report.path = [2, 1] ∧ e.Reaches [2, 1] maybe) ∧
      (⟨[1], "not", [.bool false], none⟩ : Call) ∈ answer.calls ∧
        ∃ arguments, e.Reaches [1] (.array (.string "not" :: arguments)) ∧ arguments.length = 1 := by
  intro maybe e answer
  have hreport : answer.result =
      .error ((Failure.of (.unexpectedValue .boolean maybe) maybe [2, 1]).report e none) := rfl
  have hcall : (⟨[1], "not", [.bool false], none⟩ : Call) ∈ answer.calls := List.mem_cons_self
  obtain ⟨hreports, hcalls⟩ := evaluate_reaches .standard e .none .detached {}
  exact ⟨⟨_, hreport, rfl, (hreports _ hreport).2⟩, hcall, hcalls _ hcall⟩

end Dialect
end FormLogic
