import FormLogic.Host.Data
import FormLogic.Proofs.Composition
import FormLogic.Proofs.Locality
import FormLogic.Proofs.StandardOperators
/-!
# Dependence on the host

What the standard operators look at besides their arguments is known of each (`StandardOperators`), so what a request
depends on can be read off the names that its expression calls.  Of two hosts that no called operator tells apart a
request gets the same answer (`Dialect.standard_evaluate_congr`).

In the other direction nothing is skipped: whatever an expression calls has run when the expression evaluates
(`exists_run_of_calls`), so one call that the host cannot serve fails the whole.
-/
namespace FormLogic

/-- **Every operator that an expression calls has run** once the expression evaluates, under the standard operators. -/
theorem exists_run_of_calls {rules : Rules} (hops : rules.operators = .standard) {scope : Scope} {path : Path}
    {e v : Value} (h : (evaluate rules scope path e).outcome = .ok v) {b : Builtin} (hcalls : e.Calls b.name) :
    ∃ args raw, b.run args scope = .ok raw := by
  obtain ⟨inner, arguments, hreaches⟩ := hcalls
  obtain ⟨w, hw⟩ := evaluate_ok_of_reaches h hreaches
  obtain ⟨entry, values, hentry, -, hinvoke⟩ := evaluate_array_eq_ok.mp hw
  obtain ⟨b', arguments', rfl, hitems⟩ := Rules.exists_builtin_of_enter hops hentry
  obtain ⟨raw, hrun, -⟩ := invoke_eq_ok.mp hinvoke
  have hname : b = b' := Builtin.name_injective (Value.string.inj (List.cons.inj hitems).1)
  rw [hname]
  exact ⟨values, raw, hrun⟩

namespace Dialect

/-- **The answer to a standard request depends on what the called operators see** of its host and of its positional
arguments. -/
theorem standard_evaluate_congr {e : Value} {sources sources' : Sources} {node node' : Node} {config config' : Config}
    (hconfig : config' = config.withArguments config'.positionalArguments)
    (hrun : ∀ b : Builtin, e.Calls b.name →
      ∀ args, b.run args (config.scope sources node) = b.run args (config'.scope sources' node')) :
    standard.evaluate e sources node config = standard.evaluate e sources' node' config' := by
  refine evaluate_congr rfl hconfig fun name hname => ?_
  show Option.Rel _ (Registry.standard.get? name) (Registry.standard.get? name)
  cases hget : Registry.standard.get? name with
  | none => exact .none
  | some operator =>
    obtain ⟨b, rfl, rfl⟩ := Registry.exists_builtin_of_get? hget
    exact .some ⟨rfl, fun args _ _ => hrun b hname args⟩

/-- **Dependence only on what is called.**  An expression that calls no operator that looks at the host gets the same
answer from every host and every node, and one that does not call for positional arguments gets it whatever these are.
Where no node is given, an expression that looks for a component anywhere in it fails under every host, unless the
request has a default value. -/
theorem evaluate_depends_on_calls (e : Value) (config : Config) :
    ((∀ b ∈ Builtin.lookups, ¬ e.Calls b.name) → ∀ sources sources' node node',
      standard.evaluate e sources node config = standard.evaluate e sources' node' config) ∧
    (¬ e.Calls Builtin.argv.name → ∀ sources node positional,
      standard.evaluate e sources node config = standard.evaluate e sources node (config.withArguments positional)) ∧
    (config.defaultValue = none → ∀ b ∈ Builtin.componentLookups, e.Calls b.name → ∀ sources,
      ∃ report, (standard.evaluate e sources .detached config).result = .error report) := by
  refine ⟨fun hlookups sources sources' node node' => ?_, fun hargv sources node positional => ?_,
    fun hdefault b hb hcalls sources => ?_⟩
  · refine standard_evaluate_congr rfl fun b hcalled args => ?_
    exact Builtin.run_of_not_mem_lookups (fun hb => hlookups b hb hcalled) args rfl
  · refine standard_evaluate_congr rfl fun b hcalled args => ?_
    refine Builtin.run_of_ne_argv ?_ args sources node _ _
    rintro rfl
    exact hargv hcalled
  · cases hresult : (standard.evaluate e sources .detached config).result with
    | error report => exact ⟨report, rfl⟩
    | ok v =>
      obtain ⟨value, hvalue⟩ := exists_evaluate_of_evaluateRoot (evaluateRoot_of_ok hresult hdefault)
      obtain ⟨args, raw, hrun⟩ := exists_run_of_calls rfl hvalue hcalls
      obtain ⟨cause, hcause⟩ := Builtin.run_detached hb args sources (config.positionalArguments.getD [])
      have hcause : b.run args (config.scope sources .detached) = .error cause := hcause
      rw [hrun] at hcause
      cases hcause

/-- A text that only the positional arguments decide, the language that only the host decides, and a component in the
branch that is not chosen. -/
theorem evaluate_depends_on_calls_text :
    let greeting : Value := .array [.string "concat", .string "Dear ", .array [.string "argv", .number (.int 0)]]
    let language : Value := .array [.string "upperCase", .array [.string "language"]]
    let choice : Value := .array [.string "if", .bool true, .string "yes", .string "else",
      .array [.string "component", .string "name"]]
    let host : Sources := HostData.sources (HostData.withComponent { language := some "en" } "name" none)
    let config : Config := { positionalArguments := some [.string "Ada"] }
    (∀ b ∈ Builtin.lookups, ¬ greeting.Calls b.name) ∧
      (standard.evaluate greeting host (.page "front") config).result = .ok (.string "Dear Ada") ∧
      ¬ language.Calls Builtin.argv.name ∧
      (standard.evaluate language host .detached (Config.withArguments {} config.positionalArguments)).result =
        .ok (.string "EN") ∧
      (standard.evaluate choice host (.page "front") {}).result = .ok (.string "yes") ∧
      Builtin.component ∈ Builtin.componentLookups ∧ choice.Calls Builtin.component.name ∧
      ∃ report, (standard.evaluate choice host .detached {}).result = .error report := by
  intro greeting language choice host config
  have hdear : (standard.evaluate greeting .none .detached config).result = .ok (.string "Dear Ada") := by
    decide +kernel +revert
  have hen : (standard.evaluate language host .detached {}).result = .ok (.string "EN") := by
    decide +kernel +revert
  have hgreeting : ∀ b ∈ Builtin.lookups, ¬ greeting.Calls b.name := by decide +kernel
  have hlanguage : ¬ language.Calls Builtin.argv.name := by decide
  have hcomponent : Builtin.component ∈ Builtin.componentLookups := by decide
  have hchoice : choice.Calls Builtin.component.name := by decide
  obtain ⟨hhosts, -, -⟩ := evaluate_depends_on_calls greeting config
  obtain ⟨-, harguments, -⟩ := evaluate_depends_on_calls language {}
  obtain ⟨-, -, hdetached⟩ := evaluate_depends_on_calls choice {}
  refine ⟨hgreeting, ?_, hlanguage, ?_, rfl, hcomponent, hchoice, hdetached rfl .component hcomponent hchoice host⟩
  · rw [hhosts hgreeting host .none (.page "front") .detached]
    exact hdear
  · rw [← harguments hlanguage host .detached config.positionalArguments]
    exact hen

end Dialect
end FormLogic
