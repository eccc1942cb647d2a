import FormLogic.Proofs.Calls
import FormLogic.Proofs.Requests
import FormLogic.Proofs.StandardCasts
/-!
# Kind soundness

Under the standard casts, an operator never sees an argument of a kind that it has not declared, nor a number of
arguments that it does not admit, and what a call gives is of the declared kind.  The implementations may return
anything: the casts of the arguments and of the result stand between them.
-/
namespace FormLogic

/-- **Arguments that fit a signature**: as many as it admits, and each of them fitting the kind of its position. -/
structure Signature.Takes (s : Signature) (name : String) (args : List Value) : Prop where
  admits : s.admits args.length = true
  fits : ∀ i v, args[i]? = some v → ∃ kind, s.kindAt name i = .ok kind ∧ v.Fits kind

/-- **A call as its operator has declared it**: the arguments fit the signature, and so does the result, if the call is
observed with one. -/
def Call.IsKinded (operators : Registry) (c : Call) : Prop :=
  ∃ operator, operators.get? c.operator = some operator ∧ operator.signature.Takes c.operator c.arguments ∧
    ∀ result, c.result = some result → result.Fits operator.signature.returns

section
variable {rules : Rules} {scope : Scope} {path : Path}

theorem evaluateArgument_fits (hcasts : rules.casts = .standard) {name : String} {signature : Signature} {index : Nat}
    {argument cast : Value}
    (h : (evaluateArgument rules scope path name signature index argument).outcome = .ok cast) :
    ∃ kind, signature.kindAt name index = .ok kind ∧ cast.Fits kind := by
  obtain ⟨value, kind, -, hkind, hcast⟩ := evaluateArgument_eq_ok.mp h
  rw [hcasts] at hcast
  exact ⟨kind, hkind, CastTable.standard_cast_fits hcast⟩

/-- **The arguments of a call fit its signature** once all of them have been evaluated. -/
theorem evaluateArguments_takes (hcasts : rules.casts = .standard) {items : List Value} {entry : Entry}
    (hentry : rules.enter path items = .ok entry) {values : List Value}
    (h : (evaluateArguments rules scope path entry.name entry.operator.signature 0 entry.arguments).outcome
      = .ok values) : entry.operator.signature.Takes entry.name values := by
  obtain ⟨-, -, -, hcount⟩ := Rules.enter_eq_ok.mp hentry
  refine ⟨?_, fun i v hv => ?_⟩
  · rw [(evaluateArguments_eq_ok h).1]
    exact hcount
  · obtain ⟨argument, -, hargument⟩ := exists_argument_of_value h hv
    exact evaluateArgument_fits hcasts hargument

theorem invoke_fits (hcasts : rules.casts = .standard) {frame : Frame} {name : String} {operator : Operator}
    {args : List Value} {result : Value} (h : (invoke rules frame name operator args).outcome = .ok result) :
    result.Fits operator.signature.returns := by
  obtain ⟨raw, -, hcast⟩ := invoke_eq_ok.mp h
  rw [hcasts] at hcast
  exact CastTable.standard_cast_fits hcast

/-- **Whatever is observed at an operator is kinded**, when the arguments fit. -/
theorem isKinded_of_mem_invoke (hcasts : rules.casts = .standard) {frame : Frame} {name : String}
    {operator : Operator} {args : List Value} (hget : rules.operators.get? name = some operator)
    (hargs : operator.signature.Takes name args) {c : Call}
    (hc : c ∈ (invoke rules frame name operator args).calls) : c.IsKinded rules.operators := by
  rcases mem_calls_invoke.mp hc with rfl | ⟨result, hresult, rfl⟩
  · exact ⟨operator, hget, hargs, nofun⟩
  · refine ⟨operator, hget, hargs, fun r hr => ?_⟩
    cases hr
    exact invoke_fits hcasts hresult

/-- **Every call of an evaluation is kinded.** -/
theorem isKinded_of_mem_evaluate (hcasts : rules.casts = .standard) (e : Value) (path : Path) (c : Call)
    (hc : c ∈ (evaluate rules scope path e).calls) : c.IsKinded rules.operators := by
  replace hc := observedIn_of_mem_calls e hc
  induction hc with
  | inside _ _ _ ih => exact ih
  | operator entered evaluated observed =>
    obtain ⟨-, -, hget, -⟩ := Rules.enter_eq_ok.mp entered
    exact isKinded_of_mem_invoke hcasts hget (evaluateArguments_takes hcasts entered evaluated) observed

end

namespace Dialect

variable {d : Dialect}

theorem evaluate_array_fits (hcasts : d.casts = .standard) {maxDepth : Nat} {scope : Scope} {path : Path}
    {items : List Value} {v : Value}
    (h : (FormLogic.evaluate (d.rules maxDepth) scope path (.array items)).outcome = .ok v) :
    ∃ kind, d.declared? (.array items) = some kind ∧ v.Fits kind := by
  obtain ⟨entry, values, hentry, -, hinvoke⟩ := evaluate_array_eq_ok.mp h
  obtain ⟨-, hitems, hget, -⟩ := Rules.enter_eq_ok.mp hentry
  refine ⟨entry.operator.signature.returns, ?_, invoke_fits hcasts hinvoke⟩
  rw [hitems, declared?_cons hget]

/-- **What is asked for is what is returned**, where null is not replaced by a default value. -/
theorem finish_fits (hcasts : d.casts = .standard) {e value v : Value} {config : Config} {declared kind : Kind}
    (hdeclared : d.declared? e = some declared) (hvalue : value.Fits declared) (hdefault : config.defaultValue = none)
    (hkind : config.returnType = some kind) (h : d.finish e config value = .ok v) : v.Fits kind := by
  have hor : ∀ w, config.orDefault w = w := config.orDefault_of_none hdefault
  unfold finish at h
  rw [hkind, hdeclared] at h
  dsimp only at h
  split at h
  · rename_i hskip
    rw [hor] at h
    cases h
    rcases hskip with hnull | hsame
    · cases value with
      | null => exact Value.fits_null kind
      | _ => cases hnull
    · cases hsame
      exact hvalue
  · rw [hcasts] at h
    cases hcast : CastTable.standard.cast value kind with
    | error cause =>
      rw [hcast] at h
      cases h
    | ok w =>
      rw [hcast] at h
      cases h
      rw [hor]
      exact CastTable.standard_cast_fits hcast

/-- **Kind soundness.**  With the standard casts and any operators: every call that is observed has arguments that fit
its signature and, where there is one, a result that fits; the value of every call fits the declared kind; and a request
without a default value that asks for a kind gets a value that fits it. -/
theorem evaluate_fits (hcasts : d.casts = .standard) (e : Value) (sources : Sources) (node : Node) (config : Config) :
    (∀ c ∈ (d.evaluate e sources node config).calls, c.IsKinded d.operators) ∧
      (∀ maxDepth scope path items v,
        (FormLogic.evaluate (d.rules maxDepth) scope path (.array items)).outcome = .ok v →
          ∃ kind, d.declared? (.array items) = some kind ∧ v.Fits kind) ∧
      ∀ items kind v, e = .array items → config.defaultValue = none → config.returnType = some kind →
        (d.evaluate e sources node config).result = .ok v → v.Fits kind := by
  refine ⟨fun c hc => ?_, fun _ _ _ _ _ h => evaluate_array_fits hcasts h, ?_⟩
  · rw [calls_evaluate] at hc
    exact isKinded_of_mem_evaluate hcasts e [] c hc
  · rintro items kind v rfl hdefault hkind hresult
    have hroot := evaluateRoot_of_ok hresult hdefault
    rw [evaluateRoot_array, Run.outcome_bind_eq_ok] at hroot
    obtain ⟨value, hvalue, hfinish⟩ := hroot
    obtain ⟨declared, hdeclared, hfits⟩ := evaluate_array_fits hcasts hvalue
    exact finish_fits hcasts hdeclared hfits hdefault hkind (Run.outcome_step_eq_ok.mp hfinish)

/-- A text that is cast to a boolean for the operator, and its negation, which is cast to a text for the host. -/
theorem evaluate_fits_not :
    let e : Value := .array [.string "not", .string "TRUE"]
    let config : Config := { returnType := some .string }
    (Dialect.standard.evaluate e .none .detached config).result = .ok (.string "false") ∧
      (⟨[], "not", [.bool true], some (.bool false)⟩ : Call).IsKinded .standard ∧
      (Value.string "false").Fits .string := by
  intro e config
  have hcalls : (Dialect.standard.evaluate e .none .detached config).calls =
      [⟨[], "not", [.bool true], none⟩, ⟨[], "not", [.bool true], some (.bool false)⟩] := rfl
  have hresult : (Dialect.standard.evaluate e .none .detached config).result = .ok (.string "false") := rfl
  obtain ⟨hkinded, -, hfits⟩ :=
    evaluate_fits (show Dialect.standard.casts = .standard from rfl) e .none .detached config
  rw [hcalls] at hkinded
  exact ⟨hresult, hkinded _ (List.mem_cons_of_mem _ (List.mem_singleton_self _)),
    hfits _ _ _ rfl rfl rfl hresult⟩

end Dialect
end FormLogic
