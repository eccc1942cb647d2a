import FormLogic.Proofs.Causes
import FormLogic.Proofs.Checks
import FormLogic.Proofs.Requests
/-!
# The static check against the evaluation

The check and the evaluation walk an expression separately: the check goes on after an issue and looks at no data, the
evaluation stops at its first failure.  Yet they agree.  Every failure that depends on no data is foretold at its very
place (`check_foretells`), and wherever the check reports anything, no data makes the evaluation succeed
(`evaluate_fails_of_check`).
-/
namespace FormLogic

/-- **The code under which the check reports a failure**, by its cause and its sub-expression.  Nothing for the failures
that are left to the evaluation: those of a whole call that depend on its value, and a position without a kind. -/
def Cause.staticCode? (cause : Cause) (subexpression : Value) : Option String :=
  match cause, subexpression with
  | .unknownOperator _, _ => some "FORMEXPR_E_UNKNOWN_OPERATOR"
  | .argumentCount _ _ _ _, _ => some "FORMEXPR_E_ARGUMENT_COUNT"
  | .depthExceeded _, _ => some "FORMEXPR_E_DEPTH"
  | .undeclaredArgument _ _, _ => none
  | _, .array _ => none
  | _, _ => some "FORMEXPR_E_LITERAL"

/-- **A failure is foretold by issues**: it has a place, and if the check reports failures of its sort, then one of the
issues has that place, the words of the cause and the code of the sort. -/
def Failure.Foretold (issues : List Issue) (failure : Failure) : Prop :=
  ∃ origin, failure.origin = some origin ∧ ∀ code, failure.cause.staticCode? origin.expression = some code →
    ∃ issue ∈ issues, issue.path = origin.path ∧ issue.message = failure.cause.message ∧ issue.code = code

theorem Failure.Foretold.mono {issues issues' : List Issue} {failure : Failure} (h : failure.Foretold issues)
    (hsub : ∀ issue ∈ issues, issue ∈ issues') : failure.Foretold issues' := by
  obtain ⟨origin, horigin, hcode⟩ := h
  refine ⟨origin, horigin, fun code hc => ?_⟩
  obtain ⟨issue, hmem, hissue⟩ := hcode code hc
  exact ⟨issue, hsub issue hmem, hissue⟩

theorem Failure.foretold_of_none {issues : List Issue} {cause : Cause} {e : Value} {path : Path}
    (h : cause.staticCode? e = none) : (Failure.of cause e path).Foretold issues :=
  ⟨⟨e, path⟩, rfl, fun code hc => by
    have hc : cause.staticCode? e = some code := hc
    rw [h] at hc
    cases hc⟩

theorem Failure.foretold_of_mem {issues : List Issue} {cause : Cause} {e : Value} {path : Path} {issue : Issue}
    (hmem : issue ∈ issues) (hpath : issue.path = path) (hmessage : issue.message = cause.message)
    (hcode : cause.staticCode? e = some issue.code) : (Failure.of cause e path).Foretold issues :=
  ⟨⟨e, path⟩, rfl, fun code hc => by
    have hc : cause.staticCode? e = some code := hc
    rw [hcode] at hc
    cases hc
    exact ⟨issue, hmem, hpath, hmessage, rfl⟩⟩

theorem Cause.staticCode?_array {cause : Cause} (h : cause.OfOperator ∨ cause.OfCast) (items : List Value) :
    cause.staticCode? (.array items) = none := by
  cases cause <;> first | rfl | (rcases h with h | h <;> cases h)

theorem Cause.staticCode?_literal {cause : Cause} (h : cause.OfCast) {v : Value} (hv : v.items? = none) :
    cause.staticCode? v = some "FORMEXPR_E_LITERAL" := by
  cases v with
  | array items => cases hv
  | _ => cases cause <;> first | rfl | exact h.elim

section
variable {rules : Rules} {path : Path}

theorem check_array_of_enter {items : List Value} {entry : Entry} (h : rules.enter path items = .ok entry) :
    check rules path (.array items) =
      checkArguments rules path (some (entry.name, entry.operator.signature)) 0 entry.arguments := by
  obtain ⟨hdepth, rfl, hget, hcount⟩ := Rules.enter_eq_ok.mp h
  have hdepth : ¬ rules.maxDepth < path.length := Nat.not_lt_of_le hdepth
  have hcount : entry.operator.signature.checkCount entry.name entry.arguments.length = .ok () :=
    Signature.checkCount_eq_ok.mpr hcount
  rw [check_array_eq, Rules.call?_cons hget]
  simp only [Rules.callIssue?, Rules.checked, hdepth, if_false, hget, Option.map_some, hcount, Option.toList_none,
    List.nil_append]

theorem check_array_of_enter_error {items : List Value} {cause : Cause} (h : rules.enter path items = .error cause) :
    ∃ issue ∈ check rules path (.array items), issue.path = path ∧ issue.message = cause.message ∧
      cause.staticCode? (.array items) = some issue.code := by
  have hreported : ∀ {issue}, rules.callIssue? path items = some issue → issue ∈ check rules path (.array items) :=
    fun hissue => mem_check_array.mpr (.inl hissue)
  obtain ⟨hdeep, rfl⟩ | ⟨habove, ⟨hnameless, rfl⟩ | ⟨name, arguments, rfl, hname⟩⟩ := Rules.enter_eq_error h
  · exact ⟨_, hreported (callIssue?_eq_some.mpr (.inl ⟨hdeep, rfl⟩)), rfl, rfl, rfl⟩
  · refine ⟨_, hreported (callIssue?_eq_some.mpr (.inr ⟨habove, .inl ⟨hnameless, rfl⟩⟩)), rfl, rfl, ?_⟩
    obtain ⟨name, hname⟩ := exists_badHead_eq items
    rw [hname]
    rfl
  · obtain ⟨hunknown, rfl⟩ | ⟨operator, hknown, hrejected⟩ := hname
    · have hissue := callIssue?_eq_some.mpr (.inr ⟨habove, .inr ⟨name, arguments, rfl, .inl ⟨hunknown, rfl⟩⟩⟩)
      exact ⟨_, hreported hissue, rfl, rfl, rfl⟩
    · have hissue := callIssue?_eq_some.mpr
        (.inr ⟨habove, .inr ⟨name, arguments, rfl, .inr ⟨operator, cause, hknown, hrejected, rfl⟩⟩⟩)
      refine ⟨_, hreported hissue, rfl, rfl, ?_⟩
      rw [Signature.checkCount_eq_error hrejected]
      rfl

end

section
variable {rules : Rules} {scope : Scope}

theorem foretold_of_cast {path : Path} {name : String} {signature : Signature} {index : Nat} {argument value : Value}
    {cause : Cause} (hvalue : (evaluate rules scope path argument).outcome = .ok value)
    (h : (signature.kindAt name index >>= fun kind => rules.casts.cast value kind) = .error cause) :
    (Failure.of cause argument path).Foretold (literalIssues rules (some (name, signature)) path index argument) := by
  cases hkind : signature.kindAt name index with
  | error cause' =>
    rw [hkind] at h
    cases h
    rw [Signature.kindAt_eq_error hkind]
    exact Failure.foretold_of_none rfl
  | ok kind =>
    rw [hkind] at h
    have h : rules.casts.cast value kind = .error cause := h
    have hcast : cause.OfCast := rules.casts.cast_failsOnly value kind cause h
    cases hargument : argument.items? with
    | some items =>
      rw [Value.items?_eq_some.mp hargument]
      exact Failure.foretold_of_none (Cause.staticCode?_array (.inr hcast) items)
    | none =>
      rw [evaluate_literal hargument, Run.outcome_done, Except.ok.injEq] at hvalue
      subst hvalue
      rw [literalIssues_literal hargument, hkind]
      simp only [h]
      exact Failure.foretold_of_mem (List.mem_singleton_self _) rfl rfl (Cause.staticCode?_literal hcast hargument)

/-- **Every failure of an evaluation is foretold by the check in the same place**, wherever it comes from. -/
theorem foretold_evaluate (hops : rules.operators.IsCatalogued) (e : Value) (path : Path) (failure : Failure)
    (h : (evaluate rules scope path e).outcome = .error failure) : failure.Foretold (check rules path e) := by
  replace h := arisesIn_of_error e h
  induction h with
  | tests refused =>
    obtain ⟨issue, hmem, hpath, hmessage, hcode⟩ := check_array_of_enter_error refused
    exact Failure.foretold_of_mem hmem hpath hmessage hcode
  | @inside path items entry i argument failure entered position _ ih =>
    rw [check_array_of_enter entered]
    refine ih.mono fun issue hissue => mem_checkArguments.mpr ⟨i, argument, position, .inr ?_⟩
    rw [Nat.zero_add]
    exact hissue
  | @argument path items entry i argument value cause entered position evaluated refused =>
    rw [check_array_of_enter entered]
    refine (foretold_of_cast evaluated refused).mono fun issue hissue =>
      mem_checkArguments.mpr ⟨i, argument, position, .inl ?_⟩
    rw [Nat.zero_add]
    exact hissue
  | operator entered _ refused =>
    obtain ⟨-, -, hget, -⟩ := Rules.enter_eq_ok.mp entered
    have hsort : _ ∨ _ := hops.result_failsOnly hget rules.casts _ _ _ refused
    exact Failure.foretold_of_none (Cause.staticCode?_array hsort _)

/-- **The check finds nothing in an expression that evaluates.** -/
theorem check_eq_nil_of_evaluate (e : Value) :
    ∀ (path : Path) (v : Value), (evaluate rules scope path e).outcome = .ok v → check rules path e = [] := by
  induction e using Value.call_induction with
  | literal v hv =>
    intro path w _
    exact check_literal hv
  | call items ih =>
    intro path w h
    obtain ⟨entry, values, hentry, harguments, -⟩ := evaluate_array_eq_ok.mp h
    rw [check_array_of_enter hentry, List.eq_nil_iff_forall_not_mem]
    intro issue hissue
    obtain ⟨i, argument, hi, hissue⟩ := mem_checkArguments.mp hissue
    obtain ⟨cast, -, hcast⟩ := (evaluateArguments_eq_ok harguments).2 i argument hi
    obtain ⟨value, kind, hvalue, hkind, hcast⟩ := evaluateArgument_eq_ok.mp hcast
    rcases hissue with hissue | hissue
    · cases hargument : argument.items? with
      | some items =>
        rw [Value.items?_eq_some.mp hargument, literalIssues_array] at hissue
        cases hissue
      | none =>
        rw [evaluate_literal hargument, Run.outcome_done, Except.ok.injEq] at hvalue
        subst hvalue
        rw [literalIssues_literal hargument, hkind] at hissue
        simp only [hcast] at hissue
        cases hissue
    · rw [ih argument (Rules.mem_items_of_enter hentry hi) _ value hvalue] at hissue
      cases hissue

end

/-- **The check misses no static failure.**  Over a registry of standard implementations, whatever the signatures, the
casts and the data: a failure that depends on no data is reported in its place, in its words and under its code, and
an expression without issues fails for no such reason. -/
theorem check_foretells {rules : Rules} (hops : rules.operators.IsCatalogued) {scope : Scope} {e : Value}
    {failure : Failure} (h : (evaluate rules scope [] e).outcome = .error failure) :
    failure.Foretold (check rules [] e) ∧
      (check rules [] e = [] →
        ∃ origin, failure.origin = some origin ∧ failure.cause.staticCode? origin.expression = none) := by
  have hforetold : failure.Foretold (check rules [] e) := foretold_evaluate hops e [] failure h
  refine ⟨hforetold, fun hnil => ?_⟩
  obtain ⟨origin, horigin, hissue⟩ := hforetold
  refine ⟨origin, horigin, ?_⟩
  cases hcode : failure.cause.staticCode? origin.expression with
  | none => rfl
  | some code =>
    obtain ⟨issue, hmem, -⟩ := hissue code hcode
    rw [hnil] at hmem
    cases hmem

/-- A literal that is no boolean, in the branch that the condition does not choose. -/
theorem check_foretells_branch :
    let rules : Rules := Dialect.standard.rules 64
    let maybe : Value := .string "maybe"
    let e : Value := .array [.string "if", .bool false, .array [.string "not", maybe]]
    (Failure.of (.unexpectedValue .boolean maybe) maybe [2, 1]).Foretold (check rules [] e) :=
  (check_foretells Registry.standard_isCatalogued
    (show (evaluate _ ⟨.none, .detached, []⟩ [] _).outcome = .error _ from rfl)).1

/-- **The check raises no false alarm.**  Where it reports anything, anywhere in the expression, the evaluation fails on
all data, and so does every request under that depth limit that has no default value. -/
theorem evaluate_fails_of_check {d : Dialect} {e : Value} {maxDepth : Nat} (h : d.check e maxDepth ≠ []) :
    (∀ scope, ∃ failure, (evaluate (d.rules maxDepth) scope [] e).outcome = .error failure) ∧
      ∀ (sources : Sources) (node : Node) (config : Config), config.depthLimit = maxDepth →
        config.defaultValue = none → ∃ report, (d.evaluate e sources node config).result = .error report := by
  have hfails : ∀ scope, ∃ failure, (evaluate (d.rules maxDepth) scope [] e).outcome = .error failure := by
    intro scope
    cases houtcome : (evaluate (d.rules maxDepth) scope [] e).outcome with
    | error failure => exact ⟨failure, rfl⟩
    | ok v => exact absurd (check_eq_nil_of_evaluate e [] v houtcome) h
  refine ⟨hfails, fun sources node config hdepth hdefault => ?_⟩
  cases hitems : e.items? with
  | none =>
    -- a literal has no issues
    obtain ⟨failure, hfailure⟩ := hfails (config.scope sources node)
    rw [evaluate_literal hitems] at hfailure
    cases hfailure
  | some items =>
    cases Value.items?_eq_some.mp hitems
    obtain ⟨failure, hfailure⟩ := hfails (config.scope sources node)
    have hroot : (d.evaluateRoot (.array items) (config.scope sources node) config).outcome = .error failure := by
      rw [Dialect.evaluateRoot_array, Run.outcome_bind_eq_error, hdepth]
      exact .inl hfailure
    exact ⟨_, (Dialect.evaluate_of_error hroot hdefault).1⟩

/-- An unknown operator, and a call below it that is reported as well. -/
theorem evaluate_fails_of_check_below_unknown :
    let e : Value := .array [.string "perhaps", .array [.string "not", .string "maybe"]]
    (Dialect.standard.check e 64).length = 2 ∧
      ∃ report, (Dialect.standard.evaluate e .none .detached {}).result = .error report := by
  intro e
  have hissues : (Dialect.standard.check e 64).length = 2 := rfl
  have hfails := evaluate_fails_of_check (List.ne_nil_of_length_eq_add_one hissues)
  exact ⟨hissues, hfails.2 .none .detached {} rfl rfl⟩

end FormLogic
