import FormLogic.Operator.Catalog
import FormLogic.Proofs.Calls
/-!
# The first failure

The arguments of a call are taken from left to right, each of them evaluated, given its kind and cast before the next is
looked at.  So a call fails with the first of its arguments that fails, and what stands after that argument has no
influence on anything.  A call that does not get as far as its arguments looks at none of them.
-/
namespace FormLogic

section
variable {rules : Rules} {scope : Scope} {path : Path} {name : String} {signature : Signature}

/-- **What stands after a failure is never looked at.** -/
theorem evaluateArguments_append_of_error : ∀ {index : Nat} {arguments : List Value} {failure : Failure},
    (evaluateArguments rules scope path name signature index arguments).outcome = .error failure →
      ∀ rest, evaluateArguments rules scope path name signature index (arguments ++ rest) =
        evaluateArguments rules scope path name signature index arguments
  | index, [], failure, h, rest => by cases h
  | index, first :: others, failure, h, rest => by
    rw [evaluateArguments_cons, Run.outcome_bind_eq_error] at h
    rw [List.cons_append, evaluateArguments_cons, evaluateArguments_cons]
    refine Run.bind_congr fun value hvalue => ?_
    rcases h with hfirst | ⟨value', -, hothers⟩
    · rw [hvalue] at hfirst
      cases hfirst
    · -- the values are only put together after `others`, so the failure is theirs
      have hothers :
          (evaluateArguments rules scope path name signature (index + 1) others).outcome = .error failure := by
        simpa only [Run.outcome_bind_eq_error, Run.outcome_pure, reduceCtorEq, and_false, exists_false, or_false]
          using hothers
      rw [evaluateArguments_append_of_error hothers rest]

/-- **The first argument that fails decides**: those before it succeed, and all of them fail as it does. -/
theorem evaluateArguments_of_first : ∀ {index : Nat} {before : List Value} {argument : Value} {failure : Failure},
    (∀ j earlier, before[j]? = some earlier →
      ∃ value, (evaluateArgument rules scope path name signature (index + j) earlier).outcome = .ok value) →
    (evaluateArgument rules scope path name signature (index + before.length) argument).outcome = .error failure →
      (evaluateArguments rules scope path name signature index (before ++ [argument])).outcome = .error failure
  | index, [], argument, failure, _, hfails => by
    rw [List.nil_append, evaluateArguments_cons, Run.outcome_bind_eq_error]
    exact .inl hfails
  | index, first :: before, argument, failure, hbefore, hfails => by
    obtain ⟨value, hvalue⟩ := hbefore 0 first rfl
    have hrest : (evaluateArguments rules scope path name signature (index + 1) (before ++ [argument])).outcome =
        .error failure := by
      refine evaluateArguments_of_first (fun j earlier hj => ?_) ?_
      · rw [show index + 1 + j = index + (j + 1) by omega]
        exact hbefore (j + 1) earlier hj
      · rw [show index + 1 + before.length = index + (before.length + 1) by omega]
        exact hfails
    rw [List.cons_append, evaluateArguments_cons, Run.outcome_bind_eq_error]
    exact .inr ⟨value, hvalue, Run.outcome_bind_eq_error.mpr (.inl hrest)⟩

theorem Rules.enter_error_congr {items items' : List Value} {cause : Cause} (h : rules.enter path items = .error cause)
    (hhead : items'.head? = items.head?) (hlength : items'.length = items.length) :
    rules.enter path items' = .error cause := by
  cases items with
  | nil =>
    rw [List.length_eq_zero_iff.mp hlength]
    exact h
  | cons head arguments =>
    cases items' with
    | nil => cases hlength
    | cons head' arguments' =>
      cases hhead
      rw [Rules.enter_of_length_eq (Nat.succ.inj hlength), h]
      rfl

theorem evaluate_of_enter_error {items : List Value} {cause : Cause} (h : rules.enter path items = .error cause) :
    evaluate rules scope path (.array items) = Run.failed (.of cause (.array items) path) := by
  rw [evaluate_array, h]
  rfl

theorem evaluate_of_arguments_error {items : List Value} {entry : Entry} {failure : Failure}
    (hentry : rules.enter path items = .ok entry)
    (h : (evaluateArguments rules scope path entry.name entry.operator.signature 0 entry.arguments).outcome
      = .error failure) :
    evaluate rules scope path (.array items) =
      ⟨(evaluateArguments rules scope path entry.name entry.operator.signature 0 entry.arguments).calls,
        .error failure⟩ := by
  rw [evaluate_array, hentry]
  exact Run.andThen_error h _

end

/-- **The first failure wins.**  A call within the depth limit, of an operator that takes so many arguments, fails
exactly as the first of its arguments that fails, be it in its evaluation, for its kind or in its cast; with any other
expressions in place of those after it, as many of them, the run is the same, in its failure and in all its calls.  A
call that fails one of the tests before its arguments makes no call at all, and the cause does not depend on what its
arguments are. -/
theorem evaluate_first_failure (rules : Rules) (scope : Scope) (path : Path) :
    (∀ name operator before argument after failure, path.length ≤ rules.maxDepth →
      rules.operators.get? name = some operator →
      operator.signature.checkCount name (before ++ argument :: after).length = .ok () →
      (∀ j earlier, before[j]? = some earlier →
        ∃ value, (evaluateArgument rules scope path name operator.signature j earlier).outcome = .ok value) →
      (evaluateArgument rules scope path name operator.signature before.length argument).outcome = .error failure →
      (evaluate rules scope path (.array (.string name :: (before ++ argument :: after)))).outcome = .error failure ∧
        ∀ after', after'.length = after.length →
          evaluate rules scope path (.array (.string name :: (before ++ argument :: after'))) =
            evaluate rules scope path (.array (.string name :: (before ++ argument :: after)))) ∧
    ∀ items items' cause, rules.enter path items = .error cause →
      items'.head? = items.head? → items'.length = items.length →
        (evaluate rules scope path (.array items')).calls = [] ∧
          (evaluate rules scope path (.array items')).outcome = .error (.of cause (.array items') path) := by
  constructor
  · intro name operator before argument after failure hpath hget hcount hbefore hfails
    have hfirst : (evaluateArguments rules scope path name operator.signature 0 (before ++ [argument])).outcome =
        .error failure := by
      refine evaluateArguments_of_first (fun j earlier hj => ?_) ?_
      · rw [Nat.zero_add]
        exact hbefore j earlier hj
      · rw [Nat.zero_add]
        exact hfails
    -- the run is said without `after'`, which the tests only count
    have hrun : ∀ after', after'.length = after.length →
        evaluate rules scope path (.array (.string name :: (before ++ argument :: after'))) =
          ⟨(evaluateArguments rules scope path name operator.signature 0 (before ++ [argument])).calls,
            .error failure⟩ := by
      intro after' hlength
      have hlength : (before ++ argument :: after').length = (before ++ argument :: after).length := by
        simp only [List.length_append, List.length_cons, hlength]
      rw [← hlength] at hcount
      have hentry : rules.enter path (.string name :: (before ++ argument :: after')) =
          .ok ⟨name, operator, before ++ argument :: after'⟩ :=
        Rules.enter_eq_ok.mpr ⟨hpath, rfl, hget, Signature.checkCount_eq_ok.mp hcount⟩
      have harguments : evaluateArguments rules scope path name operator.signature 0 (before ++ argument :: after') =
          evaluateArguments rules scope path name operator.signature 0 (before ++ [argument]) := by
        rw [List.append_cons]
        exact evaluateArguments_append_of_error hfirst after'
      rw [evaluate_of_arguments_error hentry (by rw [harguments, hfirst]), harguments]
    refine ⟨by rw [hrun after rfl], fun after' hlength => ?_⟩
    rw [hrun after' hlength, hrun after rfl]
  · intro items items' cause hcause hhead hlength
    rw [evaluate_of_enter_error (Rules.enter_error_congr hcause hhead hlength)]
    exact ⟨rfl, rfl⟩

/-- A word that is no boolean, between two operands; and a negation with an operand too many. -/
theorem evaluate_first_failure_operand :
    let rules : Rules := ⟨.standard, .standard, 64⟩
    let scope : Scope := ⟨.none, .detached, []⟩
    let before : List Value := [.array [.string "not", .bool false]]
    let maybe : Value := .string "maybe"
    let failure : Failure := .of (.unexpectedValue .boolean maybe) maybe [2]
    let unknown : Value := .array [.string "unknown"]
    (∃ operator, rules.operators.get? "and" = some operator ∧
        (evaluateArgument rules scope [] "and" operator.signature 1 maybe).outcome = .error failure) ∧
      (evaluate rules scope [] (.array (.string "and" :: (before ++ maybe :: [.bool true])))).outcome = .error failure ∧
      evaluate rules scope [] (.array (.string "and" :: (before ++ maybe :: [unknown]))) =
        evaluate rules scope [] (.array (.string "and" :: (before ++ maybe :: [.bool true]))) ∧
      rules.enter [] [.string "not", .bool true, .bool true] = .error (.argumentCount "not" 1 (some 1) 2) ∧
      (evaluate rules scope [] (.array [.string "not", unknown, unknown])).calls = [] := by
  intro rules scope before maybe failure unknown
  have hget : rules.operators.get? "and" = some Builtin.and.operator := rfl
  have hbefore : ∀ j earlier, before[j]? = some earlier →
      ∃ value,
        (evaluateArgument rules scope [] "and" Builtin.and.operator.signature j earlier).outcome = .ok value := by
    intro j earlier hj
    obtain ⟨hlt, rfl⟩ := List.getElem?_eq_some_iff.mp hj
    obtain rfl : j = 0 := by
      have hlength : before.length = 1 := rfl
      omega
    exact ⟨.bool true, rfl⟩
  have hfails : (evaluateArgument rules scope [] "and" Builtin.and.operator.signature before.length maybe).outcome =
      .error failure := rfl
  have hrefused : rules.enter [] [.string "not", .bool true, .bool true] =
      .error (.argumentCount "not" 1 (some 1) 2) := rfl
  obtain ⟨hfirst, htests⟩ := evaluate_first_failure rules scope []
  obtain ⟨houtcome, hsame⟩ :=
    hfirst "and" _ before maybe [.bool true] failure (Nat.zero_le 64) hget rfl hbefore hfails
  exact ⟨⟨_, hget, hfails⟩, houtcome, hsame [unknown] rfl, hrefused, (htests _ _ _ hrefused rfl rfl).1⟩

end FormLogic
