import FormLogic.Proofs.Composition
import FormLogic.Proofs.StaticCheck
/-!
# The depth limit

A call may stand as deeply as the limit and no deeper.  An evaluation that meets no call below the limit does not depend
on it: under any greater limit it is the same, call by call.  One that does meet such a call ends there, one step below
the limit.  The check draws the line in the same place.
-/
namespace FormLogic

/-- **A run that another one repeats**, unless it ends in a failure of some sort. -/
def Run.RepeatedUnless {α : Type} (sort : Failure → Prop) (run run' : Run α) : Prop :=
  (∀ failure, run.outcome = .error failure → ¬ sort failure) → run' = run

def Failure.IsTooDeep (failure : Failure) : Prop := ∃ limit, failure.cause = .depthExceeded limit

namespace Run.RepeatedUnless

variable {α β : Type} {sort : Failure → Prop}

theorem refl (run : Run α) : run.RepeatedUnless sort run := fun _ => rfl

/-- **One run after the other** is repeated part by part: where a part ends in such a failure, so does the whole. -/
theorem bind {run run' : Run α} {next next' : α → Run β} (hrun : run.RepeatedUnless sort run')
    (hnext : ∀ a, run.outcome = .ok a → (next a).RepeatedUnless sort (next' a)) :
    (run >>= next).RepeatedUnless sort (run' >>= next') := by
  intro h
  have hsame : run' = run := hrun fun failure hfailure =>
    h failure (Run.outcome_bind_eq_error.mpr (.inl hfailure))
  rw [hsame]
  refine Run.bind_congr fun a ha => hnext a ha fun failure hfailure => ?_
  exact h failure (Run.outcome_bind_eq_error.mpr (.inr ⟨a, ha, hfailure⟩))

end Run.RepeatedUnless

section
variable {rules : Rules} {scope : Scope} {limit : Nat}

theorem evaluateArgument_repeated {path : Path} {name : String} {signature : Signature} {index : Nat} {argument : Value}
    (h : (evaluate rules scope (path ++ [index + 1]) argument).RepeatedUnless Failure.IsTooDeep
      (evaluate (rules.withLimit limit) scope (path ++ [index + 1]) argument)) :
    (evaluateArgument rules scope path name signature index argument).RepeatedUnless Failure.IsTooDeep
      (evaluateArgument (rules.withLimit limit) scope path name signature index argument) :=
  .bind h fun _ _ => .refl _

theorem evaluateArguments_repeated {path : Path} {name : String} {signature : Signature} :
    ∀ {index : Nat} {arguments : List Value},
      (∀ argument ∈ arguments, ∀ path, (evaluate rules scope path argument).RepeatedUnless Failure.IsTooDeep
        (evaluate (rules.withLimit limit) scope path argument)) →
      (evaluateArguments rules scope path name signature index arguments).RepeatedUnless Failure.IsTooDeep
        (evaluateArguments (rules.withLimit limit) scope path name signature index arguments)
  | index, [], _ => .refl _
  | index, first :: rest, h => by
    rw [evaluateArguments_cons, evaluateArguments_cons]
    refine .bind (evaluateArgument_repeated (h first List.mem_cons_self _)) fun value _ => ?_
    exact .bind (evaluateArguments_repeated fun argument ha => h argument (List.mem_cons_of_mem first ha)) fun _ _ =>
      .refl _

/-- **An evaluation is repeated under a greater limit**, unless it fails for the depth.  The induction is on the
expression, for all paths at once; the tests before the arguments of a call are the same unless they fail for the
depth. -/
theorem evaluate_repeated (hops : rules.operators.IsCatalogued) (h : rules.maxDepth ≤ limit) (e : Value) : ∀ path,
    (evaluate rules scope path e).RepeatedUnless Failure.IsTooDeep
      (evaluate (rules.withLimit limit) scope path e) := by
  induction e using Value.call_induction with
  | literal v hv =>
    intro path
    rw [evaluate_literal hv, evaluate_literal hv]
    exact .refl _
  | call items ih =>
    intro path
    rw [evaluate_array, evaluate_array]
    rcases Nat.lt_or_ge rules.maxDepth path.length with hdeep | hshallow
    · intro hnot
      rw [Rules.enter_of_lt hdeep] at hnot
      exact absurd ⟨_, rfl⟩ (hnot _ rfl)
    · have hoperators : (rules.withLimit limit).operators = rules.operators := rfl
      have henter : (rules.withLimit limit).enter path items = rules.enter path items :=
        Rules.enter_of_le hoperators (Nat.le_trans hshallow h) hshallow items
      rw [henter]
      cases hentry : rules.enter path items with
      | error cause => exact .refl _
      | ok entry =>
        refine .bind (.refl (Run.done entry)) fun a ha => ?_
        cases ha
        refine .bind (evaluateArguments_repeated fun argument ha =>
          ih argument (Rules.arguments_subset_of_enter hentry ha)) fun values _ _ => ?_
        -- a standard implementation is not told the limit
        obtain ⟨-, -, hget, -⟩ := Rules.enter_eq_ok.mp hentry
        have hcasts : (rules.withLimit limit).casts = rules.casts := rfl
        refine invoke_congr hcasts rfl ?_ entry.name
        exact hops.run_congr hget values rfl

/-- **A failure for the depth is one step below the limit**, at a call: only a call within the limit hands on a path. -/
theorem tooDeep_of_error (hops : rules.operators.IsCatalogued) (e : Value) {path : Path} {failure : Failure}
    (hpath : path.length ≤ rules.maxDepth + 1) (h : (evaluate rules scope path e).outcome = .error failure)
    (hdeep : failure.IsTooDeep) :
    ∃ items place, failure = .of (.depthExceeded rules.maxDepth) (.array items) place ∧
      place.length = rules.maxDepth + 1 := by
  obtain ⟨bound, hbound⟩ := hdeep
  replace h := arisesIn_of_error e h
  induction h with
  | @tests path items cause refused =>
    cases hbound
    obtain ⟨hlt, rfl⟩ := Rules.lt_of_enter_eq_depthExceeded refused
    exact ⟨items, path, rfl, by omega⟩
  | @inside path items entry i argument failure entered _ inner ih =>
    refine ih ?_ hbound
    rw [List.length_append, List.length_singleton]
    exact Nat.succ_le_succ (Rules.enter_eq_ok.mp entered).1
  -- neither an argument nor an operator fails for the depth
  | @argument path items entry i argument value cause _ _ _ refused =>
    cases hbound
    exact (Signature.argument_failsOnly _ _ _ rules.casts value _ refused).elim nofun False.elim
  | operator entered _ refused =>
    cases hbound
    obtain ⟨-, -, hget, -⟩ := Rules.enter_eq_ok.mp entered
    exact (hops.result_failsOnly hget rules.casts _ _ _ refused).elim False.elim False.elim

theorem length_le_of_mem_calls (e : Value) {path : Path} {c : Call} (hc : c ∈ (evaluate rules scope path e).calls) :
    c.path.length ≤ rules.maxDepth := by
  replace hc := observedIn_of_mem_calls e hc
  induction hc with
  | inside _ _ _ ih => exact ih
  | operator entered _ observed =>
    obtain ⟨hpath, -, -, -⟩ := Rules.enter_eq_ok.mp entered
    rcases mem_calls_invoke.mp observed with rfl | ⟨result, -, rfl⟩
    · exact hpath
    · exact hpath

/-- **What the check passes under a limit it passes under a greater one.** -/
theorem check_eq_nil_of_le (h : rules.maxDepth ≤ limit) (e : Value) : ∀ path,
    check rules path e = [] → check (rules.withLimit limit) path e = [] := by
  induction e using Value.call_induction with
  | literal v hv =>
    intro path _
    exact check_literal hv
  | call items ih =>
    intro path hnil
    cases hentry : rules.enter path items with
    | error cause =>
      obtain ⟨issue, hissue, -⟩ := check_array_of_enter_error hentry
      rw [hnil] at hissue
      cases hissue
    | ok entry =>
      have hshallow : path.length ≤ rules.maxDepth := (Rules.enter_eq_ok.mp hentry).1
      have hoperators : (rules.withLimit limit).operators = rules.operators := rfl
      have hentry' : (rules.withLimit limit).enter path items = .ok entry := by
        rw [← hentry]
        exact Rules.enter_of_le hoperators (Nat.le_trans hshallow h) hshallow items
      rw [check_array_of_enter hentry, List.eq_nil_iff_forall_not_mem] at hnil
      rw [check_array_of_enter hentry', List.eq_nil_iff_forall_not_mem]
      intro issue hissue
      obtain ⟨i, argument, hi, hliteral | hinner⟩ := mem_checkArguments.mp hissue
      · exact hnil issue (mem_checkArguments.mpr ⟨i, argument, hi, .inl hliteral⟩)
      · have hargument : check rules (path ++ [0 + i + 1]) argument = [] := by
          rw [List.eq_nil_iff_forall_not_mem]
          exact fun issue hissue => hnil issue (mem_checkArguments.mpr ⟨i, argument, hi, .inr hissue⟩)
        rw [ih argument (Rules.mem_items_of_enter hentry hi) _ hargument] at hinner
        cases hinner

end

/-- **The depth-limit law.**  Over a registry of standard implementations: an evaluation that does not fail for the
depth is the same under any greater limit.  One that does names its limit, and blames a call exactly one step below it.
No call is made below the limit, an expression that evaluates has none there, and what the check passes it passes under
any greater limit. -/
theorem evaluate_depth_limit {rules : Rules} (hops : rules.operators.IsCatalogued) {limit : Nat}
    (hlimit : rules.maxDepth ≤ limit) (scope : Scope) (e : Value) :
    ((∀ failure, (evaluate rules scope [] e).outcome = .error failure → ¬ failure.IsTooDeep) →
      evaluate (rules.withLimit limit) scope [] e = evaluate rules scope [] e) ∧
    (∀ failure, (evaluate rules scope [] e).outcome = .error failure → failure.IsTooDeep →
      ∃ items place, failure = .of (.depthExceeded rules.maxDepth) (.array items) place ∧
        place.length = rules.maxDepth + 1) ∧
    (∀ c ∈ (evaluate rules scope [] e).calls, c.path.length ≤ rules.maxDepth) ∧
    (∀ v, (evaluate rules scope [] e).outcome = .ok v → ∀ path items, e.Reaches path (.array items) →
      path.length ≤ rules.maxDepth) ∧
    (check rules [] e = [] → check (rules.withLimit limit) [] e = []) := by
  refine ⟨evaluate_repeated hops hlimit e [], fun failure hfailure hdeep => ?_, fun c hc => length_le_of_mem_calls e hc,
    fun v hv path items hreaches => ?_, check_eq_nil_of_le hlimit e []⟩
  · exact tooDeep_of_error hops e (Nat.zero_le _) hfailure hdeep
  · obtain ⟨w, hw⟩ := evaluate_ok_of_reaches hv hreaches
    exact length_le_of_evaluate_ok hw

/-- Two negations within a limit of one, and three beyond it. -/
theorem evaluate_depth_limit_negations :
    let rules : Rules := ⟨.standard, .standard, 1⟩
    let scope : Scope := ⟨.none, .detached, []⟩
    let negation (v : Value) : Value := .array [.string "not", v]
    let two : Value := negation (negation (.bool true))
    let three : Value := negation two
    let failure : Failure := .of (.depthExceeded 1) (negation (.bool true)) [1, 1]
    rules.operators.IsCatalogued ∧ rules.maxDepth ≤ 64 ∧
      (evaluate rules scope [] two).outcome = .ok (.bool true) ∧
      evaluate (rules.withLimit 64) scope [] two = evaluate rules scope [] two ∧
      two.Reaches [1] (negation (.bool true)) ∧ [1].length ≤ rules.maxDepth ∧
      check rules [] two = [] ∧ check (rules.withLimit 64) [] two = [] ∧
      (⟨[1], "not", [.bool true], none⟩ : Call) ∈ (evaluate rules scope [] two).calls ∧
      (evaluate rules scope [] three).outcome = .error failure ∧ failure.IsTooDeep ∧
      ∃ items place, failure = .of (.depthExceeded rules.maxDepth) (.array items) place ∧
        place.length = rules.maxDepth + 1 := by
  intro rules scope negation two three failure
  have hops : rules.operators.IsCatalogued := Registry.standard_isCatalogued
  have hlimit : rules.maxDepth ≤ 64 := by decide
  have hvalue : (evaluate rules scope [] two).outcome = .ok (.bool true) := rfl
  have hreaches : two.Reaches [1] (negation (.bool true)) := .cons (Nat.le_refl 1) rfl (.refl _)
  have hcheck : check rules [] two = [] := rfl
  have hcall : (⟨[1], "not", [.bool true], none⟩ : Call) ∈ (evaluate rules scope [] two).calls := List.mem_cons_self
  have hfails : (evaluate rules scope [] three).outcome = .error failure := rfl
  have hdeep : failure.IsTooDeep := ⟨1, rfl⟩
  obtain ⟨hsame, -, -, hreached, hpasses⟩ := evaluate_depth_limit hops hlimit scope two
  obtain ⟨-, hplace, -⟩ := evaluate_depth_limit hops hlimit scope three
  refine ⟨hops, hlimit, hvalue, hsame fun failure hfailure => ?_, hreaches, hreached _ hvalue _ _ hreaches, hcheck,
    hpasses hcheck, hcall, hfails, hdeep, hplace failure hfails hdeep⟩
  rw [hvalue] at hfailure
  cases hfailure

end FormLogic
