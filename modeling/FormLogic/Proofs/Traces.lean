import FormLogic.Expression.Dialect
import FormLogic.Proofs.PostOrder
/-!
# The trace of an evaluation

Evaluation is eager: it makes the calls of an expression one after the other in post-order, whatever the operators, and
sees each of them before its operator runs and at once again after.  A failure ends it somewhere along the way.  Of the
calls that have been seen, only the last can then be without a result, and it is so exactly when the failure is its own.
-/
namespace FormLogic

/-- The call as it is seen before its operator runs. -/
def Call.before (c : Call) : Call := { c with result := none }

/-- **What is observed of calls that are made one after the other**, each of them completed before the next. -/
def observations (done : List Call) : List Call := done.flatMap fun c => [c.before, c]

/-- **The call that a failure comes from**: the one in the place that is blamed.  It has been allowed to go on to its
arguments, these have been computed, and then its implementation has failed, or the cast of the raw result. -/
def Failure.ComesFrom (rules : Rules) (scope : Scope) (failure : Failure) (c : Call) : Prop :=
  ∃ items operator arguments cause, rules.enter c.path items = .ok ⟨c.operator, operator, arguments⟩ ∧
    (evaluateArguments rules scope c.path c.operator operator.signature 0 arguments).outcome = .ok c.arguments ∧
    c.result = none ∧
    (operator.run c.arguments ⟨.array items, c.path, scope, rules.env⟩ = .error cause ∨
      ∃ raw, operator.run c.arguments ⟨.array items, c.path, scope, rules.env⟩ = .ok raw ∧
        rules.casts.cast raw operator.signature.returns = .error cause) ∧
    failure = .of cause (.array items) c.path

/-- **A run that makes the calls in some places, in order.**  If it succeeds it has made all of them, and each was
observed before and at once after.  If it fails it has made the calls in the first few places; they have been completed,
but for a last one that is pending exactly when it is the source of the failure. -/
structure Run.Follows {α : Type} (run : Run α) (paths : List Path) (source : Failure → Call → Prop) : Prop where
  completes : ∀ a, run.outcome = .ok a → ∃ done : List Call, (∀ c ∈ done, c.result.isSome = true) ∧
    run.calls = observations done ∧ done.map Call.path = paths
  stops : ∀ failure, run.outcome = .error failure → ∃ (done : List Call) (pending : Option Call),
    (∀ c ∈ done, c.result.isSome = true) ∧ run.calls = observations done ++ pending.toList ∧
      (done ++ pending.toList).map Call.path <+: paths ∧ ∀ c, pending = some c ↔ source failure c

theorem observations_append (done done' : List Call) :
    observations (done ++ done') = observations done ++ observations done' := List.flatMap_append

namespace Run.Follows

variable {α β : Type} {run : Run α} {next : α → Run β} {paths paths' : List Path} {source : Failure → Call → Prop}

theorem done (a : α) : (Run.done a).Follows [] source := by
  refine ⟨fun _ _ => ⟨[], nofun, rfl, rfl⟩, fun failure h => ?_⟩
  cases h

theorem failed {failure : Failure} (h : ∀ c, ¬ source failure c) :
    (Run.failed failure : Run α).Follows paths source := by
  refine ⟨fun a ha => (by cases ha), fun failure' hfailure => ?_⟩
  cases hfailure
  refine ⟨[], none, nofun, rfl, List.nil_prefix, fun c => ?_⟩
  constructor
  · intro hc
    cases hc
  · intro hc
    exact absurd hc (h c)

/-- **One run after the other** makes the calls of both. -/
theorem bind (hrun : run.Follows paths source)
    (hnext : ∀ a, run.outcome = .ok a → (next a).Follows paths' source) :
    (run >>= next).Follows (paths ++ paths') source := by
  rw [Run.bind_eq]
  cases houtcome : run.outcome with
  | error failure =>
    rw [Run.andThen_error houtcome]
    refine ⟨fun b hb => (by cases hb), fun failure' hfailure => ?_⟩
    cases hfailure
    obtain ⟨done, pending, hdone, hcalls, hprefix, hsource⟩ := hrun.stops failure houtcome
    exact ⟨done, pending, hdone, hcalls, hprefix.trans (List.prefix_append paths paths'), hsource⟩
  | ok a =>
    rw [Run.andThen_ok houtcome]
    obtain ⟨done, hdone, hcalls, rfl⟩ := hrun.completes a houtcome
    constructor
    · intro b hb
      obtain ⟨done', hdone', hcalls', rfl⟩ := (hnext a houtcome).completes b hb
      refine ⟨done ++ done', fun c hc => ?_, ?_, List.map_append⟩
      · exact (List.mem_append.mp hc).elim (hdone c) (hdone' c)
      · rw [hcalls, hcalls', observations_append]
    · intro failure hfailure
      obtain ⟨done', pending, hdone', hcalls', hprefix, hsource⟩ := (hnext a houtcome).stops failure hfailure
      refine ⟨done ++ done', pending, fun c hc => ?_, ?_, ?_, hsource⟩
      · exact (List.mem_append.mp hc).elim (hdone c) (hdone' c)
      · rw [hcalls, hcalls', observations_append, List.append_assoc]
      · rw [List.append_assoc, List.map_append]
        exact (List.prefix_append_right_inj (done.map Call.path)).mpr hprefix

theorem step {result : Except Cause α} {e : Value} {path : Path}
    (h : ∀ cause, result = .error cause → ∀ c, ¬ source (.of cause e path) c) :
    (Run.step result e path).Follows [] source := by
  cases result with
  | ok a => exact .done a
  | error cause => exact .failed (h cause rfl)

end Run.Follows

section
variable {rules : Rules} {scope : Scope}

theorem Failure.ComesFrom.evaluate_eq_error {failure : Failure} {c : Call} (h : failure.ComesFrom rules scope c) :
    ∃ cause items, failure = .of cause (.array items) c.path ∧
      (evaluate rules scope c.path (.array items)).outcome = .error failure := by
  obtain ⟨items, operator, arguments, cause, henter, harguments, -, hrun, rfl⟩ := h
  refine ⟨cause, items, rfl, evaluate_array_eq_error.mpr (.inr ⟨_, henter, .inr ⟨c.arguments, harguments, ?_⟩⟩)⟩
  refine invoke_eq_error.mpr ⟨cause, ?_, rfl⟩
  rcases hrun with hrun | ⟨raw, hrun, hcast⟩
  · rw [hrun]
    rfl
  · rw [hrun]
    exact hcast

/-- A failure that is blamed on an expression which has been evaluated comes from no call. -/
theorem not_comesFrom_of_ok {e v : Value} {path : Path} (hok : (evaluate rules scope path e).outcome = .ok v)
    (cause : Cause) (c : Call) : ¬ (Failure.of cause e path).ComesFrom rules scope c := by
  intro h
  obtain ⟨cause', items, heq, hfails⟩ := h.evaluate_eq_error
  cases heq
  rw [hok] at hfails
  cases hfails

theorem not_comesFrom_of_enter {items : List Value} {path : Path} {cause : Cause}
    (h : rules.enter path items = .error cause) (c : Call) :
    ¬ (Failure.of cause (.array items) path).ComesFrom rules scope c := by
  rintro ⟨items', operator, arguments, cause', henter, -, -, -, heq⟩
  cases heq
  rw [h] at henter
  cases henter

/-- **The operator makes one call**, in the place of the frame, and is the source of whatever failure it ends with. -/
theorem invoke_follows {path : Path} {items : List Value} {entry : Entry} {values : List Value}
    (hentry : rules.enter path items = .ok entry)
    (hvalues : (evaluateArguments rules scope path entry.name entry.operator.signature 0 entry.arguments).outcome
      = .ok values) :
    (invoke rules ⟨.array items, path, scope, rules.env⟩ entry.name entry.operator values).Follows [path]
      (Failure.ComesFrom rules scope) := by
  constructor
  · intro result hresult
    refine ⟨[⟨path, entry.name, values, some result⟩], fun c hc => ?_, calls_invoke_of_ok hresult, rfl⟩
    rw [List.mem_singleton.mp hc]
    rfl
  · intro failure hfailure
    refine ⟨[], some ⟨path, entry.name, values, none⟩, nofun, calls_invoke_of_error hfailure, List.prefix_refl _,
      fun c => ?_⟩
    obtain ⟨cause, hcause, rfl⟩ := invoke_eq_error.mp hfailure
    constructor
    · intro hc
      cases hc
      refine ⟨items, entry.operator, entry.arguments, cause, hentry, hvalues, rfl, ?_, rfl⟩
      cases hrun : entry.operator.run values ⟨.array items, path, scope, rules.env⟩ with
      | error cause' =>
        rw [hrun] at hcause
        exact .inl hcause
      | ok raw =>
        rw [hrun] at hcause
        exact .inr ⟨raw, rfl, hcause⟩
    · rintro ⟨items', operator, arguments, cause', henter, harguments, hresult, -, heq⟩
      -- the place that is blamed decides the call, and so the operator and the arguments
      obtain ⟨path', name, args, result⟩ := c
      cases heq
      cases hresult
      rw [hentry] at henter
      cases henter
      rw [hvalues] at harguments
      cases harguments
      rfl

theorem evaluateArgument_follows {path : Path} {name : String} {signature : Signature} {index : Nat} {argument : Value}
    (h : (evaluate rules scope (path ++ [index + 1]) argument).Follows (argument.postOrder (path ++ [index + 1]))
      (Failure.ComesFrom rules scope)) :
    (evaluateArgument rules scope path name signature index argument).Follows
      (argument.postOrder (path ++ [index + 1])) (Failure.ComesFrom rules scope) := by
  unfold evaluateArgument
  rw [← List.append_nil (argument.postOrder _)]
  refine h.bind fun value hvalue => ?_
  rw [← List.append_nil []]
  refine .bind (.step fun cause _ => not_comesFrom_of_ok hvalue cause) fun kind _ => ?_
  exact .step fun cause _ => not_comesFrom_of_ok hvalue cause

theorem evaluateArguments_follows {path : Path} {name : String} {signature : Signature} :
    ∀ {index : Nat} {arguments : List Value},
      (∀ argument ∈ arguments, ∀ path, (evaluate rules scope path argument).Follows (argument.postOrder path)
        (Failure.ComesFrom rules scope)) →
      (evaluateArguments rules scope path name signature index arguments).Follows
        (Value.argumentsPostOrder path index arguments) (Failure.ComesFrom rules scope)
  | index, [], _ => .done []
  | index, first :: rest, h => by
    rw [evaluateArguments_cons, Value.argumentsPostOrder]
    refine .bind (evaluateArgument_follows (h first List.mem_cons_self _)) fun value _ => ?_
    rw [← List.append_nil (Value.argumentsPostOrder _ _ rest)]
    refine .bind (evaluateArguments_follows fun argument ha => h argument (List.mem_cons_of_mem first ha)) fun _ _ => ?_
    exact .done _

/-- **An evaluation makes the calls of its expression in post-order.**  The induction is on the expression, for all
paths at once; a call makes those of its arguments, from left to right, and then itself. -/
theorem evaluate_follows (e : Value) : ∀ path,
    (evaluate rules scope path e).Follows (e.postOrder path) (Failure.ComesFrom rules scope) := by
  induction e using Value.call_induction with
  | literal v hv =>
    intro path
    rw [evaluate_literal hv, Value.postOrder_literal hv]
    exact .done v
  | call items ih =>
    intro path
    rw [evaluate_array, ← List.nil_append ((Value.array items).postOrder path)]
    refine .bind (.step fun cause hcause => not_comesFrom_of_enter hcause) fun entry hentry => ?_
    have hentry : rules.enter path items = .ok entry := Run.outcome_step_eq_ok.mp hentry
    have hitems : items = .string entry.name :: entry.arguments := (Rules.enter_eq_ok.mp hentry).2.1
    have hlist : (Value.array items).postOrder path = Value.argumentsPostOrder path 0 entry.arguments ++ [path] := by
      rw [hitems, Value.postOrder]
    rw [hlist]
    exact .bind (evaluateArguments_follows fun argument ha => ih argument (Rules.arguments_subset_of_enter hentry ha))
      fun values hvalues => invoke_follows hentry hvalues

end

/-- **The eager post-order trace.**  The list `e.postOrder []` holds the arrays that argument steps reach in `e`, each
once, in post-order.  An evaluation that succeeds makes the calls in these places, in this order, each observed before
and at once after with the same path, operator and arguments.  One that fails makes those in the first few places; all
are completed but for a last one, which is pending exactly when its implementation or the cast of its raw result has
failed, and then it stands in the place of the failure. -/
theorem evaluate_trace (rules : Rules) (scope : Scope) (e : Value) :
    e.IsPostOrder (e.postOrder []) ∧ (e.postOrder []).Nodup ∧
      (evaluate rules scope [] e).Follows (e.postOrder []) (Failure.ComesFrom rules scope) :=
  ⟨e.isPostOrder_postOrder, e.isPostOrder_postOrder.nodup, evaluate_follows e []⟩

/-- Both branches of a choice are computed; and a choice that fails in its own operator is pending at the end. -/
theorem evaluate_trace_choice :
    let rules := Dialect.standard.rules 64
    let scope : Scope := ⟨.none, .detached, []⟩
    let lower : Value := .array [.string "lowerCase", .string "B"]
    let choice (word : String) : Value := .array [.string "if", .bool false, lower, .string word, lower]
    (∃ done, (evaluate rules scope [] (choice "else")).calls = observations done ∧
        done.map Call.path = [[2], [4], []]) ∧
      ∃ failure done pending, (evaluate rules scope [] (choice "or")).outcome = .error failure ∧
        (evaluate rules scope [] (choice "or")).calls = observations done ++ pending.toList ∧
        (done ++ pending.toList).map Call.path <+: [[2], [4], []] ∧
        ∀ c, pending = some c ↔ failure.ComesFrom rules scope c := by
  intro rules scope lower choice
  have hok : (evaluate rules scope [] (choice "else")).outcome = .ok (.string "b") := rfl
  obtain ⟨done, -, hcalls, hpaths⟩ := (evaluate_trace rules scope (choice "else")).2.2.completes _ hok
  refine ⟨⟨done, hcalls, hpaths⟩, ?_⟩
  have herror : ∃ failure, (evaluate rules scope [] (choice "or")).outcome = .error failure := ⟨_, rfl⟩
  obtain ⟨failure, hfailure⟩ := herror
  obtain ⟨done', pending, -, hcalls', hprefix, hsource⟩ :=
    (evaluate_trace rules scope (choice "or")).2.2.stops failure hfailure
  exact ⟨failure, done', pending, hfailure, hcalls', hprefix, hsource⟩

end FormLogic
