import FormLogic.Expression.Evaluate
import FormLogic.Proofs.Runs
/-!
# Calls, one level at a time

An evaluation of a call has three parts: the tests made before any argument is looked at (`Rules.enter`), the arguments,
and the operator.  `evaluate_array` is this equation, and the lemmas after it say how each part ends and what it
observes.  A statement about whole expressions follows from them by `Value.call_induction`; one about the failure of an
evaluation, by induction on where that arises (`Failure.ArisesIn`), and one about what is observed, by induction on
where that is observed (`Call.ObservedIn`).
-/
namespace FormLogic

/-- **A call whose arguments may be looked at**: the operator by its name, and the arguments as they are written. -/
structure Entry where
  name : String
  operator : Operator
  arguments : List Value

/-- **The tests before the arguments of a call**: the depth, the head, the name and the number of arguments. -/
def Rules.enter (rules : Rules) (path : Path) (items : List Value) : Except Cause Entry :=
  if rules.maxDepth < path.length then .error (.depthExceeded rules.maxDepth)
  else
    match items with
    | .string name :: arguments =>
      match rules.operators.get? name with
      | none => .error (.unknownOperator name)
      | some operator =>
        match operator.signature.checkCount name arguments.length with
        | .ok () => .ok ⟨name, operator, arguments⟩
        | .error cause => .error cause
    | items => .error (badHead items)

/-- The same operators and casts under another depth limit. -/
def Rules.withLimit (rules : Rules) (limit : Nat) : Rules := { rules with maxDepth := limit }

/-- **One argument of a call**, evaluated and cast. -/
def evaluateArgument (rules : Rules) (scope : Scope) (path : Path) (name : String) (signature : Signature) (index : Nat)
    (argument : Value) : Run Value := do
  let value ← evaluate rules scope (path ++ [index + 1]) argument
  let kind ← Run.step (signature.kindAt name index) argument (path ++ [index + 1])
  Run.step (rules.casts.cast value kind) argument (path ++ [index + 1])

theorem Signature.checkCount_eq_ok {s : Signature} {name : String} {count : Nat} :
    s.checkCount name count = .ok () ↔ s.admits count = true := by
  unfold checkCount
  split <;> simp_all

theorem Signature.checkCount_eq_error {s : Signature} {name : String} {count : Nat} {cause : Cause}
    (h : s.checkCount name count = .error cause) : cause = .argumentCount name s.least s.most count := by
  unfold checkCount at h
  split at h
  · cases h
  · cases h
    rfl

/-- **A call may go on to its arguments** exactly when it is not too deep, its head is the name of an operator, and that
operator takes so many arguments. -/
theorem Rules.enter_eq_ok {rules : Rules} {path : Path} {items : List Value} {entry : Entry} :
    rules.enter path items = .ok entry ↔
      path.length ≤ rules.maxDepth ∧ items = .string entry.name :: entry.arguments ∧
        rules.operators.get? entry.name = some entry.operator ∧
        entry.operator.signature.admits entry.arguments.length = true := by
  obtain ⟨name, operator, arguments⟩ := entry
  constructor
  · intro h
    unfold enter at h
    split at h
    · cases h
    · rename_i hdepth
      split at h
      · split at h
        · cases h
        · rename_i hget
          split at h
          · rename_i hcount
            cases h
            exact ⟨Nat.le_of_not_lt hdepth, rfl, hget, Signature.checkCount_eq_ok.mp hcount⟩
          · cases h
      · cases h
  · rintro ⟨hdepth, rfl, hget, hcount⟩
    have hcount : operator.signature.checkCount name arguments.length = .ok () := Signature.checkCount_eq_ok.mpr hcount
    simp only [enter, Nat.not_lt_of_le hdepth, if_false, hget, hcount]

theorem Registry.resolve_cons {operators : Registry} {name : String} {operator : Operator}
    (h : operators.get? name = some operator) (arguments : List Value) :
    operators.resolve (.string name :: arguments) = .ok operator := by
  rw [Registry.resolve, h]

/-- **The tests look at the arguments only to count them.** -/
theorem Rules.enter_of_length_eq {rules : Rules} {path : Path} {head : Value} {arguments arguments' : List Value}
    (h : arguments'.length = arguments.length) :
    rules.enter path (head :: arguments') =
      (rules.enter path (head :: arguments)).map fun entry => { entry with arguments := arguments' } := by
  unfold enter
  by_cases hdepth : rules.maxDepth < path.length
  · rw [if_pos hdepth, if_pos hdepth]
    rfl
  · rw [if_neg hdepth, if_neg hdepth]
    cases head with
    | string name =>
      dsimp only
      cases rules.operators.get? name with
      | none => rfl
      | some operator =>
        dsimp only
        rw [h]
        cases operator.signature.checkCount name arguments.length <;> rfl
    | _ => rfl

theorem Rules.enter_of_lt {rules : Rules} {path : Path} (h : rules.maxDepth < path.length) (items : List Value) :
    rules.enter path items = .error (.depthExceeded rules.maxDepth) := if_pos h

theorem exists_badHead_eq (items : List Value) : ∃ name, badHead items = .unknownOperator name := by
  cases items with
  | nil => exact ⟨_, rfl⟩
  | cons head arguments => exact ⟨_, rfl⟩

/-- **What the tests refuse a call for**: its depth, else its head, else its name, else the number of its arguments. -/
theorem Rules.enter_eq_error {rules : Rules} {path : Path} {items : List Value} {cause : Cause}
    (h : rules.enter path items = .error cause) :
    rules.maxDepth < path.length ∧ cause = .depthExceeded rules.maxDepth ∨
      path.length ≤ rules.maxDepth ∧
        ((∀ name arguments, items ≠ .string name :: arguments) ∧ cause = badHead items ∨
          ∃ name arguments, items = .string name :: arguments ∧
            (rules.operators.get? name = none ∧ cause = .unknownOperator name ∨
              ∃ operator, rules.operators.get? name = some operator ∧
                operator.signature.checkCount name arguments.length = .error cause)) := by
  unfold enter at h
  split at h
  · rename_i hdepth
    cases h
    exact .inl ⟨hdepth, rfl⟩
  · rename_i hdepth
    refine .inr ⟨Nat.le_of_not_lt hdepth, ?_⟩
    split at h
    · rename_i name arguments
      refine .inr ⟨name, arguments, rfl, ?_⟩
      split at h
      · rename_i hunknown
        cases h
        exact .inl ⟨hunknown, rfl⟩
      · rename_i operator hknown
        split at h
        · cases h
        · rename_i hcount
          cases h
          exact .inr ⟨operator, hknown, hcount⟩
    · rename_i hnameless
      cases h
      exact .inl ⟨hnameless, rfl⟩

theorem Rules.lt_of_enter_eq_depthExceeded {rules : Rules} {path : Path} {items : List Value} {limit : Nat}
    (h : rules.enter path items = .error (.depthExceeded limit)) :
    rules.maxDepth < path.length ∧ limit = rules.maxDepth := by
  obtain ⟨hdepth, heq⟩ | ⟨-, ⟨-, heq⟩ | ⟨_, _, -, ⟨-, heq⟩ | ⟨_, -, hcount⟩⟩⟩ := enter_eq_error h
  · cases heq
    exact ⟨hdepth, rfl⟩
  · obtain ⟨name, hname⟩ := exists_badHead_eq items
    rw [hname] at heq
    cases heq
  · cases heq
  · cases Signature.checkCount_eq_error hcount

/-- **Within the limit, the place of a call does not matter to the tests.** -/
theorem Rules.enter_of_le {rules rules' : Rules} {path path' : Path} (hops : rules.operators = rules'.operators)
    (h : path.length ≤ rules.maxDepth) (h' : path'.length ≤ rules'.maxDepth) (items : List Value) :
    rules.enter path items = rules'.enter path' items := by
  unfold enter
  rw [if_neg (Nat.not_lt_of_le h), if_neg (Nat.not_lt_of_le h'), hops]

/-- **The tests agree** on a call where two registries relate what they hold under its name: both refuse it for one
cause, or both go on, with related operators. -/
theorem Rules.enter_agree {rules rules' : Rules} {path : Path} {items : List Value}
    {related : Operator → Operator → Prop} (hdepth : rules.maxDepth = rules'.maxDepth)
    (hsignature : ∀ o o', related o o' → o.signature = o'.signature)
    (hget : ∀ name arguments, items = .string name :: arguments →
      Option.Rel related (rules.operators.get? name) (rules'.operators.get? name)) :
    (∃ cause, rules.enter path items = .error cause ∧ rules'.enter path items = .error cause) ∨
      ∃ name o o' arguments, rules.enter path items = .ok ⟨name, o, arguments⟩ ∧
        rules'.enter path items = .ok ⟨name, o', arguments⟩ ∧ related o o' := by
  unfold enter
  rw [← hdepth]
  split
  · exact .inl ⟨_, rfl, rfl⟩
  · split
    · rename_i name arguments
      have hname := hget name arguments rfl
      generalize rules.operators.get? name = found at hname ⊢
      generalize rules'.operators.get? name = found' at hname ⊢
      cases hname with
      | none => exact .inl ⟨_, rfl, rfl⟩
      | some hrelated =>
        rename_i o o'
        dsimp only
        rw [← hsignature o o' hrelated]
        cases o.signature.checkCount name arguments.length with
        | error cause => exact .inl ⟨cause, rfl, rfl⟩
        | ok => exact .inr ⟨name, o, o', arguments, rfl, rfl, hrelated⟩
    · exact .inl ⟨_, rfl, rfl⟩

theorem Rules.arguments_subset_of_enter {rules : Rules} {path : Path} {items : List Value} {entry : Entry}
    (h : rules.enter path items = .ok entry) : entry.arguments ⊆ items := by
  rw [(Rules.enter_eq_ok.mp h).2.1]
  exact List.subset_cons_self _ _

theorem Rules.mem_items_of_enter {rules : Rules} {path : Path} {items : List Value} {entry : Entry}
    (h : rules.enter path items = .ok entry) {i : Nat} {argument : Value} (hi : entry.arguments[i]? = some argument) :
    argument ∈ items := Rules.arguments_subset_of_enter h (List.mem_of_getElem? hi)

theorem Value.items?_eq_some {v : Value} {items : List Value} : v.items? = some items ↔ v = .array items := by
  cases v <;> simp [items?]

section
variable {rules : Rules} {scope : Scope} {path : Path} {name : String} {signature : Signature} {index : Nat}

theorem evaluate_literal {v : Value} (h : v.items? = none) : evaluate rules scope path v = Run.done v := by
  cases v with
  | array items => cases h
  | _ => rfl

/-- **The three parts of a call.** -/
theorem evaluate_array (items : List Value) :
    evaluate rules scope path (.array items) =
      Run.step (rules.enter path items) (.array items) path >>= fun entry =>
        evaluateArguments rules scope path entry.name entry.operator.signature 0 entry.arguments >>=
          invoke rules ⟨.array items, path, scope, rules.env⟩ entry.name entry.operator := by
  unfold evaluate Rules.enter
  by_cases hdepth : rules.maxDepth < path.length
  · rw [if_pos hdepth, if_pos hdepth]
    rfl
  · rw [if_neg hdepth, if_neg hdepth]
    cases items with
    | nil => rfl
    | cons head arguments =>
      cases head with
      | string name =>
        dsimp only
        cases hget : rules.operators.get? name with
        | none => rfl
        | some operator =>
          dsimp only
          cases operator.signature.checkCount name arguments.length <;> rfl
      | _ => rfl

theorem evaluateArguments_nil : evaluateArguments rules scope path name signature index [] = pure [] := rfl

theorem evaluateArguments_cons (argument : Value) (rest : List Value) :
    evaluateArguments rules scope path name signature index (argument :: rest) =
      evaluateArgument rules scope path name signature index argument >>= fun value =>
        evaluateArguments rules scope path name signature (index + 1) rest >>= fun values =>
          pure (value :: values) := by
  simp only [evaluateArguments, evaluateArgument, bind_assoc]

/-- **Arguments evaluate alike** under rules with the same casts when each of their expressions does. -/
theorem evaluateArguments_congr {rules' : Rules} {scope' : Scope} (hcasts : rules.casts = rules'.casts) :
    ∀ {index : Nat} {arguments : List Value},
      (∀ argument ∈ arguments, ∀ path, evaluate rules scope path argument = evaluate rules' scope' path argument) →
        evaluateArguments rules scope path name signature index arguments =
          evaluateArguments rules' scope' path name signature index arguments
  | index, [], _ => rfl
  | index, first :: rest, h => by
    have hfirst : evaluateArgument rules scope path name signature index first =
        evaluateArgument rules' scope' path name signature index first := by
      unfold evaluateArgument
      rw [h first List.mem_cons_self, hcasts]
    rw [evaluateArguments_cons, evaluateArguments_cons, hfirst,
      evaluateArguments_congr hcasts fun argument ha => h argument (List.mem_cons_of_mem first ha)]

theorem evaluateArgument_eq_ok {argument cast : Value} :
    (evaluateArgument rules scope path name signature index argument).outcome = .ok cast ↔
      ∃ value kind, (evaluate rules scope (path ++ [index + 1]) argument).outcome = .ok value ∧
        signature.kindAt name index = .ok kind ∧ rules.casts.cast value kind = .ok cast := by
  simp only [evaluateArgument, Run.outcome_bind_eq_ok, Run.outcome_step_eq_ok]
  constructor
  · rintro ⟨value, hv, kind, hk, hc⟩
    exact ⟨value, kind, hv, hk, hc⟩
  · rintro ⟨value, kind, hv, hk, hc⟩
    exact ⟨value, hv, kind, hk, hc⟩

theorem evaluateArgument_eq_error {argument : Value} {failure : Failure} :
    (evaluateArgument rules scope path name signature index argument).outcome = .error failure ↔
      (evaluate rules scope (path ++ [index + 1]) argument).outcome = .error failure ∨
        ∃ value cause, (evaluate rules scope (path ++ [index + 1]) argument).outcome = .ok value ∧
          (signature.kindAt name index >>= fun kind => rules.casts.cast value kind) = .error cause ∧
          failure = .of cause argument (path ++ [index + 1]) := by
  simp only [evaluateArgument, Run.outcome_bind_eq_error, Run.outcome_step_eq_ok, Run.outcome_step_eq_error]
  refine or_congr Iff.rfl (exists_congr fun value => ?_)
  cases signature.kindAt name index with
  | ok kind => simp [bind, Except.bind]
  | error cause => simp [bind, Except.bind]

theorem mem_calls_evaluateArgument {argument : Value} {c : Call} :
    c ∈ (evaluateArgument rules scope path name signature index argument).calls ↔
      c ∈ (evaluate rules scope (path ++ [index + 1]) argument).calls := by
  simp [evaluateArgument, Run.mem_calls_bind]

theorem evaluateArguments_eq_ok : ∀ {index : Nat} {arguments values : List Value},
    (evaluateArguments rules scope path name signature index arguments).outcome = .ok values →
      values.length = arguments.length ∧ ∀ i argument, arguments[i]? = some argument →
        ∃ value, values[i]? = some value ∧
          (evaluateArgument rules scope path name signature (index + i) argument).outcome = .ok value
  | index, [], values, h => by
    rw [evaluateArguments_nil] at h
    cases h
    exact ⟨rfl, fun i argument hi => by cases hi⟩
  | index, first :: rest, values, h => by
    simp only [evaluateArguments_cons, Run.outcome_bind_eq_ok, Run.outcome_pure, Except.ok.injEq] at h
    obtain ⟨value, hfirst, others, hrest, rfl⟩ := h
    obtain ⟨hlength, hall⟩ := evaluateArguments_eq_ok hrest
    refine ⟨by rw [List.length_cons, List.length_cons, hlength], fun i argument hi => ?_⟩
    cases i with
    | zero =>
      cases hi
      exact ⟨value, rfl, hfirst⟩
    | succ i =>
      rw [show index + (i + 1) = index + 1 + i by omega]
      exact hall i argument hi

theorem exists_argument_of_value {arguments values : List Value}
    (h : (evaluateArguments rules scope path name signature 0 arguments).outcome = .ok values) {i : Nat} {v : Value}
    (hv : values[i]? = some v) : ∃ argument, arguments[i]? = some argument ∧
      (evaluateArgument rules scope path name signature i argument).outcome = .ok v := by
  obtain ⟨hlength, hall⟩ := evaluateArguments_eq_ok h
  have hi : i < arguments.length := by
    rw [← hlength]
    exact (List.getElem?_eq_some_iff.mp hv).1
  obtain ⟨value, hvalue, hargument⟩ := hall i arguments[i] (List.getElem?_eq_getElem hi)
  rw [hv] at hvalue
  cases hvalue
  rw [Nat.zero_add] at hargument
  exact ⟨arguments[i], List.getElem?_eq_getElem hi, hargument⟩

/-- **Some argument fails, and those before it succeed**, when the arguments fail. -/
theorem evaluateArguments_eq_error : ∀ {index : Nat} {arguments : List Value} {failure : Failure},
    (evaluateArguments rules scope path name signature index arguments).outcome = .error failure →
      ∃ i argument, arguments[i]? = some argument ∧
        (evaluateArgument rules scope path name signature (index + i) argument).outcome = .error failure ∧
        ∀ j < i, ∀ earlier, arguments[j]? = some earlier →
          ∃ value, (evaluateArgument rules scope path name signature (index + j) earlier).outcome = .ok value
  | index, [], failure, h => by cases h
  | index, first :: rest, failure, h => by
    simp only [evaluateArguments_cons, Run.outcome_bind_eq_error, Run.outcome_pure, reduceCtorEq, and_false,
      exists_false, or_false] at h
    rcases h with hfirst | ⟨value, hfirst, hrest⟩
    · exact ⟨0, first, rfl, hfirst, fun j hj => absurd hj (Nat.not_lt_zero j)⟩
    · obtain ⟨i, argument, hi, hfails, hbefore⟩ := evaluateArguments_eq_error hrest
      refine ⟨i + 1, argument, hi, ?_, fun j hj earlier he => ?_⟩
      · rw [show index + (i + 1) = index + 1 + i by omega]
        exact hfails
      · cases j with
        | zero =>
          cases he
          exact ⟨value, hfirst⟩
        | succ j =>
          rw [show index + (j + 1) = index + 1 + j by omega]
          exact hbefore j (Nat.lt_of_succ_lt_succ hj) earlier he

theorem mem_calls_evaluateArguments {c : Call} : ∀ {index : Nat} {arguments : List Value},
    c ∈ (evaluateArguments rules scope path name signature index arguments).calls →
      ∃ i argument, arguments[i]? = some argument ∧
        c ∈ (evaluate rules scope (path ++ [index + i + 1]) argument).calls
  | index, [], h => by cases h
  | index, first :: rest, h => by
    simp only [evaluateArguments_cons, Run.mem_calls_bind, mem_calls_evaluateArgument, Run.calls_pure,
      List.not_mem_nil, and_false, exists_false, or_false] at h
    rcases h with hfirst | ⟨value, -, hrest⟩
    · exact ⟨0, first, rfl, hfirst⟩
    · obtain ⟨i, argument, hi, hc⟩ := mem_calls_evaluateArguments hrest
      refine ⟨i + 1, argument, hi, ?_⟩
      rw [show index + (i + 1) + 1 = index + 1 + i + 1 by omega]
      exact hc

theorem mem_calls_evaluateArguments_of_ok {c : Call} : ∀ {index : Nat} {arguments values : List Value},
    (evaluateArguments rules scope path name signature index arguments).outcome = .ok values →
      ∀ {i argument}, arguments[i]? = some argument →
        c ∈ (evaluate rules scope (path ++ [index + i + 1]) argument).calls →
          c ∈ (evaluateArguments rules scope path name signature index arguments).calls
  | index, [], values, _, i, argument, hi, _ => by cases hi
  | index, first :: rest, values, h, i, argument, hi, hc => by
    simp only [evaluateArguments_cons, Run.outcome_bind_eq_ok] at h
    obtain ⟨value, hfirst, others, hrest, -⟩ := h
    simp only [evaluateArguments_cons, Run.mem_calls_bind, mem_calls_evaluateArgument]
    cases i with
    | zero =>
      cases hi
      exact .inl hc
    | succ i =>
      rw [show index + (i + 1) + 1 = index + 1 + i + 1 by omega] at hc
      exact .inr ⟨value, hfirst, .inl (mem_calls_evaluateArguments_of_ok hrest hi hc)⟩

end

section
variable {rules : Rules} {frame : Frame} {name : String} {operator : Operator} {args : List Value}

theorem invoke_eq_ok {result : Value} :
    (invoke rules frame name operator args).outcome = .ok result ↔
      ∃ raw, operator.run args frame = .ok raw ∧ rules.casts.cast raw operator.signature.returns = .ok result := by
  simp only [invoke, Run.outcome_bind_eq_ok, Run.outcome_step_eq_ok, Run.outcome_observe, Run.outcome_pure,
    Except.ok.injEq, exists_const, true_and, exists_eq_right]

theorem invoke_eq_error {failure : Failure} :
    (invoke rules frame name operator args).outcome = .error failure ↔
      ∃ cause, (operator.run args frame >>= fun raw => rules.casts.cast raw operator.signature.returns) = .error cause ∧
        failure = .of cause frame.expression frame.path := by
  simp only [invoke, Run.outcome_bind_eq_error, Run.outcome_step_eq_ok, Run.outcome_step_eq_error,
    Run.outcome_observe, Run.outcome_pure, reduceCtorEq, and_false, exists_false, or_false, false_or]
  cases operator.run args frame with
  | ok raw => simp [bind, Except.bind]
  | error cause => simp [bind, Except.bind]

theorem calls_invoke_of_ok {result : Value} (h : (invoke rules frame name operator args).outcome = .ok result) :
    (invoke rules frame name operator args).calls =
      [⟨frame.path, name, args, none⟩, ⟨frame.path, name, args, some result⟩] := by
  obtain ⟨raw, hrun, hcast⟩ := invoke_eq_ok.mp h
  simp only [invoke, Run.bind_eq, hrun, Run.step, Run.done_andThen, hcast]
  rfl

theorem calls_invoke_of_error {failure : Failure}
    (h : (invoke rules frame name operator args).outcome = .error failure) :
    (invoke rules frame name operator args).calls = [⟨frame.path, name, args, none⟩] := by
  obtain ⟨cause, hcause, -⟩ := invoke_eq_error.mp h
  cases hrun : operator.run args frame with
  | error cause' =>
    simp only [invoke, Run.bind_eq, hrun, Run.step]
    rfl
  | ok raw =>
    rw [hrun] at hcause
    have hcast : rules.casts.cast raw operator.signature.returns = .error cause := hcause
    simp only [invoke, Run.bind_eq, hrun, Run.step, Run.done_andThen, hcast]
    rfl

/-- **An operator is observed before it runs**, and again with its result if it succeeds. -/
theorem mem_calls_invoke {c : Call} :
    c ∈ (invoke rules frame name operator args).calls ↔
      c = ⟨frame.path, name, args, none⟩ ∨
        ∃ result, (invoke rules frame name operator args).outcome = .ok result ∧
          c = ⟨frame.path, name, args, some result⟩ := by
  cases houtcome : (invoke rules frame name operator args).outcome with
  | ok result =>
    rw [calls_invoke_of_ok houtcome]
    simp only [List.mem_cons, List.not_mem_nil, or_false, Except.ok.injEq, exists_eq_left']
  | error failure =>
    rw [calls_invoke_of_error houtcome]
    simp only [List.mem_singleton, reduceCtorEq, false_and, exists_false, or_false]

end

section
variable {rules : Rules} {scope : Scope} {path : Path} {items : List Value}

theorem evaluate_array_eq_ok {v : Value} :
    (evaluate rules scope path (.array items)).outcome = .ok v ↔
      ∃ entry values, rules.enter path items = .ok entry ∧
        (evaluateArguments rules scope path entry.name entry.operator.signature 0 entry.arguments).outcome
          = .ok values ∧
        (invoke rules ⟨.array items, path, scope, rules.env⟩ entry.name entry.operator values).outcome = .ok v := by
  simp only [evaluate_array, Run.outcome_bind_eq_ok, Run.outcome_step_eq_ok, exists_and_left]

theorem evaluate_array_eq_error {failure : Failure} :
    (evaluate rules scope path (.array items)).outcome = .error failure ↔
      (∃ cause, rules.enter path items = .error cause ∧ failure = .of cause (.array items) path) ∨
        ∃ entry, rules.enter path items = .ok entry ∧
          ((evaluateArguments rules scope path entry.name entry.operator.signature 0 entry.arguments).outcome
              = .error failure ∨
            ∃ values, (evaluateArguments rules scope path entry.name entry.operator.signature 0
                entry.arguments).outcome = .ok values ∧
              (invoke rules ⟨.array items, path, scope, rules.env⟩ entry.name entry.operator values).outcome
                = .error failure) := by
  simp only [evaluate_array, Run.outcome_bind_eq_error, Run.outcome_step_eq_ok, Run.outcome_step_eq_error]

theorem mem_calls_evaluate_array {c : Call} :
    c ∈ (evaluate rules scope path (.array items)).calls ↔
      ∃ entry, rules.enter path items = .ok entry ∧
        (c ∈ (evaluateArguments rules scope path entry.name entry.operator.signature 0 entry.arguments).calls ∨
          ∃ values, (evaluateArguments rules scope path entry.name entry.operator.signature 0
              entry.arguments).outcome = .ok values ∧
            c ∈ (invoke rules ⟨.array items, path, scope, rules.env⟩ entry.name entry.operator values).calls) := by
  simp only [evaluate_array, Run.mem_calls_bind, Run.outcome_step_eq_ok, Run.calls_step, List.not_mem_nil, false_or]

/-- **The operator of a call that succeeds is found again**, by the name that heads the call. -/
theorem resolve_of_evaluate {v : Value} (h : (evaluate rules scope path (.array items)).outcome = .ok v) :
    ∃ name operator arguments, items = .string name :: arguments ∧ rules.operators.get? name = some operator ∧
      rules.operators.resolve items = .ok operator := by
  obtain ⟨entry, -, hentry, -, -⟩ := evaluate_array_eq_ok.mp h
  obtain ⟨-, hitems, hget, -⟩ := Rules.enter_eq_ok.mp hentry
  refine ⟨entry.name, entry.operator, entry.arguments, hitems, hget, ?_⟩
  rw [hitems]
  exact Registry.resolve_cons hget entry.arguments

/-- **The last observation of a call that succeeds** is its own, with the value it gives. -/
theorem calls_evaluate_array_of_ok {v : Value} (h : (evaluate rules scope path (.array items)).outcome = .ok v) :
    ∃ inner name args, (evaluate rules scope path (.array items)).calls = inner ++ [⟨path, name, args, some v⟩] := by
  obtain ⟨entry, values, hentry, harguments, hinvoke⟩ := evaluate_array_eq_ok.mp h
  refine ⟨(evaluateArguments rules scope path entry.name entry.operator.signature 0 entry.arguments).calls ++
    [⟨path, entry.name, values, none⟩], entry.name, values, ?_⟩
  rw [evaluate_array, hentry, Run.calls_bind_of_ok rfl, Run.calls_bind_of_ok harguments, calls_invoke_of_ok hinvoke,
    List.append_assoc]
  rfl

end

/-- **A call whose arguments are there goes alike** with operators of one signature that answer it alike. -/
theorem invoke_congr {rules rules' : Rules} {e : Value} {path : Path} {scope scope' : Scope} {env env' : Env}
    {o o' : Operator} {values : List Value} (hcasts : rules.casts = rules'.casts)
    (hsignature : o.signature = o'.signature)
    (hrun : o.run values ⟨e, path, scope, env⟩ = o'.run values ⟨e, path, scope', env'⟩) (name : String) :
    invoke rules ⟨e, path, scope, env⟩ name o values = invoke rules' ⟨e, path, scope', env'⟩ name o' values := by
  unfold invoke
  rw [hrun, hsignature, hcasts]

/-- **A call evaluates alike** under two registries that relate what they hold under its name, when its arguments do and
related operators do the same with them. -/
theorem evaluate_array_congr {rules rules' : Rules} {scope scope' : Scope} {path : Path} {items : List Value}
    {related : Operator → Operator → Prop} (hcasts : rules.casts = rules'.casts)
    (hdepth : rules.maxDepth = rules'.maxDepth) (hsignature : ∀ o o', related o o' → o.signature = o'.signature)
    (hget : ∀ name arguments, items = .string name :: arguments →
      Option.Rel related (rules.operators.get? name) (rules'.operators.get? name))
    (harguments : ∀ argument ∈ items.tail, ∀ path,
      evaluate rules scope path argument = evaluate rules' scope' path argument)
    (hrun : ∀ o o' values, related o o' →
      o.run values ⟨.array items, path, scope, rules.env⟩ = o'.run values ⟨.array items, path, scope', rules'.env⟩) :
    evaluate rules scope path (.array items) = evaluate rules' scope' path (.array items) := by
  rw [evaluate_array, evaluate_array]
  rcases Rules.enter_agree hdepth hsignature hget with
    ⟨cause, hcause, hcause'⟩ | ⟨name, o, o', arguments, hentry, hentry', hrelated⟩
  · rw [hcause, hcause']
    rfl
  · have hitems : items = .string name :: arguments := (Rules.enter_eq_ok.mp hentry).2.1
    have hvalues : evaluateArguments rules scope path name o.signature 0 arguments =
        evaluateArguments rules' scope' path name o'.signature 0 arguments := by
      rw [← hsignature o o' hrelated]
      refine evaluateArguments_congr hcasts fun argument ha => harguments argument ?_
      rw [hitems]
      exact ha
    rw [hentry, hentry']
    show evaluateArguments _ scope path name o.signature 0 arguments >>= invoke _ _ name o =
      evaluateArguments _ scope' path name o'.signature 0 arguments >>= invoke _ _ name o'
    rw [← hvalues]
    exact Run.bind_congr fun values _ => invoke_congr hcasts (hsignature o o' hrelated) (hrun o o' values hrelated) name

/-- **Induction over expressions**: literals, and calls whose items all have the property. -/
theorem Value.call_induction {P : Value → Prop} (literal : ∀ v, v.items? = none → P v)
    (call : ∀ items, (∀ v ∈ items, P v) → P (.array items)) : ∀ v, P v
  | .array items => call items fun v _ => call_induction literal call v
  | .null => literal _ rfl
  | .bool _ => literal _ rfl
  | .number _ => literal _ rfl
  | .string _ => literal _ rfl
  | .object _ => literal _ rfl

/-- **Where a failure of an expression comes from**: the tests before the arguments of a call, the inside of an
argument, the position or the cast of an argument that has its value, or the operator and the cast of what it gives. -/
inductive Failure.ArisesIn (rules : Rules) (scope : Scope) : Path → Value → Failure → Prop where
  | tests {path : Path} {items : List Value} {cause : Cause} (refused : rules.enter path items = .error cause) :
      ArisesIn rules scope path (.array items) (.of cause (.array items) path)
  | inside {path : Path} {items : List Value} {entry : Entry} {i : Nat} {argument : Value} {failure : Failure}
      (entered : rules.enter path items = .ok entry) (position : entry.arguments[i]? = some argument)
      (inner : ArisesIn rules scope (path ++ [i + 1]) argument failure) :
      ArisesIn rules scope path (.array items) failure
  | argument {path : Path} {items : List Value} {entry : Entry} {i : Nat} {argument value : Value} {cause : Cause}
      (entered : rules.enter path items = .ok entry) (position : entry.arguments[i]? = some argument)
      (evaluated : (evaluate rules scope (path ++ [i + 1]) argument).outcome = .ok value)
      (refused : (entry.operator.signature.kindAt entry.name i >>= fun kind => rules.casts.cast value kind)
        = .error cause) :
      ArisesIn rules scope path (.array items) (.of cause argument (path ++ [i + 1]))
  | operator {path : Path} {items values : List Value} {entry : Entry} {cause : Cause}
      (entered : rules.enter path items = .ok entry)
      (evaluated : (evaluateArguments rules scope path entry.name entry.operator.signature 0 entry.arguments).outcome
        = .ok values)
      (refused : (entry.operator.run values ⟨.array items, path, scope, rules.env⟩ >>= fun raw =>
        rules.casts.cast raw entry.operator.signature.returns) = .error cause) :
      ArisesIn rules scope path (.array items) (.of cause (.array items) path)

theorem arisesIn_of_error {rules : Rules} {scope : Scope} (e : Value) : ∀ {path : Path} {failure : Failure},
    (evaluate rules scope path e).outcome = .error failure → failure.ArisesIn rules scope path e := by
  induction e using Value.call_induction with
  | literal v hv =>
    intro path failure h
    rw [evaluate_literal hv] at h
    cases h
  | call items ih =>
    intro path failure h
    rcases evaluate_array_eq_error.mp h with
      ⟨cause, hcause, rfl⟩ | ⟨entry, hentry, harguments | ⟨values, hvalues, hinvoke⟩⟩
    · exact .tests hcause
    · obtain ⟨i, argument, hi, hfails, -⟩ := evaluateArguments_eq_error harguments
      rw [Nat.zero_add] at hfails
      rcases evaluateArgument_eq_error.mp hfails with hinner | ⟨value, cause, hvalue, hcause, rfl⟩
      · exact .inside hentry hi (ih argument (Rules.mem_items_of_enter hentry hi) hinner)
      · exact .argument hentry hi hvalue hcause
    · obtain ⟨cause, hcause, rfl⟩ := invoke_eq_error.mp hinvoke
      exact .operator hentry hvalues hcause

/-- **Where an observation in an expression is made**: inside an argument of a call, or at the operator once the
arguments are there. -/
inductive Call.ObservedIn (rules : Rules) (scope : Scope) (c : Call) : Path → Value → Prop where
  | inside {path : Path} {items : List Value} {entry : Entry} {i : Nat} {argument : Value}
      (entered : rules.enter path items = .ok entry) (position : entry.arguments[i]? = some argument)
      (inner : ObservedIn rules scope c (path ++ [i + 1]) argument) : ObservedIn rules scope c path (.array items)
  | operator {path : Path} {items values : List Value} {entry : Entry} (entered : rules.enter path items = .ok entry)
      (evaluated : (evaluateArguments rules scope path entry.name entry.operator.signature 0 entry.arguments).outcome
        = .ok values)
      (observed : c ∈ (invoke rules ⟨.array items, path, scope, rules.env⟩ entry.name entry.operator values).calls) :
      ObservedIn rules scope c path (.array items)

theorem observedIn_of_mem_calls {rules : Rules} {scope : Scope} {c : Call} (e : Value) : ∀ {path : Path},
    c ∈ (evaluate rules scope path e).calls → c.ObservedIn rules scope path e := by
  induction e using Value.call_induction with
  | literal v hv =>
    intro path hc
    rw [evaluate_literal hv] at hc
    cases hc
  | call items ih =>
    intro path hc
    obtain ⟨entry, hentry, harguments | ⟨values, hvalues, hinvoke⟩⟩ := mem_calls_evaluate_array.mp hc
    · obtain ⟨i, argument, hi, hinner⟩ := mem_calls_evaluateArguments harguments
      rw [Nat.zero_add] at hinner
      exact .inside hentry hi (ih argument (Rules.mem_items_of_enter hentry hi) hinner)
    · exact .operator hentry hvalues hinvoke

end FormLogic
