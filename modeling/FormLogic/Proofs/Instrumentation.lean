import FormLogic.Proofs.Traces
/-!
# What the observations tell

The observations of a run explain each other.  Whatever an operator is given was written in its place as a literal, or
was the result of a call that had been observed there before; in both cases it has passed the cast of its position.  A
place is observed with a result once at most, so there is no doubt about which, and the last observation of a call that
succeeds is its own and shows the value that is returned.
-/
namespace FormLogic

/-- **Where the value in a position comes from** when a call is made: a literal stands for itself, and the value of a
call is the result that has been observed in its place. -/
inductive Value.Supplied (root : Value) (earlier : List Call) (place : Path) : Value → Prop where
  | literal {v : Value} : root.Reaches place v → v.items? = none → Supplied root earlier place v
  | call {items : List Value} {c : Call} {v : Value} : root.Reaches place (.array items) → c ∈ earlier →
      c.path = place → c.result = some v → Supplied root earlier place v

/-- **A call whose arguments are accounted for**: each of them is the cast, to the kind that the operator declares for
its position, of the value that was supplied there. -/
def Call.IsAccountedFor (rules : Rules) (root : Value) (earlier : List Call) (c : Call) : Prop :=
  ∃ operator, rules.operators.get? c.operator = some operator ∧
    ∀ i v, c.arguments[i]? = some v → ∃ kind source, operator.signature.kindAt c.operator i = .ok kind ∧
      Value.Supplied root earlier (c.path ++ [i + 1]) source ∧ rules.casts.cast source kind = .ok v

/-- **A run whose calls are all accounted for**, each by what was observed before it. -/
def Run.IsAccountedFor {α : Type} (rules : Rules) (root : Value) (earlier : List Call) (run : Run α) : Prop :=
  ∀ before c after, run.calls = before ++ c :: after → c.IsAccountedFor rules root (earlier ++ before)

namespace Run.IsAccountedFor

variable {α β : Type} {rules : Rules} {root : Value} {earlier : List Call} {run : Run α} {next : α → Run β}

theorem of_calls_eq_nil (h : run.calls = []) : run.IsAccountedFor rules root earlier := by
  intro before c after hsplit
  rw [h] at hsplit
  exact absurd hsplit.symm (List.append_ne_nil_of_right_ne_nil before (List.cons_ne_nil c after))

/-- **One run after the other**: the calls of the first are there to account for those of the second. -/
theorem bind (hrun : run.IsAccountedFor rules root earlier)
    (hnext : ∀ a, run.outcome = .ok a → (next a).IsAccountedFor rules root (earlier ++ run.calls)) :
    (run >>= next).IsAccountedFor rules root earlier := by
  intro before c after hsplit
  cases houtcome : run.outcome with
  | error failure =>
    rw [Run.calls_bind_of_error houtcome] at hsplit
    exact hrun before c after hsplit
  | ok a =>
    rw [Run.calls_bind_of_ok houtcome] at hsplit
    rcases List.append_eq_append_iff.mp hsplit with ⟨inner, rfl, hinner⟩ | ⟨inner, hcalls, hinner⟩
    · rw [← List.append_assoc]
      exact hnext a houtcome inner c after hinner
    · cases inner with
      | nil =>
        rw [List.append_nil] at hcalls
        rw [← hcalls, ← List.append_nil (earlier ++ run.calls)]
        exact hnext a houtcome [] c after hinner.symm
      | cons first inner =>
        obtain ⟨rfl, rfl⟩ := List.cons.inj hinner
        exact hrun before _ inner hcalls

end Run.IsAccountedFor

section
variable {rules : Rules} {scope : Scope} {root : Value}

/-- **The value of an expression in its place is supplied** by the expression itself, or by the last call of its run. -/
theorem supplied_of_evaluate_ok {place : Path} {e v : Value} {earlier : List Call} (hreaches : root.Reaches place e)
    (h : (evaluate rules scope place e).outcome = .ok v)
    (hearlier : ∀ c ∈ (evaluate rules scope place e).calls, c ∈ earlier) : Value.Supplied root earlier place v := by
  cases hitems : e.items? with
  | none =>
    rw [evaluate_literal hitems] at h
    cases h
    exact .literal hreaches hitems
  | some items =>
    cases Value.items?_eq_some.mp hitems
    obtain ⟨inner, name, args, hcalls⟩ := calls_evaluate_array_of_ok h
    refine .call hreaches (hearlier ⟨place, name, args, some v⟩ ?_) rfl rfl
    rw [hcalls]
    exact List.mem_append_right inner (List.mem_singleton_self _)

/-- **What is observed at an operator** is accounted for by what was observed in its arguments. -/
theorem isAccountedFor_of_mem_invoke {path : Path} {items : List Value} {entry : Entry} {values : List Value}
    {earlier : List Call} (hreaches : root.Reaches path (.array items)) (hentry : rules.enter path items = .ok entry)
    (hvalues : (evaluateArguments rules scope path entry.name entry.operator.signature 0 entry.arguments).outcome
      = .ok values)
    (hearlier : ∀ c ∈ (evaluateArguments rules scope path entry.name entry.operator.signature 0 entry.arguments).calls,
      c ∈ earlier) {c : Call}
    (hc : c ∈ (invoke rules ⟨.array items, path, scope, rules.env⟩ entry.name entry.operator values).calls) :
    c.IsAccountedFor rules root earlier := by
  obtain ⟨-, -, hget, -⟩ := Rules.enter_eq_ok.mp hentry
  have hsupplied : ∀ i v, values[i]? = some v → ∃ kind source, entry.operator.signature.kindAt entry.name i = .ok kind ∧
      Value.Supplied root earlier (path ++ [i + 1]) source ∧ rules.casts.cast source kind = .ok v := by
    intro i v hv
    obtain ⟨argument, hi, hargument⟩ := exists_argument_of_value hvalues hv
    obtain ⟨source, kind, hsource, hkind, hcast⟩ := evaluateArgument_eq_ok.mp hargument
    have hplace : root.Reaches (path ++ [i + 1]) argument := hreaches.append (Rules.reaches_of_enter hentry hi)
    have hinner := fun c hc => hearlier c (mem_calls_evaluateArguments_of_ok hvalues hi hc)
    rw [Nat.zero_add] at hinner
    exact ⟨kind, source, hkind, supplied_of_evaluate_ok hplace hsource hinner, hcast⟩
  -- the arguments are the same before the operator runs and after it
  rcases mem_calls_invoke.mp hc with rfl | ⟨result, -, rfl⟩
  · exact ⟨entry.operator, hget, hsupplied⟩
  · exact ⟨entry.operator, hget, hsupplied⟩

theorem evaluateArgument_isAccountedFor {path : Path} {name : String} {signature : Signature} {index : Nat}
    {argument : Value} {earlier : List Call}
    (h : (evaluate rules scope (path ++ [index + 1]) argument).IsAccountedFor rules root earlier) :
    (evaluateArgument rules scope path name signature index argument).IsAccountedFor rules root earlier := by
  refine h.bind fun value _ => .of_calls_eq_nil ?_
  rw [Run.calls_bind_step, Run.calls_step]

theorem evaluateArguments_isAccountedFor {path : Path} {name : String} {signature : Signature} :
    ∀ {index : Nat} {arguments : List Value} {earlier : List Call},
      (∀ i argument, arguments[i]? = some argument → ∀ earlier,
        (evaluate rules scope (path ++ [index + i + 1]) argument).IsAccountedFor rules root earlier) →
      (evaluateArguments rules scope path name signature index arguments).IsAccountedFor rules root earlier
  | index, [], earlier, _ => .of_calls_eq_nil rfl
  | index, first :: rest, earlier, h => by
    rw [evaluateArguments_cons]
    refine .bind (evaluateArgument_isAccountedFor (h 0 first rfl _)) fun value _ => ?_
    refine .bind (evaluateArguments_isAccountedFor fun i argument hi earlier => ?_) fun values _ => .of_calls_eq_nil rfl
    rw [show index + 1 + i + 1 = index + (i + 1) + 1 by omega]
    exact h (i + 1) argument hi earlier

/-- **Every call of an evaluation is accounted for.**  The induction is on the expression, for all places in the whole
and all that may have been observed before; a call makes those of its arguments, which account for its own. -/
theorem evaluate_isAccountedFor (e : Value) : ∀ path earlier, root.Reaches path e →
    (evaluate rules scope path e).IsAccountedFor rules root earlier := by
  induction e using Value.call_induction with
  | literal v hv =>
    intro path earlier _
    rw [evaluate_literal hv]
    exact .of_calls_eq_nil rfl
  | call items ih =>
    intro path earlier hreaches
    rw [evaluate_array]
    refine .bind (.of_calls_eq_nil (Run.calls_step ..)) fun entry hentry => ?_
    have hentry : rules.enter path items = .ok entry := Run.outcome_step_eq_ok.mp hentry
    rw [Run.calls_step, List.append_nil]
    refine .bind (evaluateArguments_isAccountedFor fun i argument hi earlier => ?_) fun values hvalues => ?_
    · rw [Nat.zero_add]
      exact ih argument (Rules.mem_items_of_enter hentry hi) _ earlier
        (hreaches.append (Rules.reaches_of_enter hentry hi))
    · intro before c after hsplit
      refine isAccountedFor_of_mem_invoke hreaches hentry hvalues (fun c hc => ?_) ?_
      · exact List.mem_append_left before (List.mem_append_right earlier hc)
      · rw [hsplit]
        exact List.mem_append_right before List.mem_cons_self

end

def completed (calls : List Call) : List Call := calls.filter fun c => c.result.isSome

theorem completed_append (calls calls' : List Call) :
    completed (calls ++ calls') = completed calls ++ completed calls' :=
  List.filter_append calls calls'

theorem completed_observations : ∀ {done : List Call}, (∀ c ∈ done, c.result.isSome = true) →
    completed (observations done) = done
  | [], _ => rfl
  | c :: done, h => by
    have hc : completed [c.before, c] = [c] := by
      simp [completed, Call.before, h c List.mem_cons_self]
    have hrest : completed (observations done) = done :=
      completed_observations fun c' hc' => h c' (List.mem_cons_of_mem c hc')
    rw [observations, List.flatMap_cons, completed_append, hc]
    exact congrArg (c :: ·) hrest

/-- **No place is observed with a result twice**, since the calls are made in post-order. -/
theorem nodup_completed (rules : Rules) (scope : Scope) (e : Value) :
    ((completed (evaluate rules scope [] e).calls).map Call.path).Nodup := by
  have hnodup : (e.postOrder []).Nodup := e.isPostOrder_postOrder.nodup
  have hfollows : (evaluate rules scope [] e).Follows (e.postOrder []) (Failure.ComesFrom rules scope) :=
    evaluate_follows e []
  cases houtcome : (evaluate rules scope [] e).outcome with
  | ok v =>
    obtain ⟨done, hdone, hcalls, hpaths⟩ := hfollows.completes v houtcome
    rw [hcalls, completed_observations hdone, hpaths]
    exact hnodup
  | error failure =>
    obtain ⟨done, pending, hdone, hcalls, hprefix, hsource⟩ := hfollows.stops failure houtcome
    have hpending : completed pending.toList = [] := by
      cases pending with
      | none => rfl
      | some c =>
        obtain ⟨_, _, _, _, -, -, hresult, -⟩ := (hsource c).mp rfl
        simp [completed, hresult]
    rw [hcalls, completed_append, completed_observations hdone, hpending, List.append_nil]
    have hmade : ((done ++ pending.toList).map Call.path).Nodup := hnodup.sublist hprefix.sublist
    rw [List.map_append] at hmade
    exact (List.nodup_append.mp hmade).1

/-- **Faithful instrumentation.**  Every observation of a run, be it before a call or after, shows arguments that are
the casts, to the kinds of their positions, of literals that stand there or of results that have been observed there
before.  No place is observed with a result twice.  Where a call succeeds, the last observation is in the place of the
whole and shows the value. -/
theorem evaluate_instrumented (rules : Rules) (scope : Scope) (e : Value) :
    (∀ earlier c later, (evaluate rules scope [] e).calls = earlier ++ c :: later →
      c.IsAccountedFor rules e earlier) ∧
    ((completed (evaluate rules scope [] e).calls).map Call.path).Nodup ∧
    ∀ items v, e = .array items → (evaluate rules scope [] e).outcome = .ok v →
      ∃ c, (evaluate rules scope [] e).calls.getLast? = some c ∧ c.path = [] ∧ c.result = some v := by
  refine ⟨evaluate_isAccountedFor e [] [] (.refl e), nodup_completed rules scope e, ?_⟩
  rintro items v rfl hvalue
  obtain ⟨inner, name, args, hcalls⟩ := calls_evaluate_array_of_ok hvalue
  rw [hcalls]
  exact ⟨_, List.getLast?_concat, rfl, rfl⟩

/-- A text that a literal supplies as a number and a call supplies in upper case. -/
theorem evaluate_instrumented_concat :
    let rules : Rules := ⟨.standard, .standard, 64⟩
    let scope : Scope := ⟨.none, .detached, []⟩
    let upper : Value := .array [.string "upperCase", .string "b"]
    let e : Value := .array [.string "concat", upper, .bool true]
    let inner : List Call :=
      [⟨[1], "upperCase", [.string "b"], none⟩, ⟨[1], "upperCase", [.string "b"], some (.string "B")⟩]
    let args : List Value := [.string "B", .string "true"]
    (evaluate rules scope [] e).calls =
        inner ++ ⟨[], "concat", args, none⟩ :: [⟨[], "concat", args, some (.string "Btrue")⟩] ∧
      (⟨[], "concat", args, none⟩ : Call).IsAccountedFor rules e inner ∧
      (evaluate rules scope [] e).outcome = .ok (.string "Btrue") ∧
      ∃ c, (evaluate rules scope [] e).calls.getLast? = some c ∧ c.path = [] ∧ c.result = some (.string "Btrue") := by
  intro rules scope upper e inner args
  have hcalls : (evaluate rules scope [] e).calls =
      inner ++ ⟨[], "concat", args, none⟩ :: [⟨[], "concat", args, some (.string "Btrue")⟩] := rfl
  have hvalue : (evaluate rules scope [] e).outcome = .ok (.string "Btrue") := rfl
  obtain ⟨haccounted, -, hlast⟩ := evaluate_instrumented rules scope e
  exact ⟨hcalls, haccounted _ _ _ hcalls, hvalue, hlast _ _ rfl hvalue⟩

end FormLogic
