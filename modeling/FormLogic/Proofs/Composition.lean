import FormLogic.Proofs.Causes
import FormLogic.Proofs.Correspondence
import FormLogic.Proofs.Places
/-!
# Expressions in their place and on their own

What an expression does is the same wherever it stands: below a path it gives the value that it gives on its own
under what is left of the depth limit, or the same failure, in a place that is counted from the root.  And nothing in an
expression is skipped, so an expression that evaluates is made of sub-expressions that evaluate.
-/
namespace FormLogic

/-- **The rules for an expression below a path** when it is evaluated on its own: the path has used up its part of the
depth limit. -/
def Rules.below (rules : Rules) (path : Path) : Rules := rules.withLimit (rules.maxDepth - path.length)

/-- The same call of an expression that stands below a path. -/
def Call.below (path : Path) (c : Call) : Call := { c with path := path ++ c.path }

/-- **A failure of an expression on its own, and the failure of the expression below a path**: one sub-expression is
blamed, whose place is counted from the expression or from the root, for one cause.  Where the cause is the depth, each
names the limit that it went by. -/
structure Failure.IsBelow (rules : Rules) (path : Path) (failure failure' : Failure) : Prop where
  cause : failure'.cause = failure.cause ∨
    failure.cause = .depthExceeded (rules.below path).maxDepth ∧ failure'.cause = .depthExceeded rules.maxDepth
  origin : failure'.origin = failure.origin.map fun origin => ⟨origin.expression, path ++ origin.path⟩

section
variable {rules : Rules} {scope : Scope}

theorem Failure.isBelow_of (cause : Cause) (e : Value) (path inner : Path) :
    (Failure.of cause e inner).IsBelow rules path (.of cause e (path ++ inner)) := ⟨.inl rfl, rfl⟩

/-- **An expression below a path mirrors itself on its own.**  The induction is on the expression, for all places in it
at once: on both sides each call is as far from its limit, so both pass the test of the depth or neither does. -/
theorem evaluate_mirrors_below (hops : rules.operators.IsCatalogued) {path : Path}
    (hpath : path.length ≤ rules.maxDepth) (e : Value) : ∀ inner,
      (evaluate (rules.below path) scope inner e).Mirrors (fun c => some (c.below path)) (Failure.IsBelow rules path)
        (evaluate rules scope (path ++ inner) e) := by
  have hlimit : (rules.below path).maxDepth = rules.maxDepth - path.length := rfl
  have hoperators : rules.operators = (rules.below path).operators := rfl
  induction e using Value.call_induction with
  | literal v hv =>
    intro inner
    rw [evaluate_literal hv, evaluate_literal hv]
    exact .done v
  | call items ih =>
    intro inner
    have hlength : (path ++ inner).length = path.length + inner.length := List.length_append
    rcases Nat.lt_or_ge (rules.below path).maxDepth inner.length with hdeep | hshallow
    · have hdeep' : rules.maxDepth < (path ++ inner).length := by omega
      refine evaluate_array_mirrors (fun cause hcause => ?_) fun entry hentry => ?_
      · rw [Rules.enter_of_lt hdeep] at hcause
        cases hcause
        exact ⟨_, Rules.enter_of_lt hdeep' items, .inr ⟨rfl, rfl⟩, rfl⟩
      · rw [Rules.enter_of_lt hdeep] at hentry
        cases hentry
    · have hshallow' : (path ++ inner).length ≤ rules.maxDepth := by omega
      have henter : rules.enter (path ++ inner) items = (rules.below path).enter inner items :=
        Rules.enter_of_le hoperators hshallow' hshallow items
      refine evaluate_array_mirrors (fun cause hcause => ?_) fun entry hentry => ?_
      · exact ⟨cause, henter.trans hcause, Failure.isBelow_of cause _ path inner⟩
      · obtain ⟨-, -, hget, -⟩ := Rules.enter_eq_ok.mp hentry
        refine ⟨entry.arguments, henter.trans hentry,
          evaluateArguments_mirrors rfl fun i argument argument' hi hi' => ?_, fun values => ?_⟩
        · rw [hi] at hi'
          cases hi'
          have hargument := ih argument (Rules.mem_items_of_enter hentry hi) (inner ++ [0 + i + 1])
          rw [← List.append_assoc] at hargument
          refine evaluateArgument_mirrors rfl hargument fun cause => ?_
          rw [List.append_assoc]
          exact Failure.isBelow_of cause argument path (inner ++ [0 + i + 1])
        · exact invoke_mirrors rfl (hops.run_congr hget values rfl) (fun result => rfl) fun cause =>
            Failure.isBelow_of cause _ path inner

/-- **Nothing is skipped**: whatever argument steps reach in an expression that evaluates has been evaluated in its
place.  The induction is on the path. -/
theorem evaluate_ok_of_reaches : ∀ {inner path : Path} {e sub v : Value},
    (evaluate rules scope path e).outcome = .ok v → e.Reaches inner sub →
      ∃ w, (evaluate rules scope (path ++ inner) sub).outcome = .ok w
  | [], path, e, sub, v, h, hreaches => by
    rw [List.append_nil, ← Value.reaches_nil.mp hreaches]
    exact ⟨v, h⟩
  | step :: inner, path, e, sub, v, h, hreaches => by
    obtain ⟨items, item, rfl, hstep, hitem, hinner⟩ := Value.reaches_cons.mp hreaches
    obtain ⟨i, rfl⟩ : ∃ i, step = i + 1 := ⟨step - 1, by omega⟩
    obtain ⟨entry, values, hentry, harguments, -⟩ := evaluate_array_eq_ok.mp h
    rw [Rules.getElem?_items_of_enter hentry] at hitem
    obtain ⟨value, -, hvalue⟩ := (evaluateArguments_eq_ok harguments).2 i item hitem
    obtain ⟨w, -, hw, -, -⟩ := evaluateArgument_eq_ok.mp hvalue
    rw [Nat.zero_add] at hw
    rw [List.append_cons]
    exact evaluate_ok_of_reaches hw hinner

theorem length_le_of_evaluate_ok {path : Path} {items : List Value} {v : Value}
    (h : (evaluate rules scope path (.array items)).outcome = .ok v) : path.length ≤ rules.maxDepth := by
  obtain ⟨entry, -, hentry, -, -⟩ := evaluate_array_eq_ok.mp h
  exact (Rules.enter_eq_ok.mp hentry).1

end

/-- **Compositionality and strictness.**  Over a registry of standard implementations, an expression that stands at a
path within the depth limit gives the value that it gives on its own, under what the path leaves of the limit, or fails
as it does on its own, with the path put before the places of the failure and of all its calls.  An expression that
evaluates is made of sub-expressions that all evaluate on their own. -/
theorem evaluate_compositional {rules : Rules} (hops : rules.operators.IsCatalogued) (scope : Scope) (e : Value) :
    (∀ path : Path, path.length ≤ rules.maxDepth →
      (∀ v, (evaluate (rules.below path) scope [] e).outcome = .ok v →
        (evaluate rules scope path e).outcome = .ok v) ∧
      (∀ failure, (evaluate (rules.below path) scope [] e).outcome = .error failure →
        ∃ failure', (evaluate rules scope path e).outcome = .error failure' ∧ failure.IsBelow rules path failure') ∧
      (evaluate rules scope path e).calls = (evaluate (rules.below path) scope [] e).calls.map (Call.below path)) ∧
    ∀ v, (evaluate rules scope [] e).outcome = .ok v → ∀ path sub, e.Reaches path sub →
      ∃ w, (evaluate (rules.below path) scope [] sub).outcome = .ok w := by
  have hmirror : ∀ (e : Value) (path : Path), path.length ≤ rules.maxDepth →
      (evaluate (rules.below path) scope [] e).Mirrors (fun c => some (c.below path)) (Failure.IsBelow rules path)
        (evaluate rules scope path e) := by
    intro e path hpath
    simpa only [List.append_nil] using evaluate_mirrors_below hops hpath e []
  refine ⟨fun path hpath => ⟨(hmirror e path hpath).gives, (hmirror e path hpath).fails, ?_⟩,
    fun v hv path sub hreaches => ?_⟩
  · rw [(hmirror e path hpath).calls, List.filterMap_eq_map']
  · obtain ⟨w, hw⟩ := evaluate_ok_of_reaches hv hreaches
    rw [List.nil_append] at hw
    cases hitems : sub.items? with
    | none =>
      -- a literal may stand deeper than any call
      rw [evaluate_literal hitems]
      exact ⟨sub, rfl⟩
    | some items =>
      cases Value.items?_eq_some.mp hitems
      cases halone : (evaluate (rules.below path) scope [] (.array items)).outcome with
      | ok w' => exact ⟨w', rfl⟩
      | error failure =>
        obtain ⟨failure', hfails, -⟩ := (hmirror _ path (length_le_of_evaluate_ok hw)).fails failure halone
        rw [hw] at hfails
        cases hfails

/-- Three negations are one too many, on their own and below a path, each time by the limit of that place; and the
branch that is not chosen evaluates with the whole. -/
theorem evaluate_compositional_negations :
    let rules : Rules := ⟨.standard, .standard, 2⟩
    let scope : Scope := ⟨.none, .detached, []⟩
    let negation (v : Value) : Value := .array [.string "not", v]
    let deep : Value := negation (negation (negation (.bool true)))
    let choice : Value := .array [.string "if", .bool true, .string "yes", .string "else", negation (.bool true)]
    let alone : Failure := .of (.depthExceeded 1) (negation (.bool true)) [1, 1]
    rules.operators.IsCatalogued ∧ [1].length ≤ rules.maxDepth ∧
      (evaluate (rules.below [1]) scope [] deep).outcome = .error alone ∧
      (∃ failure, (evaluate rules scope [1] deep).outcome = .error failure ∧ alone.IsBelow rules [1] failure) ∧
      (evaluate rules scope [] choice).outcome = .ok (.string "yes") ∧
      choice.Reaches [4] (negation (.bool true)) ∧
      ∃ w, (evaluate (rules.below [4]) scope [] (negation (.bool true))).outcome = .ok w := by
  intro rules scope negation deep choice alone
  have hops : rules.operators.IsCatalogued := Registry.standard_isCatalogued
  have hpath : [1].length ≤ rules.maxDepth := Nat.le_succ 1
  have hfails : (evaluate (rules.below [1]) scope [] deep).outcome = .error alone := rfl
  have hvalue : (evaluate rules scope [] choice).outcome = .ok (.string "yes") := rfl
  have hreaches : choice.Reaches [4] (negation (.bool true)) := .cons (Nat.le_add_left 1 3) rfl (.refl _)
  obtain ⟨hplace, -⟩ := evaluate_compositional hops scope deep
  obtain ⟨-, hstrict⟩ := evaluate_compositional hops scope choice
  exact ⟨hops, hpath, hfails, (hplace [1] hpath).2.1 alone hfails, hvalue, hreaches, hstrict _ hvalue [4] _ hreaches⟩

end FormLogic
