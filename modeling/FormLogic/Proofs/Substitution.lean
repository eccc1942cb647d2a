import FormLogic.Proofs.Causes
import FormLogic.Proofs.Correspondence
import FormLogic.Proofs.Provenance
import FormLogic.Proofs.StandardCasts
/-!
# Values in place of calls

A call that succeeds may be replaced by its value: the expression around it then evaluates as before, without the calls
that were made in the place of the replacement.  This rests on what comes out of calls, which is never an array and so
is not read as a call again, and on what the implementations look at, which is not the call itself.
-/
namespace FormLogic

/-- **The expression with another value at a path.** -/
def Value.replaceAt (e : Value) : Path → Value → Value
  | [], v => v
  | step :: path, v =>
    match e with
    | .array items => .array (items.modify step fun item => item.replaceAt path v)
    | literal => literal

theorem Value.Reaches.replaceAt {e sub : Value} {path : Path} (h : e.Reaches path sub) (v : Value) :
    (e.replaceAt path v).Reaches path v := by
  induction path generalizing e with
  | nil => exact .refl v
  | cons step path ih =>
    obtain ⟨items, item, rfl, hstep, hitem, hinner⟩ := Value.reaches_cons.mp h
    refine .cons hstep ?_ (ih hinner)
    rw [List.getElem?_modify_eq, hitem]
    rfl

/-- **Failures that differ at most in the sub-expression they show.** -/
def Failure.Alike (failure failure' : Failure) : Prop :=
  failure.cause = failure'.cause ∧ failure.origin.map Origin.path = failure'.origin.map Origin.path

namespace Failure

theorem alike_refl (failure : Failure) : failure.Alike failure := ⟨rfl, rfl⟩

theorem alike_of (cause : Cause) (e e' : Value) (path : Path) : (of cause e path).Alike (of cause e' path) := ⟨rfl, rfl⟩

end Failure

/-- **The view of the calls outside a place**: those whose path does not start with the path of the place. -/
def Call.outside (path : Path) : Call → Option Call := Option.guard fun c => !decide (path <+: c.path)

theorem Call.outside_eq_self {path : Path} {c : Call} (h : ¬ path <+: c.path) : c.outside path = some c := by
  simp [outside, Option.guard, h]

theorem Call.outside_eq_none {path : Path} {c : Call} (h : path <+: c.path) : c.outside path = none := by
  simp [outside, Option.guard, h]

section
variable {rules : Rules} {scope : Scope}

theorem prefix_of_mem_calls {path : Path} {e : Value} {c : Call} (hc : c ∈ (evaluate rules scope path e).calls) :
    path <+: c.path := by
  obtain ⟨inner, -, hpath, -⟩ := exists_reaches_of_mem_calls e path c hc
  exact ⟨inner, hpath.symm⟩

/-- **What comes out of a call is null or a scalar.** -/
theorem scalar_of_evaluate_array (hcasts : rules.casts.CoercesAsStandard) {path : Path} {items : List Value} {v : Value}
    (h : (evaluate rules scope path (.array items)).outcome = .ok v) : v = .null ∨ v.HasKind .any := by
  obtain ⟨entry, values, -, -, hinvoke⟩ := evaluate_array_eq_ok.mp h
  obtain ⟨raw, -, hcast⟩ := invoke_eq_ok.mp hinvoke
  exact hcasts.scalar_of_cast hcast

theorem items?_of_scalar {v : Value} (h : v = .null ∨ v.HasKind .any) : v.items? = none := by
  rcases h with rfl | h
  · rfl
  · cases v with
    | array items => cases h
    | _ => rfl

/-- **A call is mirrored** by one with the same head when each of its arguments is mirrored in its place.  What the two
operators see of their calls differs, but standard implementations do not look at it. -/
theorem evaluate_mirrors_of_arguments (hops : rules.operators.IsCatalogued) {view : Call → Option Call} {path : Path}
    {head : Value} {arguments arguments' : List Value} (hlength : arguments'.length = arguments.length)
    (hview : ∀ c : Call, c.path = path → view c = some c)
    (harguments : ∀ i argument argument', arguments[i]? = some argument → arguments'[i]? = some argument' →
      (evaluate rules scope (path ++ [i + 1]) argument).Mirrors view Failure.Alike
        (evaluate rules scope (path ++ [i + 1]) argument')) :
    (evaluate rules scope path (.array (head :: arguments))).Mirrors view Failure.Alike
      (evaluate rules scope path (.array (head :: arguments'))) := by
  have henter : rules.enter path (head :: arguments') =
      (rules.enter path (head :: arguments)).map fun entry => { entry with arguments := arguments' } :=
    Rules.enter_of_length_eq hlength
  refine evaluate_array_mirrors (fun cause hcause => ?_) fun entry hentry => ?_
  · rw [hcause] at henter
    exact ⟨cause, henter, Failure.alike_of cause _ _ path⟩
  · rw [hentry] at henter
    obtain ⟨-, hitems, hget, -⟩ := Rules.enter_eq_ok.mp hentry
    obtain ⟨-, rfl⟩ := List.cons.inj hitems
    refine ⟨arguments', henter, evaluateArguments_mirrors hlength.symm fun i argument argument' hi hi' => ?_,
      fun values => ?_⟩
    · rw [Nat.zero_add]
      exact evaluateArgument_mirrors rfl (harguments i argument argument' hi hi') fun cause =>
        Failure.alike_of cause _ _ _
    · exact invoke_mirrors rfl (hops.run_congr hget values rfl) (fun result => hview _ rfl) fun cause =>
        Failure.alike_of cause _ _ _

/-- **The expression around a call** mirrors itself with the value in place of the call.  The induction is on the path
to the call: at each step one argument changes, and only calls in it are gone. -/
theorem evaluate_mirrors_replaceAt (hops : rules.operators.IsCatalogued) {items : List Value} {v : Value}
    (hv : v.items? = none) : ∀ (inner path : Path) {e : Value}, e.Reaches inner (.array items) →
      (evaluate rules scope (path ++ inner) (.array items)).outcome = .ok v →
      (evaluate rules scope path e).Mirrors (Call.outside (path ++ inner)) Failure.Alike
        (evaluate rules scope path (e.replaceAt inner v))
  | [], path, e, hreaches, hvalue => by
    rw [List.append_nil] at hvalue ⊢
    rw [Value.reaches_nil.mp hreaches, Value.replaceAt, evaluate_literal hv]
    refine ⟨?_, fun w hw => ?_, fun failure hfailure => ?_⟩
    · rw [Run.calls_done, eq_comm, List.filterMap_eq_nil_iff]
      exact fun c hc => Call.outside_eq_none (prefix_of_mem_calls hc)
    · rw [← hw, hvalue, Run.outcome_done]
    · rw [hvalue] at hfailure
      cases hfailure
  | step :: inner, path, e, hreaches, hvalue => by
    obtain ⟨siblings, item, rfl, hstep, hitem, hinner⟩ := Value.reaches_cons.mp hreaches
    obtain ⟨k, rfl⟩ : ∃ k, step = k + 1 := ⟨step - 1, by omega⟩
    cases siblings with
    | nil => cases hitem
    | cons head arguments =>
      rw [List.getElem?_cons_succ] at hitem
      rw [Value.replaceAt, List.modify_succ_cons]
      refine evaluate_mirrors_of_arguments hops (List.length_modify ..) (fun c hc => ?_)
        fun i argument argument' hi hi' => ?_
      · refine Call.outside_eq_self fun hprefix => ?_
        have hle := hprefix.length_le
        rw [hc, List.length_append, List.length_cons] at hle
        omega
      · by_cases hik : k = i
        · subst hik
          rw [List.getElem?_modify_eq, hitem] at hi'
          rw [hitem] at hi
          cases hi
          cases hi'
          rw [List.append_cons path (k + 1) inner] at hvalue ⊢
          exact evaluate_mirrors_replaceAt hops hv inner _ hinner hvalue
        · rw [List.getElem?_modify_ne _ _ hik, hi] at hi'
          cases hi'
          refine .refl (fun c hc => Call.outside_eq_self fun hprefix => hik ?_) Failure.alike_refl
          -- a call in another argument, if below the replaced one, would have two different steps after `path`
          obtain ⟨rest, hrest⟩ := prefix_of_mem_calls hc
          rw [← hrest, List.append_assoc, List.prefix_append_right_inj, List.singleton_append,
            List.cons_prefix_cons] at hprefix
          exact Nat.succ.inj hprefix.1

end

/-- **Substitution.**  A call that succeeds in its own place gives null or a scalar.  With the value in its place, the
expression gives the same value or fails for the same cause in the same place, and makes the same calls but for those
in the place of the replacement. -/
theorem evaluate_replaceAt {rules : Rules} (hops : rules.operators.IsCatalogued)
    (hcasts : rules.casts.CoercesAsStandard) (scope : Scope) {e : Value} {path : Path} {items : List Value} {v : Value}
    (hreaches : e.Reaches path (.array items)) (hvalue : (evaluate rules scope path (.array items)).outcome = .ok v) :
    (v = .null ∨ v.HasKind .any) ∧
      (∀ w, (evaluate rules scope [] e).outcome = .ok w →
        (evaluate rules scope [] (e.replaceAt path v)).outcome = .ok w) ∧
      (∀ failure, (evaluate rules scope [] e).outcome = .error failure →
        ∃ failure', (evaluate rules scope [] (e.replaceAt path v)).outcome = .error failure' ∧
          failure.Alike failure') ∧
      (evaluate rules scope [] (e.replaceAt path v)).calls =
        (evaluate rules scope [] e).calls.filter fun c => !decide (path <+: c.path) := by
  have hscalar : v = .null ∨ v.HasKind .any := scalar_of_evaluate_array hcasts hvalue
  have hmirror : (evaluate rules scope [] e).Mirrors (Call.outside path) Failure.Alike
      (evaluate rules scope [] (e.replaceAt path v)) :=
    evaluate_mirrors_replaceAt hops (items?_of_scalar hscalar) path [] hreaches hvalue
  refine ⟨hscalar, hmirror.gives, hmirror.fails, ?_⟩
  rw [hmirror.calls, Call.outside, List.filterMap_eq_filter]

/-- The operand of a failing operand is replaced: the failure is the same one, of another expression. -/
theorem evaluate_replaceAt_operand :
    let rules := Dialect.standard.rules 64
    let scope : Scope := ⟨.none, .detached, []⟩
    let inner : List Value := [.string "lowerCase", .string "MAYBE"]
    let other : Value := .array [.string "not", .bool true]
    let e : Value := .array [.string "and", other, .array [.string "not", .array inner]]
    let e' : Value := .array [.string "and", other, .array [.string "not", .string "maybe"]]
    rules.operators.IsCatalogued ∧ rules.casts.CoercesAsStandard ∧ e.Reaches [2, 1] (.array inner) ∧
      (evaluate rules scope [2, 1] (.array inner)).outcome = .ok (.string "maybe") ∧
      e.replaceAt [2, 1] (.string "maybe") = e' ∧
      ∃ failure failure', (evaluate rules scope [] e).outcome = .error failure ∧
        (evaluate rules scope [] e').outcome = .error failure' ∧ failure.Alike failure' ∧ failure ≠ failure' ∧
        (evaluate rules scope [] e').calls = (evaluate rules scope [] e).calls.filter fun c =>
          !decide ([2, 1] <+: c.path) := by
  intro rules scope inner other e e'
  have hops : rules.operators.IsCatalogued := Registry.standard_isCatalogued
  have hcasts : rules.casts.CoercesAsStandard := CastTable.standard_coercesAsStandard
  have hreaches : e.Reaches [2, 1] (.array inner) :=
    .cons (Nat.le_succ 1) rfl (.cons (Nat.le_refl 1) rfl (.refl _))
  have hvalue : (evaluate rules scope [2, 1] (.array inner)).outcome = .ok (.string "maybe") := rfl
  have hfails : (evaluate rules scope [] e).outcome =
      .error (.of (.unexpectedValue .boolean (.string "maybe")) (.array inner) [2, 1]) := rfl
  obtain ⟨-, -, halike, hcalls⟩ := evaluate_replaceAt hops hcasts scope hreaches hvalue
  obtain ⟨failure', hfails', hsame⟩ := halike _ hfails
  refine ⟨hops, hcasts, hreaches, hvalue, rfl, _, failure', hfails, hfails', hsame, ?_, hcalls⟩
  rintro rfl
  cases hfails'

end FormLogic
