import FormLogic.Proofs.Places
import FormLogic.Proofs.Requests
import FormLogic.Proofs.StandardOperators
/-!
# How standard requests fail

Under the standard operators and casts, a report tells more than its words.  Two causes never occur; the others belong
to one sort of sub-expression each, or to one sort of value (`Cause.BelongsAt`).  In particular no operator gives what
it has not declared: a value of an unexpected kind is always the value of an argument or of the whole, in a place where
something else is asked for.
-/
namespace FormLogic

namespace Builtin

/-- **Every argument that a standard operator admits has a kind.** -/
theorem exists_kindAt {b : Builtin} {count i : Nat} (h : b.signature.admits count = true) (hi : i < count) :
    ∃ kind, b.signature.kindAt b.name i = .ok kind := by
  have hspreads : b.signature.spreads = true → b.signature.parameters ≠ [] := by cases b <;> decide
  unfold Signature.admits at h
  unfold Signature.kindAt
  cases hparameter : b.signature.parameters[i]? with
  | some kind => exact ⟨kind, rfl⟩
  | none =>
    have hlength : b.signature.parameters.length ≤ i := List.getElem?_eq_none_iff.mp hparameter
    have hspread : b.signature.spreads = true := by
      simp only [Bool.and_eq_true, Bool.or_eq_true, decide_eq_true_eq] at h
      exact h.2.resolve_right (by omega)
    rw [List.getLast?_eq_some_getLast (hspreads hspread)]
    dsimp only
    rw [if_pos hspread]
    exact ⟨_, rfl⟩

end Builtin

/-- **The cause that arrays and objects give** where a scalar is asked for. -/
def Cause.OfNested : Cause → Prop
  | .unknownSource found _ => found = "array" ∨ found = "object"
  | _ => False

/-- **The cast of what a standard operator gives** does not refuse a scalar: where a boolean or a number is declared, it
has null or one of these before it. -/
theorem Builtin.result_failsOnly (b : Builtin) (args : List Value) (scope : Scope) :
    FailsOnly (fun cause => cause.OwnedBy b ∨ cause.OfNested)
      (b.run args scope >>= fun raw => CastTable.standard.cast raw b.signature.returns) := by
  intro cause hcause
  cases hrun : b.run args scope with
  | error own =>
    rw [hrun] at hcause
    cases hcause
    exact .inl (b.run_failsOnly args scope _ hrun)
  | ok raw =>
    rw [hrun] at hcause
    rcases CastTable.standard_cast_eq_error hcause with ⟨rfl, hnested⟩ | ⟨-, hkind, hnull, hother⟩
    · exact .inr hnested
    · have hreturns : b.signature.returns ≠ .any := by
        intro hany
        rw [hany] at hkind
        rcases hkind with h | h <;> cases h
      rcases Builtin.run_givesKind args scope hreturns raw hrun with h | h
      · exact absurd h hnull
      · exact absurd h hother

theorem Rules.enter_failsOnly (rules : Rules) (path : Path) (items : List Value) :
    FailsOnly Cause.OfTests (rules.enter path items) := by
  intro cause h
  obtain ⟨-, rfl⟩ | ⟨-, ⟨-, rfl⟩ | ⟨_, _, -, ⟨-, rfl⟩ | ⟨_, -, hcount⟩⟩⟩ := Rules.enter_eq_error h
  · trivial
  · obtain ⟨name, hname⟩ := exists_badHead_eq items
    rw [hname]
    trivial
  · trivial
  · rw [Signature.checkCount_eq_error hcount]
    trivial

/-- **What is asked for at a place** in `root`: of an argument the kind that its operator declares for it, and of the
whole the kind that the request wants. -/
inductive Value.Asked (root : Value) (config : Config) : Path → Value → Kind → Prop where
  | argument {outer : Path} {b : Builtin} {arguments : List Value} {i : Nat} {argument : Value} {kind : Kind}
      (call : root.Reaches outer (.array (.string b.name :: arguments))) (position : arguments[i]? = some argument)
      (declared : b.signature.kindAt b.name i = .ok kind) : Asked root config (outer ++ [i + 1]) argument kind
  | whole {kind : Kind} (wanted : config.returnType = some kind) : Asked root config [] root kind

/-- **Where a cause belongs** among the failures of `root`: what it tells of itself, and of the sub-expression that it
is blamed on.  A value that is of an unexpected kind is what this sub-expression has evaluated to. -/
def Cause.BelongsAt (root : Value) (scope : Scope) (config : Config) (path : Path) (sub : Value) : Cause → Prop
  | .unknownTarget _ | .undeclaredArgument _ _ => False
  | .unknownSource found _ => found = "array" ∨ found = "object"
  | .unexpectedValue target value =>
    (target = .boolean ∨ target = .number) ∧ root.Asked config path sub target ∧
      (evaluate (Dialect.standard.rules config.depthLimit) scope path sub).outcome = .ok value
  | .divisionByZero => sub.head? = some Builtin.divide.name
  | .positionalArgument index available => sub.head? = some Builtin.argv.name ∧ available ≤ index
  | .componentNotFound _ => ∃ b ∈ Builtin.componentLookups, sub.head? = some b.name
  | .invalidArgument operator _ => sub.head? = some operator
  | .unknownOperator _ | .argumentCount _ _ _ _ | .depthExceeded _ => True

section
variable {root : Value} {scope : Scope} {config : Config}

namespace Cause

variable {cause : Cause} {path : Path} {sub : Value}

theorem OfTests.belongsAt (h : cause.OfTests) : cause.BelongsAt root scope config path sub := by
  cases cause <;> trivial

theorem OfNested.belongsAt (h : cause.OfNested) : cause.BelongsAt root scope config path sub := by
  cases cause <;> first | exact h | exact h.elim

theorem OwnedBy.belongsAt {b : Builtin} (h : cause.OwnedBy b) (hhead : sub.head? = some b.name) :
    cause.BelongsAt root scope config path sub := by
  cases cause with
  | divisionByZero =>
    cases h
    exact hhead
  | positionalArgument index available =>
    obtain ⟨rfl, hindex⟩ := h
    exact ⟨hhead, hindex⟩
  | componentNotFound id => exact ⟨b, h, hhead⟩
  | invalidArgument operator text =>
    cases h
    exact hhead
  | _ => exact h.elim

/-- **The cast of a value that is there** fails as it may, where its kind is asked for. -/
theorem belongsAt_of_cast {value : Value} {kind : Kind} (h : CastTable.standard.cast value kind = .error cause)
    (hasked : root.Asked config path sub kind)
    (hvalue : (evaluate (Dialect.standard.rules config.depthLimit) scope path sub).outcome = .ok value) :
    cause.BelongsAt root scope config path sub := by
  rcases CastTable.standard_cast_eq_error h with ⟨rfl, hnested⟩ | ⟨rfl, hkind, -, -⟩
  · exact hnested
  · exact ⟨hkind, hasked, hvalue⟩

end Cause

/-- **Every failure of a standard evaluation belongs where it is blamed.**  The induction is on where it arises, and
carries along where in `root` this is. -/
theorem belongsAt_of_arisesIn {path : Path} {e : Value} {failure : Failure}
    (h : failure.ArisesIn (Dialect.standard.rules config.depthLimit) scope path e) (hroot : root.Reaches path e) :
    ∃ cause place sub, failure = .of cause sub place ∧ cause.BelongsAt root scope config place sub := by
  induction h with
  | tests refused => exact ⟨_, _, _, rfl, (Rules.enter_failsOnly _ _ _ _ refused).belongsAt⟩
  | @inside path items entry i argument failure entered position _ ih =>
    exact ih (hroot.append (Rules.reaches_of_enter entered position))
  | @argument path items entry i argument value cause entered position evaluated refused =>
    have hcount := (Rules.enter_eq_ok.mp entered).2.2.2
    obtain ⟨b, arguments, rfl, rfl⟩ := Rules.exists_builtin_of_enter rfl entered
    obtain ⟨kind, hkind⟩ := Builtin.exists_kindAt hcount (List.getElem?_eq_some_iff.mp position).1
    have hkind' : b.operator.signature.kindAt b.name i = .ok kind := hkind
    rw [hkind'] at refused
    exact ⟨cause, _, argument, rfl, Cause.belongsAt_of_cast refused (.argument hroot position hkind) evaluated⟩
  | @operator path items values entry cause entered _ refused =>
    obtain ⟨b, arguments, rfl, rfl⟩ := Rules.exists_builtin_of_enter rfl entered
    refine ⟨cause, path, _, rfl, ?_⟩
    rcases b.result_failsOnly values scope cause refused with hown | hnested
    · exact hown.belongsAt rfl
    · exact hnested.belongsAt

end

namespace Dialect

/-- **What a standard report can say.**  Its cause belongs to the sub-expression that it shows.  No target lacks a rule
and no argument lacks a kind; only arrays and objects have no cast.  What is of an unexpected kind is the value of an
argument or of the whole, where a boolean or a number is asked for, and never what an operator has given and not
declared.  Every other cause of an operator is blamed on a call of that operator. -/
theorem standard_report_belongs {e : Value} {sources : Sources} {node : Node} {config : Config} {report : Report}
    (h : (standard.evaluate e sources node config).result = .error report) :
    report.cause.BelongsAt e (config.scope sources node) config report.path report.subexpression := by
  obtain ⟨failure, hfails, rfl⟩ := evaluate_eq_error h
  rcases evaluateRoot_fails hfails with hcall | ⟨value, kind, cause, hvalue, hwanted, hcast, rfl⟩
  · obtain ⟨cause, place, sub, rfl, hbelongs⟩ := belongsAt_of_arisesIn (arisesIn_of_error e hcall) (.refl e)
    exact hbelongs
  · exact Cause.belongsAt_of_cast hcast (.whole hwanted) hvalue

/-- A call that gives its text, where a boolean is asked for. -/
theorem standard_report_belongs_argument :
    let word : Value := .array [.string "upperCase", .string "maybe"]
    let e : Value := .array [.string "and", .bool true, word]
    ∃ report, (standard.evaluate e .none .detached {}).result = .error report ∧ report.path = [2] ∧
      report.cause = .unexpectedValue .boolean (.string "MAYBE") ∧ report.subexpression = word ∧
      e.Asked {} [2] word .boolean ∧
      (FormLogic.evaluate (standard.rules 64) ⟨.none, .detached, []⟩ [2] word).outcome = .ok (.string "MAYBE") := by
  intro word e
  have hreport : (standard.evaluate e .none .detached {}).result =
      .error ((Failure.of (.unexpectedValue .boolean (.string "MAYBE")) word [2]).report e none) := rfl
  obtain ⟨-, hasked, hvalue⟩ := standard_report_belongs hreport
  exact ⟨_, hreport, rfl, rfl, rfl, hasked, hvalue⟩

end Dialect
end FormLogic
