import FormLogic.Proofs.Requests
import FormLogic.Proofs.StandardOperators
/-!
# Standard calls, from the inside outwards

What a call gives, put together from what its parts give: the arguments one by one (`evaluateArguments_cons_of_ok`), the
call of a standard operator (`evaluate_builtin`), and the plain request for it (`Dialect.result_of_evaluate`).
-/
namespace FormLogic

/-- **The standard registry holds every standard operator** under its name. -/
theorem Registry.standard_get? (b : Builtin) : Registry.standard.get? b.name = some b.operator := by
  have hkeys : ((Builtin.all.map fun b => (b.name, b.operator)).map Prod.fst).Nodup := by
    rw [List.map_map]
    exact Builtin.nodup_names
  exact Table.get?_ofList hkeys (List.mem_map_of_mem (Builtin.mem_all b))

section
variable {rules : Rules} {scope : Scope} {path : Path} {name : String} {signature : Signature} {index : Nat}

theorem evaluateArguments_cons_eq_ok {argument : Value} {rest values : List Value} :
    (evaluateArguments rules scope path name signature index (argument :: rest)).outcome = .ok values ↔
      ∃ value others, (evaluateArgument rules scope path name signature index argument).outcome = .ok value ∧
        (evaluateArguments rules scope path name signature (index + 1) rest).outcome = .ok others ∧
        values = value :: others := by
  simp only [evaluateArguments_cons, Run.outcome_bind_eq_ok, Run.outcome_pure, Except.ok.injEq, exists_and_left,
    eq_comm (a := values)]

theorem evaluateArguments_cons_of_ok {argument value : Value} {rest values : List Value}
    (hfirst : (evaluateArgument rules scope path name signature index argument).outcome = .ok value)
    (hrest : (evaluateArguments rules scope path name signature (index + 1) rest).outcome = .ok values) :
    (evaluateArguments rules scope path name signature index (argument :: rest)).outcome = .ok (value :: values) :=
  evaluateArguments_cons_eq_ok.mpr ⟨value, values, hfirst, hrest, rfl⟩

/-- **An argument that is a literal** is only cast. -/
theorem evaluateArgument_literal_eq_ok {argument value : Value} {kind : Kind} (hliteral : argument.items? = none)
    (hkind : signature.kindAt name index = .ok kind) :
    (evaluateArgument rules scope path name signature index argument).outcome = .ok value ↔
      rules.casts.cast argument kind = .ok value := by
  rw [evaluateArgument_eq_ok, evaluate_literal hliteral, hkind]
  constructor
  · rintro ⟨_, _, ⟨⟩, ⟨⟩, hcast⟩
    exact hcast
  · exact fun hcast => ⟨argument, kind, rfl, rfl, hcast⟩

theorem evaluateArgument_literal {argument value : Value} {kind : Kind} (hliteral : argument.items? = none)
    (hkind : signature.kindAt name index = .ok kind) (hcast : rules.casts.cast argument kind = .ok value) :
    (evaluateArgument rules scope path name signature index argument).outcome = .ok value :=
  (evaluateArgument_literal_eq_ok hliteral hkind).mpr hcast

/-- **Literals of one kind**, as many as there are, are only cast. -/
theorem evaluateArguments_literals {kind : Kind} (hkind : ∀ index, signature.kindAt name index = .ok kind)
    {arguments values : List Value}
    (h : List.Forall₂ (fun argument value => argument.items? = none ∧ rules.casts.cast argument kind = .ok value)
      arguments values) :
    (evaluateArguments rules scope path name signature index arguments).outcome = .ok values := by
  induction h generalizing index with
  | nil => rfl
  | cons hfirst hrest ih =>
    exact evaluateArguments_cons_of_ok (evaluateArgument_literal hfirst.1 (hkind index) hfirst.2) ih

/-- **A call of a standard operator** gives a value exactly where its arguments do and the operator makes of these what
can be cast to it. -/
theorem evaluate_builtin_eq_ok (hops : rules.operators = .standard) {b : Builtin} {arguments : List Value}
    {value : Value} :
    (evaluate rules scope path (.array (.string b.name :: arguments))).outcome = .ok value ↔
      path.length ≤ rules.maxDepth ∧ b.signature.admits arguments.length = true ∧ ∃ values raw,
        (evaluateArguments rules scope path b.name b.signature 0 arguments).outcome = .ok values ∧
        b.run values scope = .ok raw ∧ rules.casts.cast raw b.signature.returns = .ok value := by
  have hget : rules.operators.get? b.name = some b.operator := by
    rw [hops]
    exact Registry.standard_get? b
  rw [evaluate_array_eq_ok]
  constructor
  · rintro ⟨entry, values, hentry, hvalues, hinvoke⟩
    obtain ⟨hdepth, hitems, hfound, hcount⟩ := Rules.enter_eq_ok.mp hentry
    obtain ⟨name, operator, given⟩ := entry
    obtain ⟨hname, hgiven⟩ := List.cons.inj hitems
    have hname : b.name = name := Value.string.inj hname
    have hgiven : arguments = given := hgiven
    subst hname hgiven
    have hoperator : b.operator = operator := Option.some.inj (hget.symm.trans hfound)
    subst hoperator
    obtain ⟨raw, hrun, hcast⟩ := invoke_eq_ok.mp hinvoke
    exact ⟨hdepth, hcount, values, raw, hvalues, hrun, hcast⟩
  · rintro ⟨hdepth, hcount, values, raw, hvalues, hrun, hcast⟩
    have hentry : rules.enter path (.string b.name :: arguments) = .ok ⟨b.name, b.operator, arguments⟩ :=
      Rules.enter_eq_ok.mpr ⟨hdepth, rfl, hget, hcount⟩
    exact ⟨_, values, hentry, hvalues, invoke_eq_ok.mpr ⟨raw, hrun, hcast⟩⟩

theorem evaluate_builtin (hops : rules.operators = .standard) {b : Builtin} {arguments values : List Value}
    {raw value : Value} (hdepth : path.length ≤ rules.maxDepth) (hcount : b.signature.admits arguments.length = true)
    (hvalues : (evaluateArguments rules scope path b.name b.signature 0 arguments).outcome = .ok values)
    (hrun : b.run values scope = .ok raw) (hcast : rules.casts.cast raw b.signature.returns = .ok value) :
    (evaluate rules scope path (.array (.string b.name :: arguments))).outcome = .ok value :=
  (evaluate_builtin_eq_ok hops).mpr ⟨hdepth, hcount, values, raw, hvalues, hrun, hcast⟩

end

namespace Dialect

/-- **A plain request for a call** gives what the call gives, and nothing else. -/
theorem result_eq_ok {d : Dialect} {items : List Value} {sources : Sources} {node : Node} {value : Value} :
    (d.evaluate (.array items) sources node {}).result = .ok value ↔
      (FormLogic.evaluate (d.rules defaultMaxDepth) ⟨sources, node, []⟩ [] (.array items)).outcome = .ok value := by
  have hroot : (d.evaluateRoot (.array items) (({} : Config).scope sources node) {}).outcome = .ok value ↔
      (FormLogic.evaluate (d.rules defaultMaxDepth) ⟨sources, node, []⟩ [] (.array items)).outcome = .ok value := by
    rw [evaluateRoot_array, Run.outcome_bind_eq_ok]
    have hfinish : ∀ v, (Run.step (d.finish (.array items) {} v) (.array items) []).outcome = .ok v := fun v =>
      congrArg Except.ok (Config.orDefault_of_none rfl v)
    constructor
    · rintro ⟨v, hv, hlast⟩
      rw [hfinish] at hlast
      cases hlast
      exact hv
    · exact fun h => ⟨value, h, hfinish value⟩
  rw [← hroot]
  exact ⟨fun h => evaluateRoot_of_ok h rfl, fun h => (evaluate_of_ok h).1⟩

theorem result_of_evaluate {d : Dialect} {items : List Value} {sources : Sources} {node : Node} {value : Value}
    (h : (FormLogic.evaluate (d.rules defaultMaxDepth) ⟨sources, node, []⟩ [] (.array items)).outcome = .ok value) :
    (d.evaluate (.array items) sources node {}).result = .ok value := result_eq_ok.mpr h

/-- **A plain request for a standard operator of literals of one kind**: all are cast, then comes the operator, then the
cast of its result. -/
theorem standard_result_of_literals {b : Builtin} {kind : Kind}
    (hkind : ∀ index, b.signature.kindAt b.name index = .ok kind) {arguments values : List Value} {raw value : Value}
    (hcount : b.signature.admits arguments.length = true)
    (hvalues : List.Forall₂
      (fun argument value => argument.items? = none ∧ CastTable.standard.cast argument kind = .ok value)
      arguments values)
    {sources : Sources} {node : Node} (hrun : b.run values ⟨sources, node, []⟩ = .ok raw)
    (hcast : CastTable.standard.cast raw b.signature.returns = .ok value) :
    (standard.evaluate (.array (.string b.name :: arguments)) sources node {}).result = .ok value :=
  result_of_evaluate
    (evaluate_builtin rfl (Nat.zero_le _) hcount (evaluateArguments_literals hkind hvalues) hrun hcast)

/-- **A plain request for a standard operator of one literal**: it is cast, then comes the operator, then the cast of
its result. -/
theorem standard_result_of_one {b : Builtin} {kind returns : Kind} (hsignature : b.signature = .fixed [kind] returns)
    {x x' raw value : Value} (hx : x.items? = none) (hcastx : CastTable.standard.cast x kind = .ok x')
    {sources : Sources} {node : Node} (hrun : b.run [x'] ⟨sources, node, []⟩ = .ok raw)
    (hcast : CastTable.standard.cast raw returns = .ok value) :
    (standard.evaluate (.array [.string b.name, x]) sources node {}).result = .ok value := by
  have hkind : ∀ name, (Signature.fixed [kind] returns).kindAt name 0 = .ok kind := fun _ => rfl
  have hreturns : b.signature.returns = returns := by rw [hsignature]; rfl
  refine result_of_evaluate (evaluate_builtin rfl (Nat.zero_le _) ?_ ?_ hrun ?_)
  · rw [hsignature]
    rfl
  · rw [hsignature]
    exact evaluateArguments_cons_of_ok (evaluateArgument_literal hx (hkind b.name) hcastx) rfl
  · rw [hreturns]
    exact hcast

/-- **A plain request for a standard operator of two literals**: both are cast, then comes the operator, then the cast
of its result. -/
theorem standard_result_of_two {b : Builtin} {first second returns : Kind}
    (hsignature : b.signature = .fixed [first, second] returns) {x y x' y' raw value : Value}
    (hx : x.items? = none) (hy : y.items? = none) (hcastx : CastTable.standard.cast x first = .ok x')
    (hcasty : CastTable.standard.cast y second = .ok y') {sources : Sources} {node : Node}
    (hrun : b.run [x', y'] ⟨sources, node, []⟩ = .ok raw) (hcast : CastTable.standard.cast raw returns = .ok value) :
    (standard.evaluate (.array [.string b.name, x, y]) sources node {}).result = .ok value := by
  have hkinds : ∀ name, (Signature.fixed [first, second] returns).kindAt name 0 = .ok first ∧
      (Signature.fixed [first, second] returns).kindAt name 1 = .ok second := fun name => ⟨rfl, rfl⟩
  have hreturns : b.signature.returns = returns := by rw [hsignature]; rfl
  refine result_of_evaluate (evaluate_builtin rfl (Nat.zero_le _) ?_ ?_ hrun ?_)
  · rw [hsignature]
    rfl
  · rw [hsignature]
    exact evaluateArguments_cons_of_ok (evaluateArgument_literal hx (hkinds b.name).1 hcastx)
      (evaluateArguments_cons_of_ok (evaluateArgument_literal hy (hkinds b.name).2 hcasty) rfl)
  · rw [hreturns]
    exact hcast

end Dialect
end FormLogic
