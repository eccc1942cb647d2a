import FormLogic.Proofs.Causes
import FormLogic.Proofs.Checks
import FormLogic.Proofs.Places
import FormLogic.Proofs.Requests
/-!
# What an evaluation depends on

Of a registry an expression looks at the names that it calls, and of a host at what the operators of these names look
at.  Two settings that agree on this much give the same run, observation by observation (`evaluate_congr`), and the same
answer to a request (`Dialect.evaluate_congr`).  The check looks at even less, the signatures of the operators
(`check_congr`).

An operator is shown the whole registry, though, and may tell names apart that no call mentions, such as
`Operator.isRegistered`.  So an operator that an expression does not call may be registered, replaced or removed where
the operators that it does call overlook the name (`Dialect.evaluate_local`), as all standard ones do; and without that
proviso it may not (`Dialect.evaluate_isRegistered`).
-/
namespace FormLogic

/-- **Operators that no call can tell apart**, each under a host and under rules of its own: they have one signature,
and answer whatever arguments alike. -/
structure Operator.AgreeUnder (scope scope' : Scope) (env env' : Env) (o o' : Operator) : Prop where
  signature : o.signature = o'.signature
  run : ∀ args e path, o.run args ⟨e, path, scope, env⟩ = o'.run args ⟨e, path, scope', env'⟩

/-- **What the implementations see agrees but for one name**: the casts and the depth limit are the same, and so are the
signatures under every other name. -/
structure Env.AgreeBut (name : String) (env env' : Env) : Prop where
  signatures : ∀ other, other ≠ name → env.signatures.get? other = env'.signatures.get? other
  casts : env.casts = env'.casts
  maxDepth : env.maxDepth = env'.maxDepth

/-- **An operator overlooks a name**: whatever is registered under it, if anything, the operator answers every call
alike. -/
def Operator.Overlooks (o : Operator) (name : String) : Prop :=
  ∀ args e path scope (env env' : Env), env.AgreeBut name env' →
    o.run args ⟨e, path, scope, env⟩ = o.run args ⟨e, path, scope, env'⟩

theorem Operator.Overlooks.agreeUnder {o : Operator} {name : String} (h : o.Overlooks name) {env env' : Env}
    (hagree : env.AgreeBut name env') (scope : Scope) : o.AgreeUnder scope scope env env' o :=
  ⟨rfl, fun args e path => h args e path scope env env' hagree⟩

/-- **The standard implementations overlook every name**, under whatever names they are registered. -/
theorem Registry.IsCatalogued.overlooks {operators : Registry} (h : operators.IsCatalogued) {name : String}
    {o : Operator} (hget : operators.get? name = some o) (other : String) : o.Overlooks other :=
  fun args _ _ _ _ _ _ => h.run_congr hget args rfl

/-- **An operator that tells whether a name is registered**, from what it is shown. -/
def Operator.isRegistered (name : String) : Operator :=
  ⟨.fixed [] .boolean, fun _ frame => .ok (.bool (frame.env.signatures.contains name))⟩

/-- It overlooks every other name. -/
theorem Operator.isRegistered_overlooks {name other : String} (h : name ≠ other) :
    (isRegistered name).Overlooks other := by
  intro args e path scope env env' hagree
  show Except.ok (Value.bool (env.signatures.contains name)) = .ok (.bool (env'.signatures.contains name))
  rw [Table.contains, Table.contains, hagree.signatures name h]

theorem Rules.agreeBut_env {rules rules' : Rules} {name : String} (hcasts : rules.casts = rules'.casts)
    (hdepth : rules.maxDepth = rules'.maxDepth)
    (hagree : ∀ other, other ≠ name → rules.operators.get? other = rules'.operators.get? other) :
    rules.env.AgreeBut name rules'.env := by
  refine ⟨fun other hother => ?_, hcasts, hdepth⟩
  show (rules.operators.map _).get? other = (rules'.operators.map _).get? other
  rw [Table.get?_map, Table.get?_map, hagree other hother]

section
variable {rules rules' : Rules} {scope scope' : Scope}

/-- **An evaluation depends on the operators that the expression calls**, under what these are shown.  The induction is
on the expression; what an argument calls is called by the whole. -/
theorem evaluate_congr (hcasts : rules.casts = rules'.casts) (hdepth : rules.maxDepth = rules'.maxDepth) (e : Value) :
    (∀ name, e.Calls name → Option.Rel (Operator.AgreeUnder scope scope' rules.env rules'.env)
      (rules.operators.get? name) (rules'.operators.get? name)) →
    ∀ path, evaluate rules scope path e = evaluate rules' scope' path e := by
  induction e using Value.call_induction with
  | literal v hv =>
    intro _ path
    rw [evaluate_literal hv, evaluate_literal hv]
  | call items ih =>
    intro h path
    refine evaluate_array_congr hcasts hdepth
      (fun o o' (hagree : o.AgreeUnder scope scope' rules.env rules'.env o') => hagree.signature) ?_ ?_ ?_
    · rintro name arguments rfl
      exact h name (Value.calls_head name arguments)
    · intro argument ha
      cases items with
      | nil => cases ha
      | cons head arguments =>
        exact ih argument (List.mem_cons_of_mem head ha) fun name hname => h name (hname.of_mem ha)
    · intro o o' values hagree
      exact hagree.run values _ path

theorem literalIssues_congr (hcasts : rules.casts = rules'.casts) (call : Option (String × Signature)) (place : Path)
    (index : Nat) (argument : Value) :
    literalIssues rules call place index argument = literalIssues rules' call place index argument := by
  unfold literalIssues
  rw [hcasts]

theorem checkArguments_congr (hcasts : rules.casts = rules'.casts) {path : Path} {call : Option (String × Signature)} :
    ∀ {index : Nat} {arguments : List Value},
      (∀ argument ∈ arguments, ∀ path, check rules path argument = check rules' path argument) →
        checkArguments rules path call index arguments = checkArguments rules' path call index arguments
  | index, [], _ => rfl
  | index, first :: rest, h => by
    rw [checkArguments, checkArguments, literalIssues_congr hcasts, h first List.mem_cons_self,
      checkArguments_congr hcasts fun argument ha => h argument (List.mem_cons_of_mem first ha)]

theorem Rules.checked_congr (hdepth : rules.maxDepth = rules'.maxDepth) (path : Path) (items : List Value) :
    rules.checked path items = rules'.checked path items := by
  unfold checked
  rw [hdepth]

theorem Rules.callIssue?_congr (hdepth : rules.maxDepth = rules'.maxDepth) {path : Path} {items : List Value}
    (hname : ∀ name arguments, items = .string name :: arguments →
      (rules.operators.get? name).map Operator.signature = (rules'.operators.get? name).map Operator.signature) :
    rules.callIssue? path items = rules'.callIssue? path items := by
  unfold callIssue?
  rw [hdepth]
  split
  · rfl
  · split
    · rename_i name arguments
      rw [hname name arguments rfl]
    · rfl

theorem Rules.call?_congr {items : List Value}
    (hname : ∀ name arguments, items = .string name :: arguments →
      (rules.operators.get? name).map Operator.signature = (rules'.operators.get? name).map Operator.signature) :
    rules.call? items = rules'.call? items := by
  unfold call?
  split
  · rename_i name arguments
    rw [hname name arguments rfl]
  · rfl

/-- **A check depends on the signatures of the operators that the expression calls.** -/
theorem check_congr (hcasts : rules.casts = rules'.casts) (hdepth : rules.maxDepth = rules'.maxDepth) (e : Value) :
    (∀ name, e.Calls name →
      (rules.operators.get? name).map Operator.signature = (rules'.operators.get? name).map Operator.signature) →
    ∀ path, check rules path e = check rules' path e := by
  induction e using Value.call_induction with
  | literal v hv =>
    intro _ path
    rw [check_literal hv, check_literal hv]
  | call items ih =>
    intro h path
    have hname : ∀ name arguments, items = .string name :: arguments →
        (rules.operators.get? name).map Operator.signature = (rules'.operators.get? name).map Operator.signature := by
      rintro name arguments rfl
      exact h name (Value.calls_head name arguments)
    have harguments : ∀ argument ∈ rules'.checked path items, ∀ path,
        check rules path argument = check rules' path argument := by
      intro argument ha
      obtain ⟨i, hi⟩ := List.mem_iff_getElem?.mp ha
      obtain ⟨-, name, arguments, rfl, hargument⟩ := getElem?_checked.mp hi
      have hmem : argument ∈ arguments := List.mem_of_getElem? hargument
      exact ih argument (List.mem_cons_of_mem _ hmem) fun other hother => h other (hother.of_mem hmem)
    rw [check_array_eq, check_array_eq, Rules.callIssue?_congr hdepth hname, Rules.call?_congr hname,
      Rules.checked_congr hdepth, checkArguments_congr hcasts harguments]

end

theorem Value.calls_of_head? {e : Value} {name : String} (h : e.head? = some name) : e.Calls name := by
  unfold head? at h
  split at h
  · cases h
    exact calls_head _ _
  · cases h

/-- The same request with other positional arguments. -/
def Config.withArguments (config : Config) (positional : Option (List Value)) : Config :=
  { config with positionalArguments := positional }

namespace Dialect

variable {d d' : Dialect} {e : Value} {scope scope' : Scope} {config config' : Config}

theorem declared?_of_head? {name : String} (h : e.head? = some name) :
    d.declared? e = (d.operators.get? name).map fun o => o.signature.returns := by
  rw [Option.map_eq_bind, declared?, h]
  rfl

theorem declared?_congr {env env' : Env}
    (hagree : ∀ name, e.Calls name →
      Option.Rel (Operator.AgreeUnder scope scope' env env') (d.operators.get? name) (d'.operators.get? name)) :
    d.declared? e = d'.declared? e := by
  cases hhead : e.head? with
  | none =>
    unfold declared?
    rw [hhead]
    rfl
  | some name =>
    rw [declared?_of_head? hhead, declared?_of_head? hhead]
    have hname := hagree name (Value.calls_of_head? hhead)
    generalize d.operators.get? name = found at hname ⊢
    generalize d'.operators.get? name = found' at hname ⊢
    cases hname with
    | none => rfl
    | some ho => exact congrArg (fun s => some s.returns) ho.signature

/-- **The answer to a request depends on what the evaluation depends on**: of two requests that differ at most in their
positional arguments, to two dialects with the same casts and under two hosts, the answers are the same when the
operators that the expression calls agree. -/
theorem evaluate_congr {sources sources' : Sources} {node node' : Node} (hcasts : d.casts = d'.casts)
    (hconfig : config' = config.withArguments config'.positionalArguments)
    (hagree : ∀ name, e.Calls name →
      Option.Rel (Operator.AgreeUnder (config.scope sources node) (config'.scope sources' node')
        (d.rules config.depthLimit).env (d'.rules config'.depthLimit).env)
        (d.operators.get? name) (d'.operators.get? name)) :
    d.evaluate e sources node config = d'.evaluate e sources' node' config' := by
  obtain ⟨positional, rfl⟩ : ∃ positional, config' = config.withArguments positional := ⟨_, hconfig⟩
  have hroot : d.evaluateRoot e (config.scope sources node) config =
      d'.evaluateRoot e ((config.withArguments positional).scope sources' node') (config.withArguments positional) := by
    cases hitems : e.items? with
    | none =>
      rw [evaluateRoot_literal hitems, evaluateRoot_literal hitems]
      rfl
    | some items =>
      have hrules : (d.rules config.depthLimit).casts = (d'.rules config.depthLimit).casts := hcasts
      have hrun : FormLogic.evaluate (d.rules config.depthLimit) (config.scope sources node) [] e =
          FormLogic.evaluate (d'.rules config.depthLimit) ((config.withArguments positional).scope sources' node') []
            e :=
        FormLogic.evaluate_congr hrules rfl e hagree []
      have hfinish : ∀ value, d.finish e config value = d'.finish e (config.withArguments positional) value := by
        intro value
        unfold finish
        rw [declared?_congr hagree, hcasts]
        rfl
      cases Value.items?_eq_some.mp hitems
      rw [evaluateRoot_array, evaluateRoot_array, hrun]
      simp only [hfinish]
      rfl
  unfold Config.scope at hroot
  unfold evaluate
  rw [hroot]
  rfl

/-- **Locality.**  Two registries agree on every name but one, and an expression does not call that name.  The check
reports the same under both.  Where the operators that the expression does call overlook the name, every request gets
the same value or report, with the same warnings and the same calls, whatever the casts, the host and the
configuration. -/
theorem evaluate_local (casts : CastTable) {operators operators' : Registry} {name : String}
    (hagree : ∀ other, other ≠ name → operators.get? other = operators'.get? other) {e : Value} (he : ¬ e.Calls name) :
    (∀ maxDepth, (Dialect.mk operators casts).check e maxDepth = (Dialect.mk operators' casts).check e maxDepth) ∧
      ((∀ other o, e.Calls other → operators.get? other = some o → o.Overlooks name) →
        ∀ sources node config, (Dialect.mk operators casts).evaluate e sources node config =
          (Dialect.mk operators' casts).evaluate e sources node config) := by
  have hcalled : ∀ other, e.Calls other → operators.get? other = operators'.get? other := by
    intro other hother
    refine hagree other ?_
    rintro rfl
    exact he hother
  constructor
  · intro maxDepth
    have hcasts : ((Dialect.mk operators casts).rules maxDepth).casts =
        ((Dialect.mk operators' casts).rules maxDepth).casts := rfl
    exact check_congr hcasts rfl e
      (fun other hother => congrArg (Option.map Operator.signature) (hcalled other hother)) []
  · intro hoverlook sources node config
    refine evaluate_congr rfl rfl fun other hother => ?_
    show Option.Rel _ (operators.get? other) (operators'.get? other)
    rw [← hcalled other hother]
    cases hget : operators.get? other with
    | none => exact .none
    | some o =>
      have henv : ((Dialect.mk operators casts).rules config.depthLimit).env.AgreeBut name
          ((Dialect.mk operators' casts).rules config.depthLimit).env := Rules.agreeBut_env rfl rfl hagree
      exact .some ((hoverlook other o hother hget).agreeUnder henv _)

/-- The name of the operator that is replaced stands as a text in both branches, where it is not called; the condition
is an operator that looks at another name. -/
theorem evaluate_local_text :
    let operators : Registry := Table.insert Registry.standard "isKnown" (.isRegistered "not")
    let operators' : Registry := Table.insert operators "concat" Builtin.not.operator
    let e : Value := .array [.string "if", .array [.string "isKnown"], .array [.string "upperCase", .string "concat"],
      .string "else", .string "concat"]
    let config : Config := { returnType := some .string }
    (∀ other, other ≠ "concat" → operators.get? other = operators'.get? other) ∧ ¬ e.Calls "concat" ∧
      (∀ other o, e.Calls other → operators.get? other = some o → o.Overlooks "concat") ∧
      (Dialect.mk operators' .standard).check e 64 = [] ∧
      ((Dialect.mk operators' .standard).evaluate e .none .detached config).result = .ok (.string "CONCAT") := by
  intro operators operators' e config
  have hagree : ∀ other, other ≠ "concat" → operators.get? other = operators'.get? other := by
    intro other hother
    rw [show operators'.get? other = _ from Table.get?_insert .., if_neg hother]
  have he : ¬ e.Calls "concat" := by decide
  have hoverlook : ∀ other o, e.Calls other → operators.get? other = some o → o.Overlooks "concat" := by
    intro other o _ hget
    rw [show operators.get? other = _ from Table.get?_insert ..] at hget
    split at hget
    · cases hget
      exact Operator.isRegistered_overlooks (by decide)
    · exact Registry.standard_isCatalogued.overlooks hget "concat"
  obtain ⟨hcheck, hevaluate⟩ := evaluate_local .standard hagree he
  refine ⟨hagree, he, hoverlook, ?_, ?_⟩
  · rw [← hcheck]
    rfl
  · rw [← hevaluate hoverlook]
    rfl

/-- **An operator may see a name that it does not call**: with the one registry "not" is unknown, with the other one it
is not, and an expression that calls "isKnown" alone tells them apart. -/
theorem evaluate_isRegistered :
    let operators : Registry := Table.insert .empty "isKnown" (.isRegistered "not")
    let operators' : Registry := Table.insert operators "not" Builtin.not.operator
    let e : Value := .array [.string "isKnown"]
    (∀ other, other ≠ "not" → operators.get? other = operators'.get? other) ∧ ¬ e.Calls "not" ∧
      ((Dialect.mk operators .standard).evaluate e .none .detached {}).result = .ok (.bool false) ∧
      ((Dialect.mk operators' .standard).evaluate e .none .detached {}).result = .ok (.bool true) := by
  intro operators operators' e
  refine ⟨fun other hother => ?_, by decide, rfl, rfl⟩
  rw [show operators'.get? other = _ from Table.get?_insert .., if_neg hother]

end Dialect
end FormLogic
