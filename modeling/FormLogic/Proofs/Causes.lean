import FormLogic.Cast
import FormLogic.Operator.Catalog
/-!
# Who gives which cause

The standard operators and the casts fail for reasons of their own (`Cause.OfOperator`, `Cause.OfCast`), and each
operator for its own alone (`Cause.OwnedBy`).  The causes that the static check foretells at a call, an unknown
operator, a wrong number of arguments and too deep nesting, are none of these: only the evaluation itself gives them.
-/
namespace FormLogic

/-- **The operators that look for a component.** -/
def Builtin.componentLookups : List Builtin := [.component, .value, .displayValue, .optionLabel, .attachmentCount]

namespace Cause

/-- **The causes that the standard operators give.** -/
def OfOperator : Cause → Prop
  | .divisionByZero | .componentNotFound _ | .invalidArgument _ _ | .positionalArgument _ _ => True
  | _ => False

/-- **The causes that casts give.** -/
def OfCast : Cause → Prop
  | .unknownTarget _ | .unknownSource _ _ | .unexpectedValue _ _ => True
  | _ => False

/-- **The causes of a call that does not get as far as its arguments.** -/
def OfTests : Cause → Prop
  | .unknownOperator _ | .argumentCount _ _ _ _ | .depthExceeded _ => True
  | _ => False

/-- **The causes that one standard operator gives**: an argument that it does not take it reports under its own name,
and each of the other causes belongs to few operators. -/
def OwnedBy (b : Builtin) : Cause → Prop
  | .divisionByZero => b = .divide
  | .componentNotFound _ => b ∈ Builtin.componentLookups
  | .invalidArgument operator _ => operator = b.name
  | .positionalArgument index available => b = .argv ∧ available ≤ index
  | _ => False

theorem OwnedBy.ofOperator {b : Builtin} {cause : Cause} (h : cause.OwnedBy b) : cause.OfOperator := by
  cases cause <;> trivial

end Cause

/-- A computation that fails, if at all, with causes of one sort. -/
def FailsOnly {α : Type} (P : Cause → Prop) (result : Except Cause α) : Prop :=
  ∀ cause, result = .error cause → P cause

namespace FailsOnly

variable {α β : Type} {P : Cause → Prop}

theorem ok (a : α) : FailsOnly P (.ok a) := fun _ h => by cases h

theorem error {cause : Cause} (h : P cause) : FailsOnly P (.error cause : Except Cause α) := fun _ h' => by
  cases h'
  exact h

theorem mono {Q : Cause → Prop} {x : Except Cause α} (hx : FailsOnly P x) (h : ∀ cause, P cause → Q cause) :
    FailsOnly Q x := fun cause hcause => h cause (hx cause hcause)

theorem bind {x : Except Cause α} {f : α → Except Cause β} (hx : FailsOnly P x) (hf : ∀ a, FailsOnly P (f a)) :
    FailsOnly P (x >>= f) := by
  cases x with
  | ok a => exact hf a
  | error cause => exact error (hx cause rfl)

end FailsOnly

theorem CastTable.cast_failsOnly (t : CastTable) (v : Value) (target : Kind) :
    FailsOnly Cause.OfCast (t.cast v target) := by
  unfold CastTable.cast
  split
  · exact .error trivial
  · split
    · exact .ok _
    · split
      · split
        · split
          · exact .ok _
          · exact .error trivial
        · exact .error trivial
      · exact .error trivial

theorem Signature.kindAt_eq_error {s : Signature} {name : String} {index : Nat} {cause : Cause}
    (h : s.kindAt name index = .error cause) : cause = .undeclaredArgument name index := by
  unfold kindAt at h
  split at h
  · cases h
  · split at h
    · split at h
      · cases h
      · cases h; rfl
    · cases h; rfl

/-- **An argument that has its value fails only for its position and its cast.** -/
theorem Signature.argument_failsOnly (s : Signature) (name : String) (index : Nat) (casts : CastTable) (v : Value) :
    FailsOnly (fun cause => cause = .undeclaredArgument name index ∨ cause.OfCast)
      (s.kindAt name index >>= fun kind => casts.cast v kind) :=
  .bind (fun _ hcause => .inl (kindAt_eq_error hcause)) fun kind cause hcause =>
    .inr (casts.cast_failsOnly v kind cause hcause)

section
variable (args : List Value) (scope : Scope)

theorem Arguments.key_failsOnly (b : Builtin) : FailsOnly (Cause.OwnedBy b) (Arguments.key args b.name) := by
  unfold Arguments.key
  split
  · exact .ok _
  · exact .error rfl

theorem Logic.choose_failsOnly : FailsOnly (Cause.OwnedBy .choose) (Logic.choose args) := by
  unfold Logic.choose
  split
  · exact .ok _
  · exact .ok _
  · exact .error rfl

theorem Arithmetic.divide_failsOnly : FailsOnly (Cause.OwnedBy .divide) (Arithmetic.divide args) := by
  unfold Arithmetic.divide
  split
  · split
    · exact .error rfl
    · exact .ok _
  · exact .ok _

theorem Arithmetic.round_failsOnly : FailsOnly (Cause.OwnedBy .round) (Arithmetic.round args) := by
  unfold Arithmetic.round
  split
  · exact .ok _
  · dsimp only
    split
    · exact .error rfl
    · exact .ok _

theorem Strings.stringSlice_failsOnly : FailsOnly (Cause.OwnedBy .stringSlice) (Strings.stringSlice args) := by
  unfold Strings.stringSlice
  split
  · exact .ok _
  · split
    · exact .ok _
    · exact .error rfl

namespace Lookup

theorem argv_failsOnly : FailsOnly (Cause.OwnedBy .argv) (argv args scope) := by
  unfold argv
  dsimp only
  split
  · exact .error rfl
  · split
    · exact .error rfl
    · split
      · exact .ok _
      · rename_i hnone
        exact .error ⟨rfl, List.getElem?_eq_none_iff.mp hnone⟩

theorem component_failsOnly {b : Builtin} (hb : b ∈ Builtin.componentLookups) (id : String) :
    FailsOnly (Cause.OwnedBy b) (component scope id) := by
  unfold component
  split
  · exact .error hb
  · split
    · exact .ok _
    · exact .error hb

theorem dataModel_failsOnly : FailsOnly (Cause.OwnedBy .dataModel) (dataModel args scope) :=
  .bind (Arguments.key_failsOnly args .dataModel) fun _ => .ok _

theorem componentValue_failsOnly : FailsOnly (Cause.OwnedBy .component) (componentValue args scope) :=
  .bind (Arguments.key_failsOnly args .component) fun id =>
    .bind (component_failsOnly scope (by decide) id) fun _ => .ok _

theorem ownValue_failsOnly : FailsOnly (Cause.OwnedBy .value) (ownValue scope) := by
  have hvalue : Builtin.value ∈ Builtin.componentLookups := by decide
  unfold ownValue
  split
  · exact .error hvalue
  · exact .bind (component_failsOnly scope hvalue _) fun _ => .ok _

theorem displayValue_failsOnly : FailsOnly (Cause.OwnedBy .displayValue) (displayValue args scope) := by
  refine .bind (Arguments.key_failsOnly args .displayValue) fun id =>
    .bind (component_failsOnly scope (by decide) id) fun found => ?_
  split <;> exact .ok _

theorem optionLabel_failsOnly : FailsOnly (Cause.OwnedBy .optionLabel) (optionLabel args scope) := by
  refine .bind (Arguments.key_failsOnly args .optionLabel) fun id =>
    .bind (component_failsOnly scope (by decide) id) fun found => ?_
  split
  · split
    · exact .ok _
    · split <;> exact .ok _
  · exact .ok _

theorem attachmentCount_failsOnly : FailsOnly (Cause.OwnedBy .attachmentCount) (attachmentCount args scope) :=
  .bind (Arguments.key_failsOnly args .attachmentCount) fun id =>
    .bind (component_failsOnly scope (by decide) id) fun _ => .ok _

theorem instanceContext_failsOnly : FailsOnly (Cause.OwnedBy .instanceContext) (instanceContext args scope) := by
  refine .bind (Arguments.key_failsOnly args .instanceContext) fun key => ?_
  split
  · exact .ok _
  · split
    · exact .ok _
    · exact .ok _
    · exact .error rfl

theorem authContext_failsOnly : FailsOnly (Cause.OwnedBy .authContext) (authContext args scope) := by
  refine .bind (Arguments.key_failsOnly args .authContext) fun action => ?_
  split
  · exact .ok _
  · split
    · exact .ok _
    · exact .error rfl

theorem frontendSettings_failsOnly : FailsOnly (Cause.OwnedBy .frontendSettings) (frontendSettings args scope) :=
  .bind (Arguments.key_failsOnly args .frontendSettings) fun _ => .ok _

end Lookup

/-- **A standard operator fails only with its own causes.** -/
theorem Builtin.run_failsOnly (b : Builtin) : FailsOnly (Cause.OwnedBy b) (b.run args scope) := by
  cases b with
  | choose => exact Logic.choose_failsOnly args
  | divide => exact Arithmetic.divide_failsOnly args
  | round => exact Arithmetic.round_failsOnly args
  | stringSlice => exact Strings.stringSlice_failsOnly args
  | argv => exact Lookup.argv_failsOnly args scope
  | dataModel => exact Lookup.dataModel_failsOnly args scope
  | component => exact Lookup.componentValue_failsOnly args scope
  | value => exact Lookup.ownValue_failsOnly scope
  | displayValue => exact Lookup.displayValue_failsOnly args scope
  | optionLabel => exact Lookup.optionLabel_failsOnly args scope
  | attachmentCount => exact Lookup.attachmentCount_failsOnly args scope
  | instanceContext => exact Lookup.instanceContext_failsOnly args scope
  | authContext => exact Lookup.authContext_failsOnly args scope
  | frontendSettings => exact Lookup.frontendSettings_failsOnly args scope
  | _ => exact .ok _

end

/-- **The registries of the standard implementations**, under any names and any signatures. -/
def Registry.IsCatalogued (operators : Registry) : Prop :=
  ∀ name operator, operators.get? name = some operator → ∃ b : Builtin, operator.run = b.operator.run

theorem Registry.IsCatalogued.run_failsOnly {operators : Registry} (h : operators.IsCatalogued) {name : String}
    {operator : Operator} (hget : operators.get? name = some operator) (args : List Value) (frame : Frame) :
    FailsOnly Cause.OfOperator (operator.run args frame) := by
  obtain ⟨b, hb⟩ := h name operator hget
  rw [hb]
  exact (b.run_failsOnly args frame.scope).mono fun _ h => h.ofOperator

/-- **A call whose arguments are there fails only with causes of operators and of casts.** -/
theorem Registry.IsCatalogued.result_failsOnly {operators : Registry} (h : operators.IsCatalogued) {name : String}
    {operator : Operator} (hget : operators.get? name = some operator) (casts : CastTable) (args : List Value)
    (frame : Frame) :
    FailsOnly (fun cause => cause.OfOperator ∨ cause.OfCast)
      (operator.run args frame >>= fun raw => casts.cast raw operator.signature.returns) :=
  .bind (fun cause hcause => .inl (h.run_failsOnly hget args frame cause hcause)) fun raw cause hcause =>
    .inr (casts.cast_failsOnly raw _ cause hcause)

/-- **A standard implementation looks at the scope of its frame only**, not at the call or its place. -/
theorem Registry.IsCatalogued.run_congr {operators : Registry} (h : operators.IsCatalogued) {name : String}
    {operator : Operator} (hget : operators.get? name = some operator) (args : List Value) {frame frame' : Frame}
    (hscope : frame.scope = frame'.scope) : operator.run args frame = operator.run args frame' := by
  obtain ⟨b, hb⟩ := h name operator hget
  rw [hb]
  show b.run args frame.scope = b.run args frame'.scope
  rw [hscope]

/-- **What the standard registry holds** is the standard operators, under their names. -/
theorem Registry.exists_builtin_of_get? {name : String} {operator : Operator}
    (h : Registry.standard.get? name = some operator) : ∃ b : Builtin, b.name = name ∧ b.operator = operator := by
  obtain ⟨b, -, hb⟩ := List.mem_map.mp (Table.mem_of_get?_ofList h)
  exact ⟨b, congrArg Prod.fst hb, congrArg Prod.snd hb⟩

theorem Registry.standard_isCatalogued : Registry.standard.IsCatalogued := by
  intro name operator h
  obtain ⟨b, -, rfl⟩ := Registry.exists_builtin_of_get? h
  exact ⟨b, rfl⟩

end FormLogic
