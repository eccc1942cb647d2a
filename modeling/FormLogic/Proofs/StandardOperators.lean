import FormLogic.Proofs.Calls
import FormLogic.Proofs.Causes
import FormLogic.Proofs.StandardCasts
import Mathlib.Data.List.Nodup
/-!
# The standard operators

What is true of the standard operators one by one, apart from what they compute: which of them a name stands for, what
each looks at besides its arguments (`Builtin.run_of_not_mem_lookups`, `Builtin.run_of_ne_argv`,
`Builtin.run_detached`), and of which kind its results are before they are cast (`Builtin.run_givesKind`).
-/
namespace FormLogic

namespace Builtin

theorem nodup_names : (all.map name).Nodup := by decide +kernel

theorem name_injective : Function.Injective name := fun b b' h =>
  List.inj_on_of_nodup_map nodup_names (mem_all b) (mem_all b') h

end Builtin

/-- **A call that goes on to its arguments** under the standard operators is one of a standard operator. -/
theorem Rules.exists_builtin_of_enter {rules : Rules} (hops : rules.operators = .standard) {path : Path}
    {items : List Value} {entry : Entry} (h : rules.enter path items = .ok entry) :
    ∃ (b : Builtin) (arguments : List Value), entry = ⟨b.name, b.operator, arguments⟩ ∧
      items = .string b.name :: arguments := by
  obtain ⟨name, operator, arguments⟩ := entry
  obtain ⟨-, hitems, hget, -⟩ := Rules.enter_eq_ok.mp h
  rw [hops] at hget
  obtain ⟨b, rfl, rfl⟩ := Registry.exists_builtin_of_get? hget
  exact ⟨b, arguments, rfl, hitems⟩

namespace Builtin

/-- **The operators that look at the host.** -/
def lookups : List Builtin :=
  [.dataModel, .component, .value, .displayValue, .optionLabel, .attachmentCount, .instanceContext, .authContext,
   .frontendSettings, .language, .text, .formatNumber]

/-- **The other operators give the same under every host**, with the same positional arguments. -/
theorem run_of_not_mem_lookups {b : Builtin} (hb : b ∉ lookups) (args : List Value) {scope scope' : Scope}
    (hpositional : scope.positional = scope'.positional) : b.run args scope = b.run args scope' := by
  cases b with
  | argv =>
    show Lookup.argv args scope = Lookup.argv args scope'
    unfold Lookup.argv
    rw [hpositional]
  | dataModel | component | value | displayValue | optionLabel | attachmentCount | instanceContext | authContext
  | frontendSettings | language | text | formatNumber => exact absurd (by decide) hb
  | _ => rfl

/-- **Only one operator looks at the positional arguments.** -/
theorem run_of_ne_argv {b : Builtin} (hb : b ≠ .argv) (args : List Value) (sources : Sources) (node : Node)
    (positional positional' : List Value) :
    b.run args ⟨sources, node, positional⟩ = b.run args ⟨sources, node, positional'⟩ := by
  cases b with
  | argv => exact absurd rfl hb
  | _ => rfl

/-- **Without a node there are no components.** -/
theorem run_detached {b : Builtin} (hb : b ∈ componentLookups) (args : List Value) (sources : Sources)
    (positional : List Value) : ∃ cause, b.run args ⟨sources, .detached, positional⟩ = .error cause := by
  have hkey : ∀ (name : String) (next : String → Except Cause Value),
      (∀ id, ∃ cause, next id = .error cause) → ∃ cause, (Arguments.key args name >>= next) = .error cause := by
    intro name next hnext
    cases Arguments.key args name with
    | ok id => exact hnext id
    | error cause => exact ⟨cause, rfl⟩
  cases b with
  | component => exact hkey "component" _ fun id => ⟨_, rfl⟩
  | value => exact ⟨_, rfl⟩
  | displayValue => exact hkey "displayValue" _ fun id => ⟨_, rfl⟩
  | optionLabel => exact hkey "optionLabel" _ fun id => ⟨_, rfl⟩
  | attachmentCount => exact hkey "attachmentCount" _ fun id => ⟨_, rfl⟩
  | _ => exact absurd hb (by decide)

end Builtin

/-- A computation that gives, if anything, null or a value of one kind. -/
def GivesKind (kind : Kind) (result : Except Cause Value) : Prop := ∀ v, result = .ok v → v = .null ∨ v.HasKind kind

namespace GivesKind

variable {kind : Kind}

theorem ok {v : Value} (h : v = .null ∨ v.HasKind kind) : GivesKind kind (.ok v) := fun _ h' => by
  cases h'
  exact h

theorem null : GivesKind kind (.ok .null) := ok (.inl rfl)

theorem kinded {v : Value} (h : v.HasKind kind) : GivesKind kind (.ok v) := ok (.inr h)

theorem error (cause : Cause) : GivesKind kind (.error cause) := fun _ h => by cases h

theorem bind {α : Type} {x : Except Cause α} {f : α → Except Cause Value} (hf : ∀ a, GivesKind kind (f a)) :
    GivesKind kind (x >>= f) := by
  cases x with
  | ok a => exact hf a
  | error cause => exact error cause

end GivesKind

section
variable (args : List Value) (scope : Scope)

theorem Value.ofDouble_givesKind (x : Double) : GivesKind .number (.ok (.ofDouble x)) :=
  .ok (Value.ofDouble_fits x).kinded

namespace Arithmetic

theorem overAll_givesKind (operation : List Double → Double) : GivesKind .number (.ok (overAll operation args)) := by
  unfold overAll
  split
  · exact Value.ofDouble_givesKind _
  · exact .null

theorem subtract_givesKind : GivesKind .number (.ok (subtract args)) := by
  unfold subtract
  split
  · exact Value.ofDouble_givesKind _
  · exact .null

theorem divide_givesKind : GivesKind .number (divide args) := by
  unfold divide
  split
  · split
    · exact .error _
    · exact Value.ofDouble_givesKind _
  · exact .null

theorem round_givesKind : GivesKind .number (round args) := by
  unfold round
  split
  · exact .null
  · dsimp only
    split
    · exact .error _
    · exact Value.ofDouble_givesKind _

end Arithmetic

namespace Strings

theorem map_givesKind (f : String → String) : GivesKind .string (.ok (map f args)) := by
  unfold map
  split
  · exact .kinded rfl
  · exact .null

theorem indexOf_givesKind : GivesKind .number (.ok (indexOf args)) := by
  unfold indexOf
  split
  · split
    · exact .kinded rfl
    · exact .kinded rfl
  · exact .null

theorem stringSlice_givesKind : GivesKind .string (stringSlice args) := by
  unfold stringSlice
  split
  · exact .null
  · split
    · exact .kinded rfl
    · exact .error _

theorem stringReplace_givesKind : GivesKind .string (.ok (stringReplace args)) := by
  unfold stringReplace
  split
  · exact .null
  · exact .kinded rfl

end Strings

namespace Lookup

theorem displayValue_givesKind : GivesKind .string (displayValue args scope) := by
  refine .bind fun id => .bind fun found => ?_
  split
  · exact .null
  · exact .kinded rfl

theorem optionLabel_givesKind : GivesKind .string (optionLabel args scope) := by
  refine .bind fun id => .bind fun found => ?_
  split
  · split
    · exact .null
    · split
      · exact .kinded rfl
      · exact .null
  · exact .null

theorem attachmentCount_givesKind : GivesKind .number (attachmentCount args scope) :=
  .bind fun _ => .bind fun _ => .kinded rfl

theorem instanceContext_givesKind : GivesKind .string (instanceContext args scope) := by
  refine .bind fun key => ?_
  split
  · exact .null
  · split
    · exact .kinded rfl
    · exact .null
    · exact .error _

theorem authContext_givesKind : GivesKind .boolean (authContext args scope) := by
  refine .bind fun action => ?_
  split
  · exact .null
  · split
    · exact .kinded rfl
    · exact .error _

theorem text_givesKind : GivesKind .string (.ok (text args scope)) := by
  unfold text
  split
  · exact .kinded rfl
  · exact .null

theorem formatNumber_givesKind : GivesKind .string (.ok (formatNumber args scope)) := by
  unfold formatNumber
  split
  · exact .kinded rfl
  · exact .null

end Lookup

/-- **A standard operator gives what it declares** even before the cast of its result, unless it declares nothing in
particular. -/
theorem Builtin.run_givesKind {b : Builtin} (hb : b.signature.returns ≠ .any) :
    GivesKind b.signature.returns (b.run args scope) := by
  cases b with
  | add => exact Arithmetic.overAll_givesKind args Double.sum
  | multiply => exact Arithmetic.overAll_givesKind args Double.product
  | subtract => exact Arithmetic.subtract_givesKind args
  | divide => exact Arithmetic.divide_givesKind args
  | round => exact Arithmetic.round_givesKind args
  | lowerCase | upperCase | lowerCaseFirst | upperCaseFirst => exact Strings.map_givesKind args _
  | stringIndexOf => exact Strings.indexOf_givesKind args
  | stringSlice => exact Strings.stringSlice_givesKind args
  | stringReplace => exact Strings.stringReplace_givesKind args
  | displayValue => exact Lookup.displayValue_givesKind args scope
  | optionLabel => exact Lookup.optionLabel_givesKind args scope
  | attachmentCount => exact Lookup.attachmentCount_givesKind args scope
  | instanceContext => exact Lookup.instanceContext_givesKind args scope
  | authContext => exact Lookup.authContext_givesKind args scope
  | text => exact Lookup.text_givesKind args scope
  | formatNumber => exact Lookup.formatNumber_givesKind args scope
  | choose | argv | dataModel | component | value | frontendSettings => exact absurd rfl hb
  | _ => exact .kinded rfl

end

end FormLogic
