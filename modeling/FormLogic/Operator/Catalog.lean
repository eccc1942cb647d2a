import FormLogic.Operator.Arithmetic
import FormLogic.Operator.Comparison
import FormLogic.Operator.Lookup
import FormLogic.Operator.Presence
import FormLogic.Operator.Registry
import FormLogic.Operator.Strings
/-!
# The standard catalog

The 46 standard operators, as an enumeration with their names, signatures and implementations.  A standard
implementation sees its arguments and the host, and nothing of the frame it is called in: `Builtin.run` takes a scope,
and `Builtin.operator` makes an operator of it.
-/
namespace FormLogic

inductive Builtin where
  | equals
  | notEquals
  | lessThan
  | greaterThan
  | lessThanEq
  | greaterThanEq
  | and
  | or
  | not
  | choose
  | add
  | subtract
  | multiply
  | divide
  | round
  | concat
  | lowerCase
  | upperCase
  | lowerCaseFirst
  | upperCaseFirst
  | length
  | contains
  | notContains
  | startsWith
  | endsWith
  | commaContains
  | stringIndexOf
  | stringSlice
  | stringReplace
  | count
  | isEmpty
  | isNumber
  | isString
  | argv
  | dataModel
  | component
  | value
  | displayValue
  | optionLabel
  | attachmentCount
  | instanceContext
  | authContext
  | frontendSettings
  | language
  | text
  | formatNumber
  deriving DecidableEq

namespace Builtin

def all : List Builtin :=
  [.equals, .notEquals, .lessThan, .greaterThan, .lessThanEq, .greaterThanEq, .and, .or, .not, .choose, .add,
   .subtract, .multiply, .divide, .round, .concat, .lowerCase, .upperCase, .lowerCaseFirst, .upperCaseFirst,
   .length, .contains, .notContains, .startsWith, .endsWith, .commaContains, .stringIndexOf, .stringSlice,
   .stringReplace, .count, .isEmpty, .isNumber, .isString, .argv, .dataModel, .component, .value, .displayValue,
   .optionLabel, .attachmentCount, .instanceContext, .authContext, .frontendSettings, .language, .text,
   .formatNumber]

theorem mem_all (b : Builtin) : b ∈ all := by cases b <;> decide

/-- The name that expressions call an operator by. -/
def name : Builtin → String
  | .equals => "equals"
  | .notEquals => "notEquals"
  | .lessThan => "lessThan"
  | .greaterThan => "greaterThan"
  | .lessThanEq => "lessThanEq"
  | .greaterThanEq => "greaterThanEq"
  | .and => "and"
  | .or => "or"
  | .not => "not"
  | .choose => "if"
  | .add => "add"
  | .subtract => "subtract"
  | .multiply => "multiply"
  | .divide => "divide"
  | .round => "round"
  | .concat => "concat"
  | .lowerCase => "lowerCase"
  | .upperCase => "upperCase"
  | .lowerCaseFirst => "lowerCaseFirst"
  | .upperCaseFirst => "upperCaseFirst"
  | .length => "length"
  | .contains => "contains"
  | .notContains => "notContains"
  | .startsWith => "startsWith"
  | .endsWith => "endsWith"
  | .commaContains => "commaContains"
  | .stringIndexOf => "stringIndexOf"
  | .stringSlice => "stringSlice"
  | .stringReplace => "stringReplace"
  | .count => "count"
  | .isEmpty => "isEmpty"
  | .isNumber => "isNumber"
  | .isString => "isString"
  | .argv => "argv"
  | .dataModel => "dataModel"
  | .component => "component"
  | .value => "value"
  | .displayValue => "displayValue"
  | .optionLabel => "optionLabel"
  | .attachmentCount => "attachmentCount"
  | .instanceContext => "instanceContext"
  | .authContext => "authContext"
  | .frontendSettings => "frontendSettings"
  | .language => "language"
  | .text => "text"
  | .formatNumber => "formatNumber"

def ofName? (s : String) : Option Builtin := all.find? (·.name = s)

open Signature in
def signature : Builtin → Signature
  | .equals => fixed [.string, .string] .boolean
  | .notEquals => fixed [.string, .string] .boolean
  | .lessThan => fixed [.number, .number] .boolean
  | .greaterThan => fixed [.number, .number] .boolean
  | .lessThanEq => fixed [.number, .number] .boolean
  | .greaterThanEq => fixed [.number, .number] .boolean
  | .and => (fixed [.boolean] .boolean).spreading
  | .or => (fixed [.boolean] .boolean).spreading
  | .not => fixed [.boolean] .boolean
  | .choose => (fixed [.boolean, .any, .string, .any] .any).withLeast 2
  | .add => (fixed [.number, .number] .number).spreading
  | .subtract => fixed [.number, .number] .number
  | .multiply => (fixed [.number, .number] .number).spreading
  | .divide => fixed [.number, .number] .number
  | .round => (fixed [.number, .number] .number).withLeast 1
  | .concat => (fixed [.string] .string).spreading.withLeast 0
  | .lowerCase => fixed [.string] .string
  | .upperCase => fixed [.string] .string
  | .lowerCaseFirst => fixed [.string] .string
  | .upperCaseFirst => fixed [.string] .string
  | .length => fixed [.string] .number
  | .contains => fixed [.string, .string] .boolean
  | .notContains => fixed [.string, .string] .boolean
  | .startsWith => fixed [.string, .string] .boolean
  | .endsWith => fixed [.string, .string] .boolean
  | .commaContains => fixed [.string, .string] .boolean
  | .stringIndexOf => fixed [.string, .string] .number
  | .stringSlice => (fixed [.string, .number, .number] .string).withLeast 2
  | .stringReplace => fixed [.string, .string, .string] .string
  | .count => (fixed [.any] .number).spreading.withLeast 0
  | .isEmpty => fixed [.any] .boolean
  | .isNumber => fixed [.any] .boolean
  | .isString => fixed [.any] .boolean
  | .argv => fixed [.number] .any
  | .dataModel => fixed [.string] .any
  | .component => fixed [.string] .any
  | .value => fixed [] .any
  | .displayValue => fixed [.string] .string
  | .optionLabel => fixed [.string, .any] .string
  | .attachmentCount => fixed [.string] .number
  | .instanceContext => fixed [.string] .string
  | .authContext => fixed [.string] .boolean
  | .frontendSettings => fixed [.string] .any
  | .language => fixed [] .string
  | .text => fixed [.string] .string
  | .formatNumber => fixed [.number] .string

/-- **What a standard operator computes.** -/
def run (operator : Builtin) (args : List Value) (scope : Scope) : Except Cause Value :=
  match operator with
  | .equals => .ok (.bool (Comparison.equal args))
  | .notEquals => .ok (.bool (!Comparison.equal args))
  | .lessThan => .ok (.bool (Comparison.compare Double.lt args))
  | .greaterThan => .ok (.bool (Comparison.compare (fun x y => y.lt x) args))
  | .lessThanEq => .ok (.bool (Comparison.compare Double.le args))
  | .greaterThanEq => .ok (.bool (Comparison.compare (fun x y => y.le x) args))
  | .and => .ok (.bool (Logic.all args))
  | .or => .ok (.bool (Logic.any args))
  | .not => .ok (.bool (Logic.not args))
  | .choose => Logic.choose args
  | .add => .ok (Arithmetic.add args)
  | .subtract => .ok (Arithmetic.subtract args)
  | .multiply => .ok (Arithmetic.multiply args)
  | .divide => Arithmetic.divide args
  | .round => Arithmetic.round args
  | .concat => .ok (Strings.concat args)
  | .lowerCase => .ok (Strings.map Text.lower args)
  | .upperCase => .ok (Strings.map Text.upper args)
  | .lowerCaseFirst => .ok (Strings.map (Text.mapFirst Text.lowerChar) args)
  | .upperCaseFirst => .ok (Strings.map (Text.mapFirst Text.upperChar) args)
  | .length => .ok (Strings.length args)
  | .contains => .ok (.bool (Strings.contains args))
  | .notContains => .ok (.bool (!Strings.contains args))
  | .startsWith => .ok (.bool (Strings.startsWith args))
  | .endsWith => .ok (.bool (Strings.endsWith args))
  | .commaContains => .ok (.bool (Strings.commaContains args))
  | .stringIndexOf => .ok (Strings.indexOf args)
  | .stringSlice => Strings.stringSlice args
  | .stringReplace => .ok (Strings.stringReplace args)
  | .count => .ok (Presence.count args)
  | .isEmpty => .ok (.bool (Presence.isEmpty args))
  | .isNumber => .ok (.bool (Presence.isNumber args))
  | .isString => .ok (.bool (Presence.isString args))
  | .argv => Lookup.argv args scope
  | .dataModel => Lookup.dataModel args scope
  | .component => Lookup.componentValue args scope
  | .value => Lookup.ownValue scope
  | .displayValue => Lookup.displayValue args scope
  | .optionLabel => Lookup.optionLabel args scope
  | .attachmentCount => Lookup.attachmentCount args scope
  | .instanceContext => Lookup.instanceContext args scope
  | .authContext => Lookup.authContext args scope
  | .frontendSettings => Lookup.frontendSettings args scope
  | .language => .ok (.string scope.sources.language)
  | .text => .ok (Lookup.text args scope)
  | .formatNumber => .ok (Lookup.formatNumber args scope)

/-- The operator, which looks at nothing of its frame but the scope. -/
def operator (b : Builtin) : Operator := ⟨b.signature, fun args frame => b.run args frame.scope⟩

end Builtin

def Registry.standard : Registry := Table.ofList (Builtin.all.map fun b => (b.name, b.operator))

end FormLogic
