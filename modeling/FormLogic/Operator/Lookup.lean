import FormLogic.Host.Sources
import FormLogic.Operator.Arguments
import FormLogic.Value.Printer
/-!
# Lookups

Operators that read what the host provides.  A component is found only from a node of the form; its value is the data
it is bound to, and null while it is hidden.  Shown values and option labels rest on one comparison: two values name the
same choice when their plain texts agree.
-/
namespace FormLogic
namespace Lookup

/-- The component of an id, as seen from the node that owns the expression. -/
def component (scope : Scope) (id : String) : Except Cause Component :=
  if scope.node = .detached then .error (.componentNotFound id)
  else match scope.sources.component id scope.node with
    | some found => .ok found
    | none => .error (.componentNotFound id)

/-- **The data a component is bound to**; null while it is hidden, unbound or without data. -/
def boundValue (sources : Sources) (c : Component) : Value :=
  if c.hidden then .null else (c.binding.bind sources.formData).getD .null

/-- **The plain text of a value**, by which choices are found; null has none. -/
def plainText : Value → Option String
  | .null => none
  | .string s => some s
  | .number n => some n.text
  | v => some v.compact

def translate (sources : Sources) (key : String) : String := (sources.text key).getD key

/-- The label of the first choice with a given plain text. -/
def label? (sources : Sources) (list : ChoiceList) (wanted : String) : Option String :=
  (list.choices.find? fun choice => plainText choice.value = some wanted).map fun choice =>
    translate sources choice.label

def dataModel (args : List Value) (scope : Scope) : Except Cause Value := do
  let path ← Arguments.key args "dataModel"
  return (scope.sources.formData path).getD .null

def componentValue (args : List Value) (scope : Scope) : Except Cause Value := do
  let id ← Arguments.key args "component"
  return boundValue scope.sources (← component scope id)

/-- **The value of the component that owns the expression.** -/
def ownValue (scope : Scope) : Except Cause Value :=
  match scope.node.componentId? with
  | none => .error (.componentNotFound "<current component>")
  | some id => do return boundValue scope.sources (← component scope id)

/-- **The value of a component as the user sees it**: the label of the choice it is, or else its plain text. -/
def displayValue (args : List Value) (scope : Scope) : Except Cause Value := do
  let id ← Arguments.key args "displayValue"
  let found ← component scope id
  match plainText (boundValue scope.sources found) with
  | none => return .null
  | some text =>
    let label := (scope.sources.choiceList found.id).bind (label? scope.sources · text)
    return .string (label.getD text)

/-- **The label of a choice of a component**; null while the list is on its way. -/
def optionLabel (args : List Value) (scope : Scope) : Except Cause Value := do
  let id ← Arguments.key args "optionLabel"
  let found ← component scope id
  match plainText (Arguments.value args 1), scope.sources.choiceList found.id with
  | some wanted, some list =>
    if list.fetching then return .null
    else match label? scope.sources list wanted with
      | some label => return .string label
      | none => return .null
  | _, _ => return .null

def attachmentCount (args : List Value) (scope : Scope) : Except Cause Value := do
  let id ← Arguments.key args "attachmentCount"
  let found ← component scope id
  return .ofNat (scope.sources.attachments found.id).length

def instanceContext (args : List Value) (scope : Scope) : Except Cause Value := do
  let key ← Arguments.key args "instanceContext"
  match scope.sources.processInstance with
  | none => return .null
  | some instance' =>
    match instance'.field? key with
    | some (some text) => return .string text
    | some none => return .null
    | none => throw (.invalidArgument "instanceContext" ("unknown key '" ++ key ++ "'"))

/-- **Whether the user may do something.** -/
def authContext (args : List Value) (scope : Scope) : Except Cause Value := do
  let action ← Arguments.key args "authContext"
  match scope.sources.permissions with
  | none => return .null
  | some permissions =>
    match permissions.allows? action with
    | some allowed => return .bool allowed
    | none => throw (.invalidArgument "authContext" ("unknown action '" ++ action ++ "'"))

def frontendSettings (args : List Value) (scope : Scope) : Except Cause Value := do
  let key ← Arguments.key args "frontendSettings"
  return (scope.sources.setting key).getD .null

def text (args : List Value) (scope : Scope) : Value :=
  match Arguments.text? args 0 with
  | some key => .string (translate scope.sources key)
  | none => .null

/-- **A number as the host writes it**, or else its plain text. -/
def formatNumber (args : List Value) (scope : Scope) : Value :=
  match Arguments.number? args 0 with
  | some x => .string ((scope.sources.formatNumber x).getD (Layout.plain.writeDouble x))
  | none => .null

/-- **A positional argument of the evaluation**, by its index.  An index beyond the 64-bit range counts as the greatest
of that range. -/
def argv (args : List Value) (scope : Scope) : Except Cause Value :=
  let invalid := Cause.invalidArgument "argv" "index must be a non-negative whole number"
  match (Arguments.number? args 0).bind Double.toInt? with
  | none => .error invalid
  | some i =>
    if i < 0 then .error invalid
    else
      let index := min i.toNat (Nat.pow 2 64 - 1)
      match scope.positional[index]? with
      | some v => .ok v
      | none => .error (.positionalArgument index scope.positional.length)

end Lookup
end FormLogic
