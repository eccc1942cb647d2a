import FormLogic.Expression.Dialect
import FormLogic.Wire.Field
/-!
# Requests as documents

Configurations, nodes and issues as objects.  The members are written in the order of their keys, all of them, with
null for what is not set.  Only the default value makes a difference between null and absent.
-/
namespace FormLogic

def Kind.ofValue? (v : Value) : Option Kind := (Wire.caseName? v).bind Kind.ofName?

def Kind.toValue (k : Kind) : Value := .string k.name

namespace Config

def depth? (v : Value) : Option UInt64 := (Wire.word? v).map UInt64.ofNat

def ofValue? (v : Value) : Option Config := do
  let members ← v.members?
  return { defaultValue := findEntry "defaultValue" members
           returnType := ← Wire.optional Kind.ofValue? members "returnType"
           errorIntroduction := ← Wire.optional Value.string? members "errorIntroText"
           positionalArguments := ← Wire.optional Value.items? members "positionalArguments"
           maxDepth := ← Wire.optional depth? members "maxDepth" }

/-- **Writes a configuration.**  A default value that is not set is written as null, and so read back as the default
null. -/
def toValue (c : Config) : Value :=
  .object [
    ("defaultValue", c.defaultValue.getD .null),
    ("errorIntroText", Wire.orNull .string c.errorIntroduction),
    ("maxDepth", Wire.orNull (fun limit => .ofNat limit.toNat) c.maxDepth),
    ("positionalArguments", Wire.orNull .array c.positionalArguments),
    ("returnType", Wire.orNull Kind.toValue c.returnType)]

end Config

namespace Node

/-- **Reads a node**: its type, and for a component or a page the id. -/
def ofValue? (v : Value) : Option Node := do
  let members ← v.members?
  match ← Wire.required Wire.caseName? members "type" with
  | "component" => (Wire.required Value.string? members "id").map .component
  | "page" => (Wire.required Value.string? members "id").map .page
  | "detached" =>
    match findEntry "id" members with
    | none | some .null => some .detached
    | some _ => none
  | _ => none

def toValue : Node → Value
  | .component id => .object [("id", .string id), ("type", .string "component")]
  | .page id => .object [("id", .string id), ("type", .string "page")]
  | .detached => .object [("type", .string "detached")]

end Node

namespace Issue

def ofValue? (v : Value) : Option Issue := do
  let members ← v.members?
  return { code := ← Wire.required Value.string? members "code"
           message := ← Wire.required Value.string? members "message"
           path := ← Wire.required (Wire.list? Wire.word?) members "path"
           operator := ← Wire.optional Value.string? members "operator" }

def toValue (issue : Issue) : Value :=
  .object [
    ("code", .string issue.code),
    ("message", .string issue.message),
    ("operator", Wire.orNull .string issue.operator),
    ("path", Wire.ofList .ofNat issue.path)]

end Issue
end FormLogic
