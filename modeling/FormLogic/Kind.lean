import FormLogic.Text.Case
import FormLogic.Value.Basic
/-!
# Kinds

Every parameter and every result of an operator is declared to be of one of four kinds.  Null is of no kind and fits
everywhere; arrays and objects are of no kind and fit nowhere.
-/
namespace FormLogic

inductive Kind where
  | boolean
  | string
  | number
  | any
  deriving DecidableEq, Repr

namespace Kind

def all : List Kind := [.boolean, .string, .number, .any]

def name : Kind → String
  | .boolean => "boolean"
  | .string => "string"
  | .number => "number"
  | .any => "any"

def ofName? (s : String) : Option Kind := all.find? (·.name = s)

/-- **The kind of a given name, in any case.** -/
def parse? (s : String) : Option Kind := all.find? fun k => Text.sameIgnoringCase k.name s

end Kind

namespace Value

/-- The kind a value is detected to be of, if it is of one. -/
def kind? : Value → Option Kind
  | .bool _ => some .boolean
  | .number _ => some .number
  | .string _ => some .string
  | .null | .array _ | .object _ => none

def typeName : Value → String
  | .null => "null"
  | .bool _ => "boolean"
  | .number _ => "number"
  | .string _ => "string"
  | .array _ => "array"
  | .object _ => "object"

/-- **What a kind allows**: the values of the kind itself, or any scalar. -/
def HasKind (v : Value) : Kind → Prop
  | .any => v.kind?.isSome = true
  | k => v.kind? = some k

instance (v : Value) : (k : Kind) → Decidable (v.HasKind k)
  | .any => inferInstanceAs (Decidable (_ = _))
  | .boolean | .string | .number => inferInstanceAs (Decidable (_ = _))

end Value
end FormLogic
