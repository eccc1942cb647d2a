import FormLogic.Expression.Failure
import FormLogic.Value.NumberText
/-!
# Casts

Values move between positions of different kinds through a table with at most one rule for each target kind.  A rule
says whether null passes, which kinds it takes, and how it coerces a value of such a kind.  The standard table takes
all kinds everywhere; what it cannot do it refuses, and it never guesses: a string is a number only in the one plain
form of `NumberText`.
-/
namespace FormLogic

structure CastRule where
  nullable : Bool
  accepts : List Kind
  coerce : Value → Option Value

structure CastTable where
  rule? : Kind → Option CastRule

namespace CastTable

def empty : CastTable := ⟨fun _ => none⟩

def insert (t : CastTable) (kind : Kind) (rule : CastRule) : CastTable :=
  ⟨fun k => if k = kind then some rule else t.rule? k⟩

def erase (t : CastTable) (kind : Kind) : CastTable := ⟨fun k => if k = kind then none else t.rule? k⟩

/-- **Casts a value.**  A nullable rule lets null through; a value of a kind that the rule takes is coerced; any other
value is of the wrong kind. -/
def cast (t : CastTable) (v : Value) (target : Kind) : Except Cause Value :=
  match t.rule? target with
  | none => .error (.unknownTarget target)
  | some rule =>
    if v.isNull && rule.nullable then .ok .null
    else match v.kind? with
      | some kind =>
        if kind ∈ rule.accepts then
          match rule.coerce v with
          | some w => .ok w
          | none => .error (.unexpectedValue target v)
        else .error (.unknownSource v.typeName target)
      | none => .error (.unknownSource v.typeName target)

end CastTable

namespace Coercion

/-- The boolean that a number is: one or zero. -/
def booleanOfNumber (n : Double) : Option Value :=
  if n.same (.ofInt 1) then some (.bool true)
  else if n.same (.ofInt 0) then some (.bool false)
  else none

/-- **To a boolean**: the words for it in any case, and the numbers one and zero, also as text. -/
def toBoolean : Value → Option Value
  | .bool b => some (.bool b)
  | .string s =>
    if Text.sameIgnoringCase s "true" then some (.bool true)
    else if Text.sameIgnoringCase s "false" then some (.bool false)
    else do booleanOfNumber (← (← Value.ofNumberText? s).double?)
  | .number n => booleanOfNumber n.toDouble
  | _ => none

/-- **To a string**: the three words are brought to their form, which for `null` is null itself. -/
def toText : Value → Option Value
  | .string s =>
    if Text.sameIgnoringCase s "null" then some .null
    else if Text.sameIgnoringCase s "true" then some (.string "true")
    else if Text.sameIgnoringCase s "false" then some (.string "false")
    else some (.string s)
  | .bool b => some (.string (if b then "true" else "false"))
  | .number n => some (.string n.text)
  | _ => none

/-- **To a number**: numbers, and strings of the plain form. -/
def toNumber : Value → Option Value
  | .number n => some (.number n)
  | .string s => Value.ofNumberText? s
  | _ => none

/-- **The standard coercion to a kind.**  To `any`, a value stays as it is. -/
def standard : Kind → Value → Option Value
  | .boolean => toBoolean
  | .string => toText
  | .number => toNumber
  | .any => some

end Coercion

/-- **The standard casts**: null and all kinds are taken everywhere. -/
def CastTable.standard : CastTable := ⟨fun kind => some ⟨true, Kind.all, Coercion.standard kind⟩⟩

end FormLogic
