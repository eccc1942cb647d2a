import FormLogic.Text.Digits
import FormLogic.Text.Search
import FormLogic.Value.Basic
/-!
# Looking into data

A data path names a place in nested data by a sequence of segments, as in `people[1].name` or `people.1.name`.  The two
notations, and empty segments, make no difference (`segments`).  Each segment then enters one level: an object by key,
an array by index (`Value.enter?`).
-/
namespace FormLogic
namespace DataPath

/-- **The segments of a data path**: an opening bracket separates like a point, a closing one counts for nothing, and
empty segments are left out. -/
def segments (path : String) : List (List Char) :=
  let plain := (path.toList.map fun c => if c = '[' then '.' else c).filter (· ≠ ']')
  (Text.splitOn '.' plain).filter (! ·.isEmpty)

/-- **The index a segment writes**: digits, perhaps after a plus sign, with a 64-bit value. -/
def index? (segment : List Char) : Option Nat :=
  let digits := match segment with
    | '+' :: rest => rest
    | cs => cs
  if Text.isDigits digits ∧ Text.natOfDigits digits < Nat.pow 2 64 then some (Text.natOfDigits digits) else none

end DataPath

namespace Value

/-- **One level into a value**: an object by key, an array by index. -/
def enter? (v : Value) (segment : List Char) : Option Value :=
  match v with
  | .object members => findEntry (String.ofList segment) members
  | .array items => do items[← DataPath.index? segment]?
  | _ => none

def follow? (v : Value) : List (List Char) → Option Value
  | [] => some v
  | segment :: rest => do (← v.enter? segment).follow? rest

end Value

/-- **The value at a data path** in the members of an object.  A path without segments names nothing. -/
def DataPath.find? (members : List (String × Value)) (path : String) : Option Value :=
  match segments path with
  | [] => none
  | found => (Value.object members).follow? found

end FormLogic
