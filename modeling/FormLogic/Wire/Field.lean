import FormLogic.Kind
/-!
# Fields of documents

Configurations, nodes, issues and host data are exchanged as objects with named members.  Here stand the ways to read
and write one member.  Reading answers nothing where the document has not the form asked for; members nobody asks for
are passed over.
-/
namespace FormLogic
namespace Wire

variable {α : Type}

def flag? : Value → Option Bool
  | .bool b => some b
  | _ => none

def word? : Value → Option Nat
  | .number (.int i) => if 0 ≤ i ∧ i < Nat.pow 2 64 then some i.toNat else none
  | _ => none

/-- The name of one of several cases: a string, or an object whose only member has that name and is null. -/
def caseName? : Value → Option String
  | .string s => some s
  | .object [(s, .null)] => some s
  | _ => none

def list? (item : Value → Option α) (v : Value) : Option (List α) := do (← v.items?).mapM item

def table? (member : Value → Option α) (v : Value) : Option (Table α) := do
  let entries ← (← v.members?).mapM fun m => (member m.2).map fun a => (m.1, a)
  return Table.ofList entries

/-- Any value or null, which counts as absent. -/
def nullable? (read : Value → Option α) : Value → Option (Option α)
  | .null => some none
  | v => (read v).map some

/-- **A member that must be there.** -/
def required (read : Value → Option α) (members : List (String × Value)) (key : String) : Option α :=
  (findEntry key members).bind read

/-- **A member that may be absent**, and then has a given value. -/
def defaulted (read : Value → Option α) (absent : α) (members : List (String × Value)) (key : String) : Option α :=
  match findEntry key members with
  | none => some absent
  | some v => read v

/-- **A member that may be absent or null.** -/
def optional (read : Value → Option α) (members : List (String × Value)) (key : String) : Option (Option α) :=
  defaulted (nullable? read) none members key

def orNull (write : α → Value) : Option α → Value
  | none => .null
  | some a => write a

def ofList (write : α → Value) (items : List α) : Value := .array (items.map write)

def ofTable (write : α → Value) (t : Table α) : Value := .object (t.entries.map fun e => (e.1, write e.2))

end Wire
end FormLogic
