import FormLogic.Expression.Dialect
/-!
# Sessions

A host may change its dialect between requests: it defines and removes operators, and sets and removes the rules of
casts.  Each change answers with what it takes the place of.  Everything else that a host asks leaves the dialect as it
is, and `Dialect.session` puts actions of all sorts one after the other.
-/
namespace FormLogic

/-- **Puts a value under a key**, or takes the key away where there is no value, and gives what was there before. -/
def Table.exchange {α : Type} (t : Table α) (key : String) (value : Option α) : Option α × Table α :=
  (t.get? key, value.elim (t.erase key) (t.insert key))

/-- **Sets the rule for a kind**, or removes it where there is none, and gives what was there before. -/
def CastTable.exchange (t : CastTable) (kind : Kind) (rule : Option CastRule) : Option CastRule × CastTable :=
  (t.rule? kind, rule.elim (t.erase kind) (t.insert kind))

/-- **What a host may do with a dialect.** -/
inductive Action where
  | define (name : String) (operator : Operator)
  | remove (name : String)
  | setRule (kind : Kind) (rule : CastRule)
  | removeRule (kind : Kind)
  | evaluate (expression : Value) (sources : Sources) (node : Node) (config : Config)
  | check (expression : Value) (maxDepth : Nat)
  | cast (value : Value) (target : Kind)
  | get (name : String)
  | contains (name : String)
  | names
  | size
  | isEmpty
  | getRule (kind : Kind)

inductive Reply where
  | operator (found : Option Operator)
  | rule (found : Option CastRule)
  | answer (answer : Answer)
  | issues (issues : List Issue)
  | value (result : Except Cause Value)
  | names (names : List String)
  | size (size : Nat)
  | holds (holds : Bool)

namespace Dialect

/-- **One action**: its reply, and the dialect after it. -/
def perform (d : Dialect) : Action → Reply × Dialect
  | .define name operator =>
    let (before, operators) := d.operators.exchange name (some operator)
    (.operator before, { d with operators := operators })
  | .remove name =>
    let (before, operators) := d.operators.exchange name none
    (.operator before, { d with operators := operators })
  | .setRule kind rule =>
    let (before, casts) := d.casts.exchange kind (some rule)
    (.rule before, { d with casts := casts })
  | .removeRule kind =>
    let (before, casts) := d.casts.exchange kind none
    (.rule before, { d with casts := casts })
  | .evaluate expression sources node config => (.answer (d.evaluate expression sources node config), d)
  | .check expression maxDepth => (.issues (d.check expression maxDepth), d)
  | .cast value target => (.value (d.casts.cast value target), d)
  | .get name => (.operator (d.operators.get? name), d)
  | .contains name => (.holds (d.operators.contains name), d)
  | .names => (.names d.operators.keys, d)
  | .size => (.size d.operators.size, d)
  | .isEmpty => (.holds d.operators.isEmpty, d)
  | .getRule kind => (.rule (d.casts.rule? kind), d)

/-- **Actions one after the other**: their replies in order, and the dialect after the last. -/
def session (d : Dialect) : List Action → List Reply × Dialect
  | [] => ([], d)
  | action :: rest =>
    let (reply, next) := d.perform action
    let (replies, last) := next.session rest
    (reply :: replies, last)

def replies (d : Dialect) (history : List Action) : List Reply := (d.session history).1

/-- The dialect that a history of actions leaves behind. -/
def after (d : Dialect) (history : List Action) : Dialect := (d.session history).2

end Dialect
end FormLogic
