import FormLogic.Expression.Session
import Mathlib.Data.List.Sort
/-!
# What a history of changes leaves behind

A registry, and a table of casts, is all that is left of the changes made to it: under each name stands what was last
defined there, unless it was removed since (`Dialect.session_keeps`).  A change answers with what the changes before it
left behind, a question is answered by it (`Dialect.Answers`), and nothing but the changes makes a difference.  The
names of a registry, its size and what it contains are all read off the same entries, and there is only one list of
these names in the order of their bytes.
-/
namespace FormLogic

namespace Table

section
variable {α : Type} (t : Table α)

theorem mem_keys_iff {key : String} : key ∈ t.keys ↔ (t.get? key).isSome = true := by
  have hentries : ∀ entries : List (String × α),
      key ∈ entries.map Prod.fst ↔ (findEntry key entries).isSome = true := by
    intro entries
    induction entries with
    | nil => simp [findEntry]
    | cons e rest ih =>
      rw [List.map_cons, List.mem_cons, ih, findEntry]
      split
      · rename_i heq
        simp [heq]
      · rename_i hne
        simp [hne]
  exact hentries t.entries

/-- **The keys stand in strictly increasing order of their bytes.** -/
theorem pairwise_keys : t.keys.Pairwise fun a b => Text.bytes a < Text.bytes b := by
  refine List.pairwise_map.mpr (t.ordered.imp fun hbefore => ?_)
  exact of_decide_eq_true hbefore

theorem size_eq : t.size = t.keys.length := (List.length_map _).symm

theorem isEmpty_eq : t.isEmpty = t.keys.isEmpty := List.isEmpty_map.symm

/-- **There is no other list of the keys in this order.** -/
theorem eq_keys {names : List String} (hordered : names.Pairwise fun a b => Text.bytes a < Text.bytes b)
    (hmem : ∀ name, name ∈ names ↔ (t.get? name).isSome = true) : names = t.keys := by
  have hirrefl : Std.Irrefl fun a b : String => Text.bytes a < Text.bytes b := ⟨fun _ => List.lt_irrefl _⟩
  have hantisymm : Std.Antisymm fun a b : String => Text.bytes a < Text.bytes b :=
    ⟨fun _ _ h h' => absurd (List.lt_trans h h') (List.lt_irrefl _)⟩
  exact hordered.eq_of_mem_iff t.pairwise_keys fun name => (hmem name).trans t.mem_keys_iff.symm

theorem get?_exchange (key wanted : String) (value : Option α) :
    (t.exchange key value).2.get? wanted = if wanted = key then value else t.get? wanted := by
  cases value with
  | none => exact t.get?_erase key wanted
  | some v => exact t.get?_insert key wanted v

end
end Table

theorem CastTable.rule?_exchange (t : CastTable) (kind wanted : Kind) (rule : Option CastRule) :
    (t.exchange kind rule).2.rule? wanted = if wanted = kind then rule else t.rule? wanted := by
  cases rule <;> rfl

/-! ## One action -/

namespace Action

/-- **What an action writes under a name**: an operator, or that there is none. -/
def operatorAt? (name : String) : Action → Option (Option Operator)
  | .define written operator => if name = written then some (some operator) else none
  | .remove written => if name = written then some none else none
  | _ => none

/-- **What an action writes for a kind**: a rule, or that there is none. -/
def ruleAt? (kind : Kind) : Action → Option (Option CastRule)
  | .setRule written rule => if kind = written then some (some rule) else none
  | .removeRule written => if kind = written then some none else none
  | _ => none

/-- **The actions that change a dialect.** -/
def changes : Action → Bool
  | .define .. | .remove .. | .setRule .. | .removeRule .. => true
  | _ => false

end Action

namespace Dialect

theorem get?_perform (name : String) (d : Dialect) (action : Action) :
    (d.perform action).2.operators.get? name = (action.operatorAt? name).getD (d.operators.get? name) := by
  cases action with
  | define written operator =>
    refine (d.operators.get?_exchange written name (some operator)).trans ?_
    rw [Action.operatorAt?]
    split <;> rfl
  | remove written =>
    refine (d.operators.get?_exchange written name none).trans ?_
    rw [Action.operatorAt?]
    split <;> rfl
  | _ => rfl

theorem rule?_perform (kind : Kind) (d : Dialect) (action : Action) :
    (d.perform action).2.casts.rule? kind = (action.ruleAt? kind).getD (d.casts.rule? kind) := by
  cases action with
  | setRule written rule =>
    refine (d.casts.rule?_exchange written kind (some rule)).trans ?_
    rw [Action.ruleAt?]
    split <;> rfl
  | removeRule written =>
    refine (d.casts.rule?_exchange written kind none).trans ?_
    rw [Action.ruleAt?]
    split <;> rfl
  | _ => rfl

/-- **Requests and questions leave the dialect as it is.** -/
theorem perform_of_not_changes {action : Action} (h : action.changes = false) (d : Dialect) :
    (d.perform action).2 = d := by
  cases action <;> first | rfl | cases h

/-- **A change of an operator** answers with the operator that it takes the place of. -/
theorem reply_of_operatorAt? {name : String} {action : Action} (h : action.operatorAt? name ≠ none) (d : Dialect) :
    (d.perform action).1 = .operator (d.operators.get? name) := by
  cases action with
  | define written operator =>
    obtain rfl : name = written := by simpa [Action.operatorAt?] using h
    rfl
  | remove written =>
    obtain rfl : name = written := by simpa [Action.operatorAt?] using h
    rfl
  | _ => exact absurd rfl h

/-- **A change of a rule** answers with the rule that it takes the place of. -/
theorem reply_of_ruleAt? {kind : Kind} {action : Action} (h : action.ruleAt? kind ≠ none) (d : Dialect) :
    (d.perform action).1 = .rule (d.casts.rule? kind) := by
  cases action with
  | setRule written rule =>
    obtain rfl : kind = written := by simpa [Action.ruleAt?] using h
    rfl
  | removeRule written =>
    obtain rfl : kind = written := by simpa [Action.ruleAt?] using h
    rfl
  | _ => exact absurd rfl h

end Dialect

/-! ## Histories -/

/-- **What a history of writes leaves**: what the last of them wrote, or what was there at first where there is none. -/
def Left {α : Type} (written? : Action → Option α) (first : α) (history : List Action) (found : α) : Prop :=
  (∃ before action after, history = before ++ action :: after ∧ written? action = some found ∧
    ∀ later ∈ after, written? later = none) ∨
  (∀ action ∈ history, written? action = none) ∧ found = first

theorem left_nil_iff {α : Type} {written? : Action → Option α} {first found : α} :
    Left written? first [] found ↔ first = found := by
  constructor
  · rintro (⟨before, action, after, hsplit, -⟩ | ⟨-, hfirst⟩)
    · exact absurd hsplit.symm (List.append_ne_nil_of_right_ne_nil before (List.cons_ne_nil action after))
    · exact hfirst.symm
  · rintro rfl
    exact .inr ⟨List.forall_mem_nil _, rfl⟩

/-- **What the first action writes** is there at first for the others. -/
theorem left_cons_iff {α : Type} {written? : Action → Option α} {first found : α} {action : Action}
    {rest : List Action} :
    Left written? first (action :: rest) found ↔ Left written? ((written? action).getD first) rest found := by
  constructor
  · rintro (⟨before, last, after, hsplit, hlast, hafter⟩ | ⟨hnone, rfl⟩)
    · cases before with
      | nil =>
        -- the first action is the last to write: for the others, what it wrote is there from the start
        obtain ⟨rfl, rfl⟩ := List.cons.inj hsplit
        exact .inr ⟨hafter, by rw [hlast, Option.getD_some]⟩
      | cons _ before =>
        obtain ⟨rfl, rfl⟩ := List.cons.inj hsplit
        exact .inl ⟨before, last, after, rfl, hlast, hafter⟩
    · refine .inr ⟨fun a ha => hnone a (List.mem_cons_of_mem action ha), ?_⟩
      rw [hnone action List.mem_cons_self, Option.getD_none]
  · rintro (⟨before, last, after, rfl, hlast, hafter⟩ | ⟨hnone, rfl⟩)
    · exact .inl ⟨action :: before, last, after, rfl, hlast, hafter⟩
    · cases hwritten : written? action with
      | none =>
        refine .inr ⟨fun a ha => ?_, rfl⟩
        rcases List.mem_cons.mp ha with rfl | ha
        · exact hwritten
        · exact hnone a ha
      | some value => exact .inl ⟨[], action, rest, rfl, hwritten, hnone⟩

namespace Dialect

theorem after_cons (d : Dialect) (action : Action) (rest : List Action) :
    d.after (action :: rest) = (d.perform action).2.after rest := rfl

theorem replies_cons (d : Dialect) (action : Action) (rest : List Action) :
    d.replies (action :: rest) = (d.perform action).1 :: (d.perform action).2.replies rest := rfl

/-- **The run of a history**: whatever is read of a dialect, and is written by single actions, is what the history
leaves. -/
theorem after_eq_iff_left {α : Type} (read : Dialect → α) {written? : Action → Option α}
    (hstep : ∀ d action, read (d.perform action).2 = (written? action).getD (read d)) {found : α} :
    ∀ (history : List Action) (d : Dialect), read (d.after history) = found ↔ Left written? (read d) history found
  | [], d => left_nil_iff.symm
  | action :: rest, d => by
    rw [left_cons_iff, ← hstep, after_cons, after_eq_iff_left read hstep rest]

/-- **The reply to an action** is that of the dialect which the actions before it leave behind. -/
theorem getElem?_replies (action : Action) (rest : List Action) :
    ∀ (before : List Action) (d : Dialect),
      (d.replies (before ++ action :: rest))[before.length]? = some ((d.after before).perform action).1
  | [], d => rfl
  | first :: before, d => by
    rw [List.cons_append, replies_cons, List.length_cons, List.getElem?_cons_succ, after_cons,
      getElem?_replies action rest before]

/-- **A list of the names under which a history leaves an operator**, in strictly increasing order of their bytes. -/
structure Lists (d : Dialect) (history : List Action) (names : List String) : Prop where
  ordered : names.Pairwise fun a b => Text.bytes a < Text.bytes b
  mem_iff : ∀ name, name ∈ names ↔
    ∃ operator, Left (Action.operatorAt? name) (d.operators.get? name) history (some operator)

/-- **What an action that changes nothing is answered** after a history: a question, by what the history leaves under a
name, under all names together, or for a kind; a request, by the dialect that is left. -/
inductive Answers (d : Dialect) (history : List Action) : Action → Reply → Prop where
  | get {name : String} {found : Option Operator}
      (left : Left (Action.operatorAt? name) (d.operators.get? name) history found) :
      Answers d history (.get name) (.operator found)
  | contains {name : String} {found : Option Operator}
      (left : Left (Action.operatorAt? name) (d.operators.get? name) history found) :
      Answers d history (.contains name) (.holds found.isSome)
  | names {names : List String} (lists : d.Lists history names) : Answers d history .names (.names names)
  | size {names : List String} (lists : d.Lists history names) : Answers d history .size (.size names.length)
  | isEmpty {names : List String} (lists : d.Lists history names) : Answers d history .isEmpty (.holds names.isEmpty)
  | getRule {kind : Kind} {found : Option CastRule}
      (left : Left (Action.ruleAt? kind) (d.casts.rule? kind) history found) :
      Answers d history (.getRule kind) (.rule found)
  | evaluate (e : Value) (sources : Sources) (node : Node) (config : Config) :
      Answers d history (.evaluate e sources node config) (.answer ((d.after history).evaluate e sources node config))
  | check (e : Value) (maxDepth : Nat) :
      Answers d history (.check e maxDepth) (.issues ((d.after history).check e maxDepth))
  | cast (value : Value) (target : Kind) :
      Answers d history (.cast value target) (.value ((d.after history).casts.cast value target))

theorem get?_after_iff {d : Dialect} {history : List Action} {name : String} {found : Option Operator} :
    (d.after history).operators.get? name = found ↔
      Left (Action.operatorAt? name) (d.operators.get? name) history found :=
  after_eq_iff_left (fun d => d.operators.get? name) (get?_perform name) history d

theorem rule?_after_iff {d : Dialect} {history : List Action} {kind : Kind} {found : Option CastRule} :
    (d.after history).casts.rule? kind = found ↔
      Left (Action.ruleAt? kind) (d.casts.rule? kind) history found :=
  after_eq_iff_left (fun d => d.casts.rule? kind) (rule?_perform kind) history d

theorem lists_keys (d : Dialect) (history : List Action) : d.Lists history (d.after history).operators.keys := by
  refine ⟨Table.pairwise_keys _, fun name => ?_⟩
  rw [Table.mem_keys_iff, Option.isSome_iff_exists]
  exact exists_congr fun operator => get?_after_iff

theorem answers_perform {action : Action} (h : action.changes = false) (d : Dialect) (history : List Action) :
    d.Answers history action ((d.after history).perform action).1 := by
  have hlists := d.lists_keys history
  cases action with
  | get name => exact .get (get?_after_iff.mp rfl)
  | contains name => exact .contains (get?_after_iff.mp rfl)
  | names => exact .names hlists
  | size =>
    show d.Answers history .size (.size (d.after history).operators.size)
    rw [Table.size_eq]
    exact .size hlists
  | isEmpty =>
    show d.Answers history .isEmpty (.holds (d.after history).operators.isEmpty)
    rw [Table.isEmpty_eq]
    exact .isEmpty hlists
  | getRule kind => exact .getRule (rule?_after_iff.mp rfl)
  | evaluate e sources node config => exact .evaluate e sources node config
  | check e maxDepth => exact .check e maxDepth
  | cast value target => exact .cast value target
  | _ => cases h

/-- **Only the changes count**: without all other actions, a history leaves the same dialect behind. -/
theorem after_filter_changes : ∀ (history : List Action) (d : Dialect),
    d.after (history.filter Action.changes) = d.after history
  | [], _ => rfl
  | action :: rest, d => by
    rw [List.filter_cons]
    split
    · rw [after_cons, after_cons, after_filter_changes rest]
    · rename_i hnot
      rw [after_cons, perform_of_not_changes (eq_false_of_ne_true hnot), after_filter_changes rest]

/-- **Sessions keep the last change.**  After any history, under each name stands the operator last defined there, none
if it was removed since, and the first one if neither happened; and so it is with the rule for each kind.  A change
answers with what stood there just before, and everything else is answered by what stands there.  The names are those
under which an operator stands, in strictly increasing order of their bytes, and size and emptiness are theirs.  All
other actions leave the dialect as it is, wherever they stand. -/
theorem session_keeps (d : Dialect) (history : List Action) :
    (∀ name found, (d.after history).operators.get? name = found ↔
        Left (Action.operatorAt? name) (d.operators.get? name) history found) ∧
      (∀ kind found, (d.after history).casts.rule? kind = found ↔
        Left (Action.ruleAt? kind) (d.casts.rule? kind) history found) ∧
      (∀ before action rest, history = before ++ action :: rest →
        (action.changes = false → ∃ reply, (d.replies history)[before.length]? = some reply ∧
          d.Answers before action reply) ∧
        (∀ name, action.operatorAt? name ≠ none →
          ∃ found, (d.replies history)[before.length]? = some (.operator found) ∧
            Left (Action.operatorAt? name) (d.operators.get? name) before found) ∧
        ∀ kind, action.ruleAt? kind ≠ none → ∃ found, (d.replies history)[before.length]? = some (.rule found) ∧
          Left (Action.ruleAt? kind) (d.casts.rule? kind) before found) ∧
      (∀ action, action.changes = false → ((d.after history).perform action).2 = d.after history) ∧
      d.after (history.filter Action.changes) = d.after history ∧
      let operators := (d.after history).operators
      (∀ name, operators.contains name = true ↔ (operators.get? name).isSome = true) ∧
        (∀ name, name ∈ operators.keys ↔ (operators.get? name).isSome = true) ∧
        (operators.keys.Pairwise fun a b => Text.bytes a < Text.bytes b) ∧
        (∀ names : List String, (names.Pairwise fun a b => Text.bytes a < Text.bytes b) →
          (∀ name, name ∈ names ↔ (operators.get? name).isSome = true) → names = operators.keys) ∧
        operators.size = operators.keys.length ∧ (operators.isEmpty = true ↔ operators.keys = []) := by
  refine ⟨fun name found => get?_after_iff, fun kind found => rule?_after_iff, ?_,
    fun action h => perform_of_not_changes h _, after_filter_changes history d, fun name => Iff.rfl,
    fun name => Table.mem_keys_iff _, Table.pairwise_keys _, fun names => Table.eq_keys _, Table.size_eq _, ?_⟩
  · rintro before action rest rfl
    have hreply := getElem?_replies action rest before d
    refine ⟨fun hquery => ⟨_, hreply, answers_perform hquery d before⟩, fun name hname => ?_, fun kind hkind => ?_⟩
    · rw [reply_of_operatorAt? hname] at hreply
      exact ⟨_, hreply, get?_after_iff.mp rfl⟩
    · rw [reply_of_ruleAt? hkind] at hreply
      exact ⟨_, hreply, rule?_after_iff.mp rfl⟩
  · rw [Table.isEmpty_eq]
    exact List.isEmpty_iff

/-- A standard operator is replaced, and then removed: the removal answers with the one that replaced it, and the
standard one does not come back. -/
theorem session_keeps_removed :
    let first : List Action := [.define "equals" Builtin.isString.operator, .evaluate .null .none .detached {}]
    let history : List Action := first ++ [.remove "equals", .names]
    (standard.after history).operators.get? "equals" = none ∧
      (standard.replies history)[2]? = some (.operator (some Builtin.isString.operator)) := by
  intro first history
  have hlast : (standard.after history).operators.get? "equals" = none := by
    refine ((session_keeps standard history).1 "equals" none).mpr (.inl ⟨first, _, [.names], rfl, rfl, ?_⟩)
    exact List.forall_mem_singleton.mpr rfl
  have hfirst : (standard.after first).operators.get? "equals" = some Builtin.isString.operator := by
    refine ((session_keeps standard first).1 "equals" _).mpr (.inl ⟨[], _, _, rfl, rfl, ?_⟩)
    exact List.forall_mem_singleton.mpr rfl
  have hwrites : (Action.remove "equals").operatorAt? "equals" ≠ none := by simp [Action.operatorAt?]
  obtain ⟨found, hreply, hleft⟩ := ((session_keeps standard history).2.2.1 first _ [.names] rfl).2.1 "equals" hwrites
  rw [← ((session_keeps standard first).1 "equals" found).mpr hleft, hfirst] at hreply
  exact ⟨hlast, hreply⟩

end Dialect
end FormLogic
