import FormLogic.Expression.Check
import FormLogic.Proofs.Calls
/-!
# The check, one call at a time

The check of a call reports on the call itself (`Rules.callIssue?`), and then on the arguments that it goes into
(`Rules.checked`), where a literal is compared with the signature of the operator (`Rules.call?`).  `check_array_eq` is
this equation.  The lemmas after it say what is found at one call (`callIssue?_eq_some`, `mem_literalIssues`), and where
an issue comes from (`mem_check_array`).
-/
namespace FormLogic

/-- The issue of a call itself, whatever its arguments are. -/
def Rules.callIssue? (rules : Rules) (path : Path) (items : List Value) : Option Issue :=
  if rules.maxDepth < path.length then some (.depth rules.maxDepth path)
  else
    match items with
    | .string name :: arguments =>
      match (rules.operators.get? name).map Operator.signature with
      | none => some (.unknownOperator (.unknownOperator name) path (some name))
      | some signature =>
        match signature.checkCount name arguments.length with
        | .ok () => none
        | .error cause => some (.argumentCount cause path name)
    | items => some (.unknownOperator (badHead items) path none)

/-- The arguments that the check goes into. -/
def Rules.checked (rules : Rules) (path : Path) (items : List Value) : List Value :=
  if rules.maxDepth < path.length then []
  else
    match items with
    | .string _ :: arguments => arguments
    | _ => []

/-- The name and the signature of the operator, where it is known, by which the literals of a call are checked. -/
def Rules.call? (rules : Rules) : List Value → Option (String × Signature)
  | .string name :: _ => ((rules.operators.get? name).map Operator.signature).map fun signature => (name, signature)
  | _ => none

section
variable {rules : Rules} {path : Path} {items : List Value} {issue : Issue}

/-! ### Literals -/

theorem literalIssues_array (call : Option (String × Signature)) (place : Path) (index : Nat) (items : List Value) :
    literalIssues rules call place index (.array items) = [] := by
  cases call <;> rfl

/-- **A literal is reported** exactly when its position has a kind to which it cannot be cast. -/
theorem literalIssues_literal {v : Value} (hv : v.items? = none) (name : String) (signature : Signature) (place : Path)
    (index : Nat) :
    literalIssues rules (some (name, signature)) place index v =
      match signature.kindAt name index with
      | .error _ => []
      | .ok kind =>
        match rules.casts.cast v kind with
        | .ok _ => []
        | .error cause => [.literal cause place name] := by
  cases v <;> first | rfl | cases hv

theorem Rules.call?_cons {name : String} {operator : Operator} (h : rules.operators.get? name = some operator)
    (arguments : List Value) : rules.call? (.string name :: arguments) = some (name, operator.signature) := by
  rw [call?, h, Option.map_some, Option.map_some]

theorem mem_literalIssues {name : String} {arguments : List Value} {place : Path} {i : Nat} {argument : Value} :
    issue ∈ literalIssues rules (rules.call? (.string name :: arguments)) place i argument ↔ argument.items? = none ∧
      ∃ operator kind cause, rules.operators.get? name = some operator ∧ operator.signature.kindAt name i = .ok kind ∧
        rules.casts.cast argument kind = .error cause ∧ issue = .literal cause place name := by
  cases hargument : argument.items? with
  | some items =>
    cases Value.items?_eq_some.mp hargument
    rw [literalIssues_array]
    simp
  | none =>
    cases hoperator : rules.operators.get? name with
    | none => simp [literalIssues, Rules.call?, hoperator]
    | some operator =>
      rw [Rules.call?_cons hoperator, literalIssues_literal hargument]
      cases hkind : operator.signature.kindAt name i with
      | error cause => simp [hkind]
      | ok kind => cases hcast : rules.casts.cast argument kind <;> simp [hkind, hcast]

/-- **One argument has one issue of its own at most**, and then it is a literal. -/
theorem literalIssues_eq (call : Option (String × Signature)) (place : Path) (i : Nat) (argument : Value) :
    literalIssues rules call place i argument = [] ∨
      argument.items? = none ∧
        ∃ cause name, literalIssues rules call place i argument = [.literal cause place name] := by
  cases hargument : argument.items? with
  | some items =>
    cases Value.items?_eq_some.mp hargument
    exact .inl (literalIssues_array call place i items)
  | none =>
    cases call with
    | none => exact .inl rfl
    | some call =>
      rw [literalIssues_literal hargument]
      cases call.2.kindAt call.1 i with
      | error cause => exact .inl rfl
      | ok kind =>
        dsimp only
        cases rules.casts.cast argument kind with
        | ok v => exact .inl rfl
        | error cause => exact .inr ⟨rfl, cause, call.1, rfl⟩

/-! ### Whole calls -/

/-- **What is reported below a call** is what is reported at one of its arguments. -/
theorem mem_checkArguments {call : Option (String × Signature)} {issue : Issue} :
    ∀ {index : Nat} {arguments : List Value},
      issue ∈ checkArguments rules path call index arguments ↔
        ∃ i argument, arguments[i]? = some argument ∧
          (issue ∈ literalIssues rules call (path ++ [index + i + 1]) (index + i) argument ∨
            issue ∈ check rules (path ++ [index + i + 1]) argument)
  | index, [] => by simp [checkArguments]
  | index, first :: rest => by
    rw [checkArguments, List.mem_append, List.mem_append, mem_checkArguments]
    constructor
    · rintro (hfirst | ⟨i, argument, hi, hrest⟩)
      · exact ⟨0, first, rfl, hfirst⟩
      · refine ⟨i + 1, argument, hi, ?_⟩
        rw [show index + (i + 1) = index + 1 + i by omega]
        exact hrest
    · rintro ⟨i, argument, hi, h⟩
      cases i with
      | zero =>
        cases hi
        exact .inl h
      | succ i =>
        refine .inr ⟨i, argument, hi, ?_⟩
        rw [show index + 1 + i = index + (i + 1) by omega]
        exact h

theorem check_literal {v : Value} (hv : v.items? = none) : check rules path v = [] := by
  cases v with
  | array items => cases hv
  | _ => rfl

/-- **The check of a call** reports on the call itself, and then on the arguments that it goes into. -/
theorem check_array_eq : check rules path (.array items) =
    (rules.callIssue? path items).toList ++
      checkArguments rules path (rules.call? items) 0 (rules.checked path items) := by
  unfold check Rules.callIssue? Rules.checked
  by_cases hdepth : rules.maxDepth < path.length
  · simp only [if_pos hdepth]
    rfl
  · simp only [if_neg hdepth]
    cases items with
    | nil => rfl
    | cons head arguments =>
      cases head with
      | string name =>
        dsimp only [Rules.call?]
        cases rules.operators.get? name with
        | none => rfl
        | some operator =>
          dsimp only [Option.map_some]
          cases operator.signature.checkCount name arguments.length <;> rfl
      | _ => rfl

/-- **What is wrong with a call itself**: its depth, else its head, else its name, else the number of its arguments. -/
theorem callIssue?_eq_some : rules.callIssue? path items = some issue ↔
    rules.maxDepth < path.length ∧ issue = .depth rules.maxDepth path ∨
      path.length ≤ rules.maxDepth ∧
        ((∀ name arguments, items ≠ .string name :: arguments) ∧ issue = .unknownOperator (badHead items) path none ∨
          ∃ name arguments, items = .string name :: arguments ∧
            (rules.operators.get? name = none ∧ issue = .unknownOperator (.unknownOperator name) path (some name) ∨
              ∃ operator cause, rules.operators.get? name = some operator ∧
                operator.signature.checkCount name arguments.length = .error cause ∧
                issue = .argumentCount cause path name)) := by
  unfold Rules.callIssue?
  by_cases hdepth : rules.maxDepth < path.length
  · have hnot : ¬ path.length ≤ rules.maxDepth := Nat.not_le_of_lt hdepth
    simp [hdepth, hnot, @eq_comm Issue issue]
  · rw [if_neg hdepth, or_iff_right fun h => hdepth h.1, and_iff_right (Nat.le_of_not_lt hdepth)]
    split
    · rename_i name arguments
      cases hoperator : rules.operators.get? name with
      | none => simp [hoperator, and_assoc, @eq_comm Issue issue]
      | some operator =>
        cases hcount : operator.signature.checkCount name arguments.length <;>
          simp [hoperator, hcount, and_assoc, @eq_comm Issue issue]
    · rename_i hnameless
      constructor
      · intro h
        exact .inl ⟨hnameless, (Option.some.inj h).symm⟩
      · rintro (⟨-, rfl⟩ | ⟨name, arguments, heq, -⟩)
        · rfl
        · exact absurd heq (hnameless name arguments)

theorem getElem?_checked {i : Nat} {argument : Value} : (rules.checked path items)[i]? = some argument ↔
    path.length ≤ rules.maxDepth ∧
      ∃ name arguments, items = .string name :: arguments ∧ arguments[i]? = some argument := by
  unfold Rules.checked
  by_cases hdepth : rules.maxDepth < path.length
  · have hnot : ¬ path.length ≤ rules.maxDepth := Nat.not_le_of_lt hdepth
    simp [hdepth, hnot]
  · rw [if_neg hdepth, and_iff_right (Nat.le_of_not_lt hdepth)]
    split
    · rename_i name arguments
      constructor
      · intro hi
        exact ⟨name, arguments, rfl, hi⟩
      · rintro ⟨_, _, heq, hi⟩
        cases heq
        exact hi
    · rename_i hnameless
      refine iff_of_false nofun ?_
      rintro ⟨name, arguments, heq, -⟩
      exact hnameless name arguments heq

theorem mem_of_mem_checked {argument : Value} (h : argument ∈ rules.checked path items) : argument ∈ items := by
  obtain ⟨i, hi⟩ := List.mem_iff_getElem?.mp h
  obtain ⟨-, name, arguments, rfl, hargument⟩ := getElem?_checked.mp hi
  exact List.mem_cons_of_mem _ (List.mem_of_getElem? hargument)

theorem mem_check_array : issue ∈ check rules path (.array items) ↔ rules.callIssue? path items = some issue ∨
    ∃ i argument, (rules.checked path items)[i]? = some argument ∧
      (issue ∈ literalIssues rules (rules.call? items) (path ++ [i + 1]) i argument ∨
        issue ∈ check rules (path ++ [i + 1]) argument) := by
  rw [check_array_eq, List.mem_append, Option.mem_toList, mem_checkArguments]
  simp only [Nat.zero_add]

end
end FormLogic
