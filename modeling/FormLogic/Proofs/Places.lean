import FormLogic.Proofs.Calls
/-!
# Places in expressions

A path leads from an expression to one of its sub-expressions, item by item (`Value.subexpression?`).  The paths that an
evaluation gives out lead through arguments only, never through the head of a call (`Value.Reaches`).  What heads the
calls in such places is what the expression calls (`Value.Calls`).
-/
namespace FormLogic
namespace Value

/-- **The sub-expression at a path**: each step selects the item at its position, the head of a call having position
0. -/
def subexpression? : Value → Path → Option Value
  | e, [] => some e
  | .array items, step :: path => items[step]?.bind fun item => item.subexpression? path
  | _, _ :: _ => none

/-- **A sub-expression reached by argument steps**: the path leads to it, and no step of the path selects a head. -/
structure Reaches (root : Value) (path : Path) (e : Value) : Prop where
  leads : root.subexpression? path = some e
  arguments : ∀ step ∈ path, 1 ≤ step

namespace Reaches

variable {items : List Value} {e item : Value} {step : Nat} {path : Path}

theorem refl (e : Value) : e.Reaches [] e := ⟨rfl, nofun⟩

theorem cons (hstep : 1 ≤ step) (hitem : items[step]? = some item) (h : item.Reaches path e) :
    (Value.array items).Reaches (step :: path) e := by
  refine ⟨?_, fun k hk => ?_⟩
  · rw [subexpression?, hitem, Option.bind_some]
    exact h.leads
  · rcases List.mem_cons.mp hk with rfl | hk
    · exact hstep
    · exact h.arguments k hk

end Reaches

theorem reaches_nil {root e : Value} : root.Reaches [] e ↔ root = e := by
  constructor
  · intro h
    exact Option.some.inj h.leads
  · rintro rfl
    exact .refl root

/-- **The first step of a path** selects an argument of a call, and the rest of the path starts there. -/
theorem reaches_cons {root e : Value} {step : Nat} {path : Path} :
    root.Reaches (step :: path) e ↔
      ∃ items item, root = .array items ∧ 1 ≤ step ∧ items[step]? = some item ∧ item.Reaches path e := by
  constructor
  · intro h
    have hpath : ∀ k ∈ path, 1 ≤ k := fun k hk => h.arguments k (List.mem_cons_of_mem step hk)
    cases root with
    | array items =>
      obtain ⟨item, hitem, hleads⟩ := Option.bind_eq_some_iff.mp h.leads
      exact ⟨items, item, rfl, h.arguments step List.mem_cons_self, hitem, hleads, hpath⟩
    | _ => cases h.leads
  · rintro ⟨items, item, rfl, hstep, hitem, h⟩
    exact .cons hstep hitem h

theorem Reaches.append {root e sub : Value} {path inner : Path} (h : root.Reaches path e)
    (hinner : e.Reaches inner sub) : root.Reaches (path ++ inner) sub := by
  induction path generalizing root with
  | nil =>
    rw [reaches_nil.mp h]
    exact hinner
  | cons step path ih =>
    obtain ⟨items, item, rfl, hstep, hitem, hrest⟩ := reaches_cons.mp h
    exact .cons hstep hitem (ih hrest)

/-- **A path reached in two parts** leads through the place where the second part starts. -/
theorem reaches_append {root sub : Value} {path inner : Path} :
    root.Reaches (path ++ inner) sub ↔ ∃ e, root.Reaches path e ∧ e.Reaches inner sub := by
  constructor
  · intro h
    induction path generalizing root with
    | nil => exact ⟨root, .refl root, h⟩
    | cons step path ih =>
      obtain ⟨items, item, rfl, hstep, hitem, hrest⟩ := reaches_cons.mp h
      obtain ⟨e, he, hinner⟩ := ih hrest
      exact ⟨e, .cons hstep hitem he, hinner⟩
  · rintro ⟨e, h, hinner⟩
    exact h.append hinner

theorem Reaches.unique {root e e' : Value} {path : Path} (h : root.Reaches path e) (h' : root.Reaches path e') :
    e = e' :=
  Option.some.inj (h.leads.symm.trans h'.leads)

theorem reaches_literal {v e : Value} (hv : v.items? = none) {path : Path} (h : v.Reaches path e) :
    path = [] ∧ e = v := by
  cases path with
  | nil => exact ⟨rfl, (reaches_nil.mp h).symm⟩
  | cons step path =>
    obtain ⟨items, -, rfl, -⟩ := reaches_cons.mp h
    cases hv

/-- **A name that an expression calls**: it heads an array in some place that argument steps reach. -/
def Calls (e : Value) (name : String) : Prop := ∃ path arguments, e.Reaches path (.array (.string name :: arguments))

theorem calls_head (name : String) (arguments : List Value) : (Value.array (.string name :: arguments)).Calls name :=
  ⟨[], arguments, .refl _⟩

/-- **What an argument calls, the call around it calls.** -/
theorem Calls.of_mem {head argument : Value} {arguments : List Value} {name : String} (h : argument.Calls name)
    (ha : argument ∈ arguments) : (Value.array (head :: arguments)).Calls name := by
  obtain ⟨path, inner, hreaches⟩ := h
  obtain ⟨i, hi⟩ := List.mem_iff_getElem?.mp ha
  have hitem : (head :: arguments)[i + 1]? = some argument := by rw [List.getElem?_cons_succ, hi]
  exact ⟨(i + 1) :: path, inner, .cons (Nat.le_add_left 1 i) hitem hreaches⟩

theorem calls_cons {head : Value} {arguments : List Value} {name : String} :
    (Value.array (head :: arguments)).Calls name ↔
      head = .string name ∨ ∃ argument ∈ arguments, argument.Calls name := by
  constructor
  · rintro ⟨path, inner, hreaches⟩
    cases path with
    | nil =>
      cases reaches_nil.mp hreaches
      exact .inl rfl
    | cons step path =>
      obtain ⟨_, argument, heq, hstep, hitem, hrest⟩ := reaches_cons.mp hreaches
      cases heq
      obtain ⟨i, rfl⟩ : ∃ i, step = i + 1 := ⟨step - 1, by omega⟩
      rw [List.getElem?_cons_succ] at hitem
      exact .inr ⟨argument, List.mem_of_getElem? hitem, path, inner, hrest⟩
  · rintro (rfl | ⟨argument, ha, h⟩)
    · exact calls_head name arguments
    · exact h.of_mem ha

theorem not_calls_nil (name : String) : ¬ (Value.array []).Calls name := by
  rintro ⟨path, inner, hreaches⟩
  cases path with
  | nil => cases reaches_nil.mp hreaches
  | cons step path =>
    obtain ⟨_, _, heq, -, hitem, -⟩ := reaches_cons.mp hreaches
    cases heq
    cases hitem

theorem not_calls_literal {v : Value} (hv : v.items? = none) (name : String) : ¬ v.Calls name := by
  rintro ⟨path, inner, hreaches⟩
  obtain ⟨-, rfl⟩ := reaches_literal hv hreaches
  cases hv

mutual
/-- **The names that an expression calls**, listed call by call. -/
def callees : Value → List String
  | .array (head :: arguments) => head.string?.toList ++ argumentsCallees arguments
  | _ => []
def argumentsCallees : List Value → List String
  | [] => []
  | argument :: rest => callees argument ++ argumentsCallees rest
end

theorem mem_argumentsCallees {name : String} {arguments : List Value} :
    name ∈ argumentsCallees arguments ↔ ∃ argument ∈ arguments, name ∈ callees argument := by
  induction arguments with
  | nil => simp [argumentsCallees]
  | cons first rest ih => simp [argumentsCallees, ih]

theorem mem_callees {name : String} (e : Value) : name ∈ e.callees ↔ e.Calls name := by
  induction e using call_induction with
  | literal v hv =>
    have hnil : v.callees = [] := by
      cases v with
      | array items => cases hv
      | _ => rfl
    rw [hnil]
    exact iff_of_false List.not_mem_nil (not_calls_literal hv name)
  | call items ih =>
    cases items with
    | nil => exact iff_of_false List.not_mem_nil (not_calls_nil name)
    | cons head arguments =>
      have hhead : name ∈ head.string?.toList ↔ head = .string name := by
        cases head <;> simp [string?, eq_comm]
      rw [callees, List.mem_append, hhead, mem_argumentsCallees, calls_cons]
      refine or_congr Iff.rfl (exists_congr fun argument => and_congr_right fun ha => ?_)
      exact ih argument (List.mem_cons_of_mem head ha)

instance (e : Value) (name : String) : Decidable (e.Calls name) := decidable_of_iff _ e.mem_callees

end Value

theorem Rules.getElem?_items_of_enter {rules : Rules} {path : Path} {items : List Value} {entry : Entry}
    (h : rules.enter path items = .ok entry) (i : Nat) : items[i + 1]? = entry.arguments[i]? := by
  rw [(Rules.enter_eq_ok.mp h).2.1, List.getElem?_cons_succ]

/-- **One step leads to an argument** of a call that goes on to its arguments. -/
theorem Rules.reaches_of_enter {rules : Rules} {path : Path} {items : List Value} {entry : Entry}
    (h : rules.enter path items = .ok entry) {i : Nat} {argument : Value} (hi : entry.arguments[i]? = some argument) :
    (Value.array items).Reaches [i + 1] argument := by
  have hitem : items[i + 1]? = some argument := by rw [Rules.getElem?_items_of_enter h, hi]
  exact .cons (Nat.le_add_left 1 i) hitem (.refl argument)

end FormLogic
