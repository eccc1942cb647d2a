import FormLogic.Proofs.Places
/-!
# The post-order of calls

The calls of an expression have an order: the arguments of a call come from left to right, with all they contain, and
the call itself comes after them.  `Value.postOrder` lists their paths.  The list holds every path that leads to an
array by argument steps, sorted by `Path.Precedes`, and so each of them once.
-/
namespace FormLogic

/-- **The order of places**: what stands inside a call comes before it, and of two arguments the left one, with all it
contains, comes before the right one. -/
def Path.Precedes : Path → Path → Prop
  | step :: p, step' :: q => step < step' ∨ step = step' ∧ Precedes p q
  | _ :: _, [] => True
  | [], _ => False

namespace Value

mutual
/-- **The paths of the calls in an expression** that stands at `path`, in post-order. -/
def postOrder (path : Path) : Value → List Path
  | .array [] => [path]
  | .array (_ :: arguments) => argumentsPostOrder path 0 arguments ++ [path]
  | _ => []
def argumentsPostOrder (path : Path) (index : Nat) : List Value → List Path
  | [] => []
  | argument :: rest => postOrder (path ++ [index + 1]) argument ++ argumentsPostOrder path (index + 1) rest
end

/-- **A list of the calls of an expression**: all that are reached by argument steps, in the order of their places. -/
structure IsPostOrder (e : Value) (paths : List Path) : Prop where
  mem : ∀ p, p ∈ paths ↔ ∃ items, e.Reaches p (.array items)
  sorted : paths.Pairwise Path.Precedes

end Value

namespace Path

theorem not_precedes_self : ∀ p : Path, ¬ p.Precedes p
  | [] => id
  | step :: p => by
    rintro (h | ⟨-, h⟩)
    · exact Nat.lt_irrefl step h
    · exact not_precedes_self p h

theorem precedes_append_left {q r : Path} : ∀ p : Path, Path.Precedes (p ++ q) (p ++ r) ↔ q.Precedes r
  | [] => Iff.rfl
  | step :: p => by
    rw [List.cons_append, List.cons_append, Precedes]
    simp only [Nat.lt_irrefl, true_and, false_or, precedes_append_left p]

end Path

namespace Value

section
variable {path q : Path} {index : Nat}

theorem postOrder_literal {v : Value} (hv : v.items? = none) : v.postOrder path = [] := by
  cases v with
  | array items => cases hv
  | _ => rfl

theorem mem_argumentsPostOrder : ∀ {index : Nat} {arguments : List Value},
    q ∈ argumentsPostOrder path index arguments ↔
      ∃ i argument, arguments[i]? = some argument ∧ q ∈ postOrder (path ++ [index + i + 1]) argument
  | index, [] => by simp [argumentsPostOrder]
  | index, first :: rest => by
    rw [argumentsPostOrder, List.mem_append, mem_argumentsPostOrder]
    constructor
    · rintro (hfirst | ⟨i, argument, hi, hq⟩)
      · exact ⟨0, first, rfl, hfirst⟩
      · refine ⟨i + 1, argument, hi, ?_⟩
        rw [show index + (i + 1) + 1 = index + 1 + i + 1 by omega]
        exact hq
    · rintro ⟨i, argument, hi, hq⟩
      cases i with
      | zero =>
        cases hi
        exact .inl hq
      | succ i =>
        refine .inr ⟨i, argument, hi, ?_⟩
        rw [show index + 1 + i + 1 = index + (i + 1) + 1 by omega]
        exact hq

theorem mem_postOrder_array {items : List Value} :
    q ∈ (Value.array items).postOrder path ↔
      q = path ∨ ∃ i argument, items[i + 1]? = some argument ∧ q ∈ postOrder (path ++ [i + 1]) argument := by
  cases items with
  | nil => simp [postOrder]
  | cons head arguments =>
    rw [postOrder, List.mem_append, List.mem_singleton, mem_argumentsPostOrder, or_comm]
    simp only [Nat.zero_add, List.getElem?_cons_succ]

/-- **The list holds what argument steps reach.** -/
theorem mem_postOrder (e : Value) : ∀ path q : Path,
    q ∈ e.postOrder path ↔ ∃ inner items, q = path ++ inner ∧ e.Reaches inner (.array items) := by
  induction e using Value.call_induction with
  | literal v hv =>
    intro path q
    rw [postOrder_literal hv]
    constructor
    · intro h
      cases h
    · rintro ⟨inner, items, -, h⟩
      obtain ⟨-, rfl⟩ := reaches_literal hv h
      cases hv
  | call items ih =>
    intro path q
    rw [mem_postOrder_array]
    constructor
    · rintro (rfl | ⟨i, argument, hi, hq⟩)
      · exact ⟨[], items, (List.append_nil q).symm, .refl _⟩
      · obtain ⟨inner, items', rfl, hreaches⟩ := (ih argument (List.mem_of_getElem? hi) _ q).mp hq
        refine ⟨(i + 1) :: inner, items', ?_, .cons (Nat.le_add_left 1 i) hi hreaches⟩
        rw [List.append_assoc, List.singleton_append]
    · rintro ⟨inner, items', rfl, hreaches⟩
      cases inner with
      | nil => exact .inl (List.append_nil path)
      | cons step inner =>
        obtain ⟨_, argument, heq, hstep, hitem, hinner⟩ := reaches_cons.mp hreaches
        cases heq
        obtain ⟨i, rfl⟩ : ∃ i, step = i + 1 := ⟨step - 1, by omega⟩
        refine .inr ⟨i, argument, hitem, (ih argument (List.mem_of_getElem? hitem) _ _).mpr ?_⟩
        exact ⟨inner, items', by rw [List.append_assoc, List.singleton_append], hinner⟩

theorem exists_append_of_mem_postOrder {e : Value} (h : q ∈ e.postOrder path) : ∃ inner, q = path ++ inner := by
  obtain ⟨inner, -, hq, -⟩ := (mem_postOrder e path q).mp h
  exact ⟨inner, hq⟩

theorem pairwise_argumentsPostOrder : ∀ {index : Nat} {arguments : List Value},
    (∀ argument ∈ arguments, ∀ path, (argument.postOrder path).Pairwise Path.Precedes) →
      (argumentsPostOrder path index arguments).Pairwise Path.Precedes
  | index, [], _ => .nil
  | index, first :: rest, h => by
    rw [argumentsPostOrder, List.pairwise_append]
    refine ⟨h first List.mem_cons_self _,
      pairwise_argumentsPostOrder fun argument ha => h argument (List.mem_cons_of_mem first ha), fun p hp q hq => ?_⟩
    obtain ⟨inner, rfl⟩ := exists_append_of_mem_postOrder hp
    obtain ⟨i, argument, -, hq⟩ := mem_argumentsPostOrder.mp hq
    obtain ⟨inner', rfl⟩ := exists_append_of_mem_postOrder hq
    rw [List.append_assoc, List.append_assoc, Path.precedes_append_left]
    have hlt : index + 1 < index + 1 + i + 1 := by omega
    exact .inl hlt

theorem pairwise_postOrder (e : Value) : ∀ path, (e.postOrder path).Pairwise Path.Precedes := by
  induction e using Value.call_induction with
  | literal v hv =>
    intro path
    rw [postOrder_literal hv]
    exact .nil
  | call items ih =>
    intro path
    cases items with
    | nil => exact List.pairwise_singleton _ path
    | cons head arguments =>
      rw [postOrder, List.pairwise_append]
      refine ⟨pairwise_argumentsPostOrder fun argument ha => ih argument (List.mem_cons_of_mem head ha),
        List.pairwise_singleton _ path, fun p hp q hq => ?_⟩
      obtain ⟨i, argument, -, hp⟩ := mem_argumentsPostOrder.mp hp
      obtain ⟨inner, rfl⟩ := exists_append_of_mem_postOrder hp
      rw [List.mem_singleton.mp hq, List.append_assoc]
      -- the path of the call, with nothing added, comes after all that is below it
      have hlast : Path.Precedes (path ++ ([0 + i + 1] ++ inner)) (path ++ []) :=
        (Path.precedes_append_left path).mpr trivial
      rw [List.append_nil] at hlast
      exact hlast

end

theorem isPostOrder_postOrder (e : Value) : e.IsPostOrder (e.postOrder []) := by
  refine ⟨fun p => ?_, e.pairwise_postOrder []⟩
  rw [mem_postOrder]
  constructor
  · rintro ⟨inner, items, rfl, h⟩
    exact ⟨items, h⟩
  · rintro ⟨items, h⟩
    exact ⟨p, items, rfl, h⟩

theorem IsPostOrder.nodup {e : Value} {paths : List Path} (h : e.IsPostOrder paths) : paths.Nodup := by
  refine h.sorted.imp ?_
  rintro p q hprecedes rfl
  exact p.not_precedes_self hprecedes

end Value
end FormLogic
