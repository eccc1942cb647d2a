import FormLogic.Expression.Dialect
import FormLogic.Proofs.Checks
import FormLogic.Proofs.Places
/-!
# What the check reports

The check goes down into every argument of a call that is headed by a string and not too deep, whether or not the call
is in order.  `Value.Visited` says which places these are, and `Issue.IsDue` which issue is due there.  The check
reports what is due and nothing else, once for each place and from left to right (`check_isReport`), and there is only
one such report.

A place is visited by the check of the whole expression if its parent is, so that what is reported at any visited place
is reported for the whole (`mem_check_of_visited`).  This gives all that is due; that nothing else is reported, and the
order, follow by induction on the expression, one call at a time (`mem_check_array`, `check_array_eq`).
-/
namespace FormLogic

/-- **A place that the check looks at**: argument steps lead there, through arrays that are headed by strings and no
deeper than the limit. -/
structure Value.Visited (root : Value) (limit : Nat) (place : Path) (e : Value) : Prop where
  reached : root.Reaches place e
  above : ∀ q step rest, place = q ++ step :: rest →
    q.length ≤ limit ∧ ∃ name arguments, root.Reaches q (.array (.string name :: arguments))

/-- **The issues that are due in an expression**: for an array its depth, else its head, else its name, else the number
of its arguments; and for a literal, where the call around it is known, the kind declared for its position. -/
inductive Issue.IsDue (rules : Rules) (root : Value) : Issue → Prop where
  | depth {p : Path} {items : List Value} (visited : root.Visited rules.maxDepth p (.array items))
      (deep : rules.maxDepth < p.length) : IsDue rules root (.depth rules.maxDepth p)
  | head {p : Path} {items : List Value} (visited : root.Visited rules.maxDepth p (.array items))
      (above : p.length ≤ rules.maxDepth) (nameless : ∀ name arguments, items ≠ .string name :: arguments) :
      IsDue rules root (.unknownOperator (badHead items) p none)
  | name {p : Path} {name : String} {arguments : List Value}
      (visited : root.Visited rules.maxDepth p (.array (.string name :: arguments))) (above : p.length ≤ rules.maxDepth)
      (unknown : rules.operators.get? name = none) :
      IsDue rules root (.unknownOperator (.unknownOperator name) p (some name))
  | count {p : Path} {name : String} {arguments : List Value} {operator : Operator} {cause : Cause}
      (visited : root.Visited rules.maxDepth p (.array (.string name :: arguments))) (above : p.length ≤ rules.maxDepth)
      (known : rules.operators.get? name = some operator)
      (rejected : operator.signature.checkCount name arguments.length = .error cause) :
      IsDue rules root (.argumentCount cause p name)
  | literal {q : Path} {name : String} {arguments : List Value} {operator : Operator} {i : Nat} {v : Value}
      {kind : Kind} {cause : Cause}
      (parent : root.Visited rules.maxDepth q (.array (.string name :: arguments)))
      (known : rules.operators.get? name = some operator) (visited : root.Visited rules.maxDepth (q ++ [i + 1]) v)
      (literal : v.items? = none) (declared : operator.signature.kindAt name i = .ok kind)
      (refused : rules.casts.cast v kind = .error cause) : IsDue rules root (.literal cause (q ++ [i + 1]) name)

/-- The lexicographic order of the places of issues. -/
def Issue.Before (a b : Issue) : Prop := a.path < b.path

/-- **The report on an expression**: the issues that are due in it, in the lexicographic order of their places. -/
structure IsReport (rules : Rules) (e : Value) (issues : List Issue) : Prop where
  due : ∀ issue, issue ∈ issues ↔ issue.IsDue rules e
  sorted : issues.Pairwise Issue.Before

namespace Value

variable {root e : Value} {limit : Nat} {q : Path} {step : Nat}

theorem visited_root (root : Value) (limit : Nat) : root.Visited limit [] root := by
  refine ⟨.refl root, fun q step rest h => ?_⟩
  cases (List.append_eq_nil_iff.mp h.symm).2

/-- **A place below another is visited** when the other is, and is a call that the check goes into. -/
theorem visited_concat : root.Visited limit (q ++ [step]) e ↔ ∃ name arguments i, step = i + 1 ∧ q.length ≤ limit ∧
    root.Visited limit q (.array (.string name :: arguments)) ∧ arguments[i]? = some e := by
  constructor
  · intro h
    obtain ⟨hlimit, name, arguments, hcall⟩ := h.above q step [] rfl
    obtain ⟨e', he', hstep⟩ := reaches_append.mp h.reached
    cases hcall.unique he'
    obtain ⟨_, item, heq, hpos, hitem, hnil⟩ := reaches_cons.mp hstep
    cases heq
    cases reaches_nil.mp hnil
    obtain ⟨i, rfl⟩ : ∃ i, step = i + 1 := ⟨step - 1, by omega⟩
    refine ⟨name, arguments, i, rfl, hlimit, ⟨hcall, fun q' step' rest hq => ?_⟩, hitem⟩
    exact h.above q' step' (rest ++ [i + 1]) (by rw [hq, List.append_assoc, List.cons_append])
  · rintro ⟨name, arguments, i, rfl, hlimit, h, hi⟩
    have hstep : (Value.array (.string name :: arguments)).Reaches [i + 1] e := .cons (Nat.le_add_left 1 i) hi (.refl e)
    refine ⟨h.reached.append hstep, fun q' step' rest hq => ?_⟩
    -- the place above is the parent itself, or above the parent
    rcases List.eq_nil_or_concat rest with rfl | ⟨rest, last, rfl⟩
    · obtain ⟨rfl, -⟩ := List.append_inj' hq rfl
      exact ⟨hlimit, name, arguments, h.reached⟩
    · rw [List.concat_eq_append, ← List.cons_append, ← List.append_assoc] at hq
      obtain ⟨rfl, -⟩ := List.append_inj' hq rfl
      exact h.above q' step' rest rfl

end Value

section
variable {rules : Rules} {path : Path} {items : List Value} {issue : Issue} {root e : Value}

/-! ### What is due -/

/-- **What is reported at a visited place** is reported for the whole expression. -/
theorem mem_check_of_visited (hvisited : root.Visited rules.maxDepth path e) (h : issue ∈ check rules path e) :
    issue ∈ check rules [] root := by
  induction hlength : path.length generalizing path e with
  | zero =>
    obtain rfl := List.length_eq_zero_iff.mp hlength
    cases Value.reaches_nil.mp hvisited.reached
    exact h
  | succ n ih =>
    rcases List.eq_nil_or_concat path with rfl | ⟨q, step, rfl⟩
    · cases hlength
    · rw [List.concat_eq_append] at hvisited h hlength
      obtain ⟨name, arguments, i, rfl, habove, hparent, hi⟩ := Value.visited_concat.mp hvisited
      have hchecked := getElem?_checked.mpr ⟨habove, name, arguments, rfl, hi⟩
      refine ih hparent (mem_check_array.mpr (.inr ⟨i, e, hchecked, .inr h⟩)) ?_
      rw [List.length_append, List.length_singleton] at hlength
      exact Nat.add_right_cancel hlength

theorem isDue_of_callIssue? (hvisited : root.Visited rules.maxDepth path (.array items))
    (h : rules.callIssue? path items = some issue) : issue.IsDue rules root := by
  obtain ⟨hdeep, rfl⟩ | ⟨habove, ⟨hnameless, rfl⟩ | ⟨name, arguments, rfl, hname⟩⟩ := callIssue?_eq_some.mp h
  · exact .depth hvisited hdeep
  · exact .head hvisited habove hnameless
  · obtain ⟨hunknown, rfl⟩ | ⟨operator, cause, hknown, hrejected, rfl⟩ := hname
    · exact .name hvisited habove hunknown
    · exact .count hvisited habove hknown hrejected

/-- **All that is reported at a visited place is due.** -/
theorem isDue_of_mem_check (e : Value) : ∀ {path : Path}, root.Visited rules.maxDepth path e →
    issue ∈ check rules path e → issue.IsDue rules root := by
  induction e using Value.call_induction with
  | literal v hv =>
    intro path _ h
    rw [check_literal hv] at h
    cases h
  | call items ih =>
    intro path hvisited h
    rcases mem_check_array.mp h with hcall | ⟨i, argument, hchecked, hargument⟩
    · exact isDue_of_callIssue? hvisited hcall
    · obtain ⟨habove, name, arguments, rfl, hi⟩ := getElem?_checked.mp hchecked
      have hplace : root.Visited rules.maxDepth (path ++ [i + 1]) argument :=
        Value.visited_concat.mpr ⟨name, arguments, i, rfl, habove, hvisited, hi⟩
      rcases hargument with hliteral | hinner
      · obtain ⟨hv, operator, kind, cause, hknown, hkind, hcast, rfl⟩ := mem_literalIssues.mp hliteral
        exact .literal hvisited hknown hplace hv hkind hcast
      · exact ih argument (List.mem_cons_of_mem _ (List.mem_of_getElem? hi)) hplace hinner

/-- **All that is due is reported.** -/
theorem mem_check_of_isDue (h : issue.IsDue rules root) : issue ∈ check rules [] root := by
  cases h with
  | depth visited deep =>
    refine mem_check_of_visited visited (mem_check_array.mpr (.inl (callIssue?_eq_some.mpr ?_)))
    exact .inl ⟨deep, rfl⟩
  | head visited above nameless =>
    refine mem_check_of_visited visited (mem_check_array.mpr (.inl (callIssue?_eq_some.mpr ?_)))
    exact .inr ⟨above, .inl ⟨nameless, rfl⟩⟩
  | name visited above unknown =>
    refine mem_check_of_visited visited (mem_check_array.mpr (.inl (callIssue?_eq_some.mpr ?_)))
    exact .inr ⟨above, .inr ⟨_, _, rfl, .inl ⟨unknown, rfl⟩⟩⟩
  | count visited above known rejected =>
    refine mem_check_of_visited visited (mem_check_array.mpr (.inl (callIssue?_eq_some.mpr ?_)))
    exact .inr ⟨above, .inr ⟨_, _, rfl, .inr ⟨_, _, known, rejected, rfl⟩⟩⟩
  | @literal q name arguments operator i v kind cause parent known visited literal declared refused =>
    obtain ⟨_, _, _, hstep, above, hparent, hi⟩ := Value.visited_concat.mp visited
    cases hstep
    cases hparent.reached.unique parent.reached
    have hchecked := getElem?_checked.mpr ⟨above, name, arguments, rfl, hi⟩
    refine mem_check_of_visited parent (mem_check_array.mpr (.inr ⟨i, v, hchecked, .inl ?_⟩))
    exact mem_literalIssues.mpr ⟨literal, operator, kind, cause, known, declared, refused, rfl⟩

/-! ### The order of the issues -/

theorem path_of_callIssue? (h : rules.callIssue? path items = some issue) : issue.path = path := by
  obtain ⟨-, rfl⟩ | ⟨-, ⟨-, rfl⟩ | ⟨-, -, -, ⟨-, rfl⟩ | ⟨-, -, -, -, rfl⟩⟩⟩ := callIssue?_eq_some.mp h
  all_goals rfl

theorem path_of_mem_literalIssues {call : Option (String × Signature)} {place : Path} {i : Nat} {argument : Value}
    (h : issue ∈ literalIssues rules call place i argument) : issue.path = place := by
  obtain heq | ⟨-, cause, name, heq⟩ := literalIssues_eq call place i argument
  · rw [heq] at h
    cases h
  · rw [heq] at h
    rw [List.mem_singleton.mp h]
    rfl

/-- **What is reported on an expression** has its place there, or below. -/
theorem exists_append_of_mem_check (e : Value) : ∀ {path : Path}, issue ∈ check rules path e →
    ∃ inner, issue.path = path ++ inner := by
  induction e using Value.call_induction with
  | literal v hv =>
    intro path h
    rw [check_literal hv] at h
    cases h
  | call items ih =>
    intro path h
    rcases mem_check_array.mp h with hcall | ⟨i, argument, hi, hliteral | hinner⟩
    · exact ⟨[], by rw [path_of_callIssue? hcall, List.append_nil]⟩
    · exact ⟨[i + 1], path_of_mem_literalIssues hliteral⟩
    · obtain ⟨inner, hpath⟩ := ih argument (mem_of_mem_checked (List.mem_of_getElem? hi)) hinner
      exact ⟨(i + 1) :: inner, by rw [hpath, List.append_assoc, List.singleton_append]⟩

section
variable {call : Option (String × Signature)} {place : Path} {i : Nat} {argument : Value}

theorem exists_append_of_mem_argument
    (h : issue ∈ literalIssues rules call place i argument ++ check rules place argument) :
    ∃ inner, issue.path = place ++ inner := by
  rcases List.mem_append.mp h with hliteral | hinner
  · exact ⟨[], by rw [path_of_mem_literalIssues hliteral, List.append_nil]⟩
  · exact exists_append_of_mem_check argument hinner

theorem exists_step_of_mem_checkArguments {index : Nat} {arguments : List Value}
    (h : issue ∈ checkArguments rules path call index arguments) :
    ∃ k inner, index < k ∧ issue.path = path ++ k :: inner := by
  obtain ⟨i, argument, -, hissue⟩ := mem_checkArguments.mp h
  obtain ⟨inner, hpath⟩ := exists_append_of_mem_argument (List.mem_append.mpr hissue)
  exact ⟨index + i + 1, inner, by omega, by rw [hpath, List.append_assoc, List.singleton_append]⟩

theorem pairwise_argument (h : (check rules place argument).Pairwise Issue.Before) :
    (literalIssues rules call place i argument ++ check rules place argument).Pairwise Issue.Before := by
  obtain heq | ⟨hliteral, cause, name, heq⟩ := literalIssues_eq call place i argument
  · rw [heq, List.nil_append]
    exact h
  · rw [heq, check_literal hliteral]
    exact List.pairwise_singleton _ _

theorem pairwise_checkArguments : ∀ {index : Nat} {arguments : List Value},
    (∀ argument ∈ arguments, ∀ path, (check rules path argument).Pairwise Issue.Before) →
      (checkArguments rules path call index arguments).Pairwise Issue.Before
  | index, [], _ => .nil
  | index, first :: rest, h => by
    rw [checkArguments, List.pairwise_append]
    refine ⟨pairwise_argument (h first List.mem_cons_self _),
      pairwise_checkArguments fun argument ha => h argument (List.mem_cons_of_mem first ha), fun a ha b hb => ?_⟩
    obtain ⟨inner, hpath⟩ := exists_append_of_mem_argument ha
    obtain ⟨k, inner', hlt, hpath'⟩ := exists_step_of_mem_checkArguments hb
    rw [Issue.Before, hpath, hpath', List.append_assoc, List.singleton_append]
    exact List.append_left_lt (List.cons_lt_cons_iff.mpr (.inl hlt))

end

/-- **The issues come in the order of their places**, those of a call before those of its arguments. -/
theorem pairwise_check (e : Value) : ∀ path, (check rules path e).Pairwise Issue.Before := by
  induction e using Value.call_induction with
  | literal v hv =>
    intro path
    rw [check_literal hv]
    exact .nil
  | call items ih =>
    intro path
    have hcall : (rules.callIssue? path items).toList.Pairwise Issue.Before := by
      cases rules.callIssue? path items with
      | none => exact .nil
      | some issue => exact List.pairwise_singleton _ issue
    have harguments :
        (checkArguments rules path (rules.call? items) 0 (rules.checked path items)).Pairwise Issue.Before :=
      pairwise_checkArguments fun argument ha => ih argument (mem_of_mem_checked ha)
    rw [check_array_eq, List.pairwise_append]
    refine ⟨hcall, harguments, fun a ha b hb => ?_⟩
    obtain ⟨k, inner, -, hpath⟩ := exists_step_of_mem_checkArguments hb
    have hlt : path ++ [] < path ++ k :: inner := List.append_left_lt (List.nil_lt_cons k inner)
    rw [List.append_nil] at hlt
    rw [Issue.Before, path_of_callIssue? (Option.mem_toList.mp ha), hpath]
    exact hlt

end

/-! ### The report -/

theorem IsReport.nodup_paths {rules : Rules} {e : Value} {issues : List Issue} (h : IsReport rules e issues) :
    (issues.map Issue.path).Nodup := by
  refine List.pairwise_map.mpr (h.sorted.imp fun {a b} hlt heq => ?_)
  rw [Issue.Before, heq] at hlt
  exact List.lt_irrefl _ hlt

theorem IsReport.nodup {rules : Rules} {e : Value} {issues : List Issue} (h : IsReport rules e issues) : issues.Nodup :=
  List.Pairwise.of_map Issue.path (fun _ _ hne heq => hne (congrArg Issue.path heq)) h.nodup_paths

/-- **There is one report**: the order leaves no choice. -/
theorem IsReport.eq {rules : Rules} {e : Value} {issues issues' : List Issue} (h : IsReport rules e issues)
    (h' : IsReport rules e issues') : issues = issues' := by
  have hperm : issues.Perm issues' :=
    (List.perm_ext_iff_of_nodup h.nodup h'.nodup).mpr fun issue => (h.due issue).trans (h'.due issue).symm
  exact hperm.eq_of_pairwise (fun a b _ _ hlt hgt => absurd hgt (List.lt_asymm hlt)) h.sorted h'.sorted

/-- **What the check reports.**  Over any registry, casts and depth limit: the issues of an expression are those that
are due in it, in the lexicographic order of their places, one for each place at most, and no other list is such a
report. -/
theorem check_isReport (rules : Rules) (e : Value) :
    IsReport rules e (check rules [] e) ∧ ((check rules [] e).map Issue.path).Nodup ∧
      ∀ issues, IsReport rules e issues → issues = check rules [] e := by
  have hreport : IsReport rules e (check rules [] e) := by
    refine ⟨fun issue => ⟨fun h => ?_, mem_check_of_isDue⟩, pairwise_check e []⟩
    exact isDue_of_mem_check e (e.visited_root rules.maxDepth) h
  exact ⟨hreport, hreport.nodup_paths, fun issues h => h.eq hreport⟩

/-- An unknown operator with a literal below it that is no boolean, and a call without its argument. -/
theorem check_isReport_below_unknown :
    let rules : Rules := Dialect.standard.rules 64
    let maybe : Value := .string "maybe"
    let e : Value := .array [.string "perhaps", .array [.string "not", maybe], .array [.string "not"]]
    IsReport rules e [.unknownOperator (.unknownOperator "perhaps") [] (some "perhaps"),
      .literal (.unexpectedValue .boolean maybe) [1, 1] "not",
      .argumentCount (.argumentCount "not" 1 (some 1) 0) [2] "not"] ∧
      ∀ issues, IsReport rules e issues → issues.length = 3 := by
  intro rules maybe e
  obtain ⟨hreport, -, hunique⟩ := check_isReport rules e
  refine ⟨hreport, fun issues h => ?_⟩
  rw [hunique issues h]
  rfl

end FormLogic
