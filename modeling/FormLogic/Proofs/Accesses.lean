import FormLogic.Operator.Access
import FormLogic.Proofs.ShortestDecimals
import Mathlib.Tactic.SplitIfs
/-!
# No access is out of range

With as many arguments as its signature admits, a standard operator makes no access out of range, and with its accesses
it computes what it computes without (`Builtin.runGuarded_eq`).  An argument is there because the signature asks for it;
a range ends where its text ends; and a text is taken apart after an occurrence, or between digits, of which each is one
byte.
-/
namespace FormLogic

/-- An argument that is missing is no text, and neither is null. -/
theorem Arguments.text?_eq (args : List Value) (position : Nat) :
    text? args position = (value args position).string? := by
  rw [text?, value, List.getD_eq_getElem?_getD]
  cases args[position]? <;> rfl

namespace Access

section
variable {args : List Value}

theorem item_eq {position : Nat} (h : position < args.length) :
    item args position = .ok (Arguments.value args position) := by
  simp [item, Arguments.value, h]

section
variable {text : List Char} {first last : Nat}

theorem range_eq (hfirst : first ≤ last) (hlast : last ≤ text.length) :
    range text first last = .ok (Text.slice first (last - first) text) := if_pos ⟨hfirst, hlast⟩

theorem range_to_end (h : first ≤ text.length) : range text first text.length = .ok (text.drop first) := by
  rw [range_eq h (Nat.le_refl _), Text.slice, List.take_of_length_le (by rw [List.length_drop])]

/-- A length that is too great is cut at the end of the text. -/
theorem range_of_length (h : first ≤ text.length) (n : Nat) :
    range text first (min (first + min n text.length) text.length) = .ok (Text.slice first n text) := by
  have htake : Text.slice first (min (first + min n text.length) text.length - first) text =
      Text.slice first n text := by
    rw [Text.slice, Text.slice, List.take_eq_take_iff, List.length_drop]
    omega
  rw [range_eq (by omega) (by omega), htake]

end

/-- A text of one-byte characters may be taken apart at every position. -/
theorem split_eq {text : List Char} {position : Nat} (hsmall : ∀ c ∈ text, c.utf8Size = 1)
    (h : position ≤ text.length) : split text position = .ok (text.take position, text.drop position) := by
  have hbytes : Text.byteLength (text.take position) = position := by
    rw [Text.byteLength_of_small fun c hc => hsmall c (List.mem_of_mem_take hc), List.length_take, Nat.min_eq_left h]
  have hsplit := Text.splitAtByte?_append (text.drop position) (text.take position)
  rw [List.take_append_drop, hbytes] at hsplit
  rw [split, hsplit]

theorem count_eq {n : Int} (h : 0 ≤ n) : count n = .ok n.toNat := if_pos h

/-! ## Texts of numbers -/

theorem utf8Size_of_isNumberChar {c : Char} (h : isNumberChar c = true) : c.utf8Size = 1 := by
  simp only [isNumberChar, Bool.or_eq_true, decide_eq_true_eq] at h
  rcases h with (((h | rfl) | rfl) | rfl) | rfl
  · simp only [Char.isDigit, Bool.and_eq_true, decide_eq_true_eq, UInt32.le_iff_toNat_le] at h
    exact Char.utf8Size_eq_one_iff.mpr (UInt32.le_iff_toNat_le.mpr (Nat.le_trans h.2 (by decide)))
  · rfl
  · rfl
  · rfl
  · rfl

theorem plain_write_positional {d : Decimal} (h : -6 ≤ d.exponent ∧ d.exponent ≤ 20) :
    Layout.plain.write d = Layout.plain.writePositional d := if_pos h

theorem plain_write_scientific {d : Decimal} (h : ¬ (-6 ≤ d.exponent ∧ d.exponent ≤ 20)) :
    Layout.plain.write d = Layout.writeScientific d := if_neg h

/-- **The plain layout** takes digits apart only where there are some. -/
theorem plainBody_eq {d : Decimal} (hdigits : d.digits ≠ []) (hsmall : ∀ c ∈ d.digits, c.utf8Size = 1) :
    plainBody d = .ok (Layout.plain.write d) := by
  have hpos : 0 < d.digits.length := List.length_pos_iff.mpr hdigits
  have hcount : Text.byteLength d.digits = d.digits.length := Text.byteLength_of_small hsmall
  unfold plainBody
  dsimp only
  rw [hcount]
  by_cases hzeros : (d.digits.length : Int) ≤ d.exponent + 1 ∧ d.exponent + 1 ≤ 21
  · have hcounts : (d.exponent + 1 - (d.digits.length : Int)).toNat = (d.exponent + 1).toNat - d.digits.length := by
      omega
    rw [if_pos hzeros, count_eq (by omega), hcounts, plain_write_positional (by omega), Layout.writePositional,
      if_pos hzeros.1]
    exact congrArg Except.ok (List.append_nil _).symm
  rw [if_neg hzeros]
  by_cases hpoint : 0 < d.exponent + 1 ∧ d.exponent + 1 ≤ 21
  · rw [if_pos hpoint, count_eq (by omega), plain_write_positional (by omega), Layout.writePositional,
      if_neg (by omega), if_pos hpoint.1]
    change (split d.digits (d.exponent + 1).toNat >>= _) = _
    rw [split_eq hsmall (by omega)]
    rfl
  rw [if_neg hpoint]
  by_cases hbefore : -6 < d.exponent + 1 ∧ d.exponent + 1 ≤ 0
  · have hcounts : (d.exponent + 1).natAbs = (-(d.exponent + 1)).toNat := by omega
    rw [if_pos hbefore, plain_write_positional (by omega), Layout.writePositional, if_neg (by omega),
      if_neg (by omega), hcounts]
    rfl
  · have hsign : (if 0 < d.exponent + 1 then '+' else '-') = if d.exponent < 0 then '-' else '+' := by
      split_ifs <;> first | rfl | omega
    rw [if_neg hbefore, split_eq hsmall hpos, plain_write_scientific (by omega), Layout.writeScientific, hsign,
      Int.add_sub_cancel]
    rfl

theorem plainFinite_eq (x : FiniteDouble) : plainFinite x = .ok (Layout.plain.writeFinite x) := by
  unfold plainFinite Layout.writeFinite
  by_cases hzero : x.units = 0
  · rw [if_pos hzero, if_pos hzero, hzero]
    cases x.negative <;> rfl
  · obtain ⟨coefficient, power, hd⟩ := shortestDecimal_eq .up x.units
    have hsmall : ∀ c ∈ (shortestDecimal .up x.units).digits, c.utf8Size = 1 := by
      rw [hd]
      exact fun c hc => utf8Size_of_isNumberChar
        (List.all_eq_true.mp (Decimal.all_isNumberChar_ofCoefficient coefficient power) c hc)
    have hsigned : (x.negative && (x.units != 0 || Layout.plain.signedZero)) = x.negative := by
      simp [hzero]
    rw [if_neg hzero, if_neg hzero, plainBody_eq (digits_shortestDecimal_ne_nil .up hzero) hsmall, hsigned]
    rfl

theorem plainDouble_eq (x : Double) : plainDouble x = .ok (Layout.plain.writeDouble x) := by
  cases x with
  | finite x => exact plainFinite_eq x
  | infinite negative => rfl
  | undefined => rfl

theorem plainText_eq (v : Value) : plainText v = .ok (Lookup.plainText v) := by
  unfold plainText
  split
  · rw [plainFinite_eq]
    rfl
  · rfl

/-! ## Operators that answer -/

theorem equal_eq (h : 2 ≤ args.length) : equal args = .ok (Comparison.equal args) := by
  rw [equal, item_eq (by omega), item_eq (by omega)]
  rfl

theorem indexOf_eq (args : List Value) : indexOf args = .ok (Strings.indexOf args) := by
  unfold indexOf Strings.indexOf
  cases Arguments.text? args 0 with
  | none => rfl
  | some s =>
    cases Arguments.text? args 1 with
    | none => rfl
    | some t =>
      dsimp only
      cases h : Text.byteIndexOf? t.toList s.toList with
      | none =>
        rw [Text.byteIndexOf?_eq, Option.map_eq_none_iff] at h
        rw [h]
        rfl
      | some byte =>
        obtain ⟨position, hposition, hsplit⟩ := Text.splitAtByte?_of_byteIndexOf? h
        have hlength : (s.toList.take position).length = position := by
          rw [List.length_take, Nat.min_eq_left (Text.indexOf?_le_length hposition)]
        simp only [hposition, split, hsplit]
        show Except.ok (Value.ofNat (s.toList.take position).length) = _
        rw [hlength]

theorem sliceStart_le (total : Nat) (start : Int) : Strings.sliceStart total start ≤ total := by
  unfold Strings.sliceStart
  split
  · exact Nat.min_le_right _ _
  · omega

theorem slice_eq (s : String) (start : Int) (length : Option Nat) :
    slice s start length = .ok (Strings.slice s start length) := by
  have hstart := sliceStart_le s.toList.length start
  unfold slice Strings.slice
  cases length with
  | none =>
    dsimp only [Option.elim]
    rw [range_to_end hstart]
    rfl
  | some n =>
    dsimp only [Option.elim]
    rw [range_of_length hstart]
    rfl

theorem label?_eq (sources : Sources) (list : ChoiceList) (wanted : String) :
    label? sources list wanted = .ok (Lookup.label? sources list wanted) := by
  have hfind : (list.choices.findM? fun choice =>
      (do return (← plainText choice.value) = some wanted : Except Fault Bool))
      = .ok (list.choices.find? fun choice => Lookup.plainText choice.value = some wanted) := by
    simp only [plainText_eq]
    exact List.findM?_pure _ _
  rw [label?, hfind]
  rfl

theorem formatNumber_eq (args : List Value) (scope : Scope) :
    formatNumber args scope = .ok (Lookup.formatNumber args scope) := by
  unfold formatNumber Lookup.formatNumber
  cases Arguments.number? args 0 with
  | none => rfl
  | some x =>
    dsimp only
    cases scope.sources.formatNumber x with
    | some text => rfl
    | none =>
      rw [plainDouble_eq]
      rfl

end
end Access

namespace Guarded

open Access

theorem answer_bind {α β : Type} {result : Except Cause α} {f : α → Guarded β} {g : α → Except Cause β}
    (h : ∀ a, f a = answer (g a)) : (answer result >>= f) = answer (result >>= g) := by
  cases result with
  | ok a => exact h a
  | error cause => rfl

theorem liftM_ok_bind {α β : Type} (a : α) (f : α → Guarded β) :
    (liftM (Except.ok a : Except Fault α) >>= f : Guarded β) = f a := rfl

section
variable (args : List Value) (scope : Scope)

/-- **The choice reaches for no argument that is not there**, whatever their number. -/
theorem choose_eq : choose args = answer (Logic.choose args) := by
  unfold Logic.choose
  split
  · rename_i condition value
    show (if condition.isTrue then _ else _) = _
    cases condition.isTrue <;> rfl
  · rename_i condition value otherwise
    show (if condition.isTrue then _ else _) = _
    cases condition.isTrue <;> rfl
  · rename_i hpair hquadruple
    have htwo : args.length ≠ 2 := by
      intro hlength
      match args, hlength with
      | [condition, value], _ => exact hpair condition value rfl
    have hfour : ¬ (args.length = 4 ∧ Arguments.text? args 2 = some "else") := by
      rintro ⟨hlength, htext⟩
      match args, hlength with
      | [condition, value, word, otherwise], _ =>
        have hword : word.string? = some "else" := htext
        cases word with
        | string s =>
          cases hword
          exact hquadruple condition value otherwise rfl
        | _ => cases hword
    rw [choose, if_neg htwo, if_neg hfour]
    rfl

theorem stringSlice_eq : stringSlice args = answer (Strings.stringSlice args) := by
  unfold stringSlice Strings.stringSlice
  cases Arguments.text? args 0 with
  | none => rfl
  | some s =>
    dsimp only
    cases ((Arguments.number? args 1).getD .zero).toInt? with
    | none => rfl
    | some start =>
      cases Strings.sliceLength? (Arguments.number? args 2) with
      | none => rfl
      | some length =>
        dsimp only
        rw [slice_eq]
        rfl

theorem displayValue_eq : displayValue args scope = answer (Lookup.displayValue args scope) := by
  refine answer_bind fun id => answer_bind fun found => ?_
  rw [plainText_eq, liftM_ok_bind]
  cases Lookup.plainText (Lookup.boundValue scope.sources found) with
  | none => rfl
  | some text =>
    cases scope.sources.choiceList found.id with
    | none => rfl
    | some list =>
      dsimp only
      rw [label?_eq]
      rfl

theorem optionLabel_eq : optionLabel args scope = answer (Lookup.optionLabel args scope) := by
  refine answer_bind fun id => answer_bind fun found => ?_
  rw [plainText_eq, liftM_ok_bind]
  cases Lookup.plainText (Arguments.value args 1) with
  | none => rfl
  | some wanted =>
    cases scope.sources.choiceList found.id with
    | none => rfl
    | some list =>
      dsimp only
      rw [label?_eq]
      cases list.fetching with
      | true => rfl
      | false => cases Lookup.label? scope.sources list wanted <;> rfl

end
end Guarded

theorem Signature.least_le_of_admits {s : Signature} {count : Nat} (h : s.admits count = true) : s.least ≤ count := by
  simp only [admits, Bool.and_eq_true, decide_eq_true_eq] at h
  exact h.1

open Access in
/-- **A standard operator makes no access out of range**, with as many arguments as its signature admits; and with its
accesses it computes what it computes without. -/
theorem Builtin.runGuarded_eq {b : Builtin} {args : List Value} (hcount : b.signature.admits args.length = true)
    (scope : Scope) : b.runGuarded args scope = Guarded.answer (b.run args scope) := by
  have hleast := Signature.least_le_of_admits hcount
  cases b with
  | equals | notEquals =>
    rw [runGuarded, equal_eq hleast]
    rfl
  | not | isEmpty | isNumber =>
    have hfirst : 0 < args.length := hleast
    rw [runGuarded, item_eq hfirst]
    rfl
  | isString =>
    have hfirst : 0 < args.length := hleast
    rw [runGuarded, item_eq hfirst, run, Presence.isString, Arguments.text?_eq]
    rfl
  | choose => exact Guarded.choose_eq args
  | stringIndexOf =>
    rw [runGuarded, indexOf_eq]
    rfl
  | stringSlice => exact Guarded.stringSlice_eq args
  | displayValue => exact Guarded.displayValue_eq args scope
  | optionLabel => exact Guarded.optionLabel_eq args scope
  | formatNumber =>
    rw [runGuarded, formatNumber_eq]
    rfl
  | _ => rfl

/-- With fewer arguments the fault shows. -/
example : Builtin.equals.runGuarded [.null] ⟨.none, .detached, []⟩ = .mk (.error (.item 1 1)) := rfl

end FormLogic
