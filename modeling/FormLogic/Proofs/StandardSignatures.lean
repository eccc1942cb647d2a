import FormLogic.Proofs.Accesses
import FormLogic.Proofs.StandardCalls
import FormLogic.Proofs.Words
import Mathlib.Tactic.ByContra
/-!
# The standard operators keep to their signatures

Given arguments that its signature allows, a standard operator runs into no fault; it fails for reasons of its own, or
gives what it declares (`Registry.standard_keeps_signature`).  The exceptions are the operators that hand on data as
they find it, from the host or from the caller.  So these alone can fail in the cast of the result, and nothing but the
three words is changed by it.
-/
namespace FormLogic

/-- **The operators that hand on data** as they find it. -/
def Builtin.handingOn : List Builtin := [.argv, .dataModel, .component, .value, .frontendSettings]

/-- Only the choice and the operators that hand on data declare nothing in particular. -/
theorem Builtin.returns_eq_any {b : Builtin} : b.signature.returns = .any ↔ b = .choose ∨ b ∈ handingOn := by
  cases b <;> decide

/-- **Arguments that a signature allows** in a call to `name`: as many as it admits, and each null or of its kind. -/
structure Signature.Allows (s : Signature) (name : String) (args : List Value) : Prop where
  count : s.checkCount name args.length = .ok ()
  kinds : ∀ index v, args[index]? = some v → ∃ kind, s.kindAt name index = .ok kind ∧ (v = .null ∨ v.HasKind kind)

theorem Signature.Allows.admits {s : Signature} {name : String} {args : List Value} (h : s.Allows name args) :
    s.admits args.length = true := by
  by_contra hadmits
  have hcount := h.count
  rw [checkCount, if_neg hadmits] at hcount
  cases hcount

/-- **Arrays and objects**, which are of no kind. -/
def Value.IsNested (v : Value) : Prop := (∃ items, v = .array items) ∨ ∃ members, v = .object members

theorem Value.null_or_scalar_or_nested (v : Value) : v = .null ∨ v.HasKind .any ∨ v.IsNested := by
  cases v with
  | null => exact .inl rfl
  | bool b => exact .inr (.inl rfl)
  | number n => exact .inr (.inl rfl)
  | string s => exact .inr (.inl rfl)
  | array items => exact .inr (.inr (.inl ⟨items, rfl⟩))
  | object members => exact .inr (.inr (.inr ⟨members, rfl⟩))

theorem Value.not_scalar_of_typeName {v : Value} (h : v.typeName = "array" ∨ v.typeName = "object") :
    ¬ v.HasKind .any := by
  cases v with
  | array items => exact Bool.false_ne_true
  | object members => exact Bool.false_ne_true
  | _ => simp [typeName] at h

/-- **What the standard table casts** is null or a scalar. -/
theorem CastTable.scalar_of_standard_cast {v w : Value} {kind : Kind} (h : standard.cast v kind = .ok w) :
    v = .null ∨ v.HasKind .any := by
  obtain ⟨rule, -, ⟨hnull, -, -⟩ | ⟨source, hsource, -, -⟩⟩ := cast_eq_ok.mp h
  · exact .inl hnull
  · have hsome : v.kind?.isSome = true := by rw [hsource, Option.isSome_some]
    exact .inr hsome

/-- **What is chosen** is one of the two values between which there is a choice, or null. -/
theorem Logic.choose_eq_ok {args : List Value} {raw : Value} (h : choose args = .ok raw) :
    raw = .null ∨ args[1]? = some raw ∨ args[3]? = some raw := by
  unfold choose at h
  split at h
  · rename_i condition value
    cases htrue : condition.isTrue <;> rw [htrue] at h <;> cases h
    · exact .inl rfl
    · exact .inr (.inl rfl)
  · rename_i condition value otherwise
    cases htrue : condition.isTrue <;> rw [htrue] at h <;> cases h
    · exact .inr (.inr rfl)
    · exact .inr (.inl rfl)
  · cases h

/-- **What a standard operator gives** before the cast of its result. -/
structure Builtin.Gives (b : Builtin) (args : List Value) (raw : Value) : Prop where
  declared : raw = .null ∨ raw.HasKind b.signature.returns ∨ (b ∈ handingOn ∧ raw.IsNested)
  chosen : b = .choose → raw = .null ∨ (raw ∈ args ∧ raw.HasKind .any)

section
variable {b : Builtin} {args : List Value} {scope : Scope} {raw v : Value} {cause : Cause}

theorem Builtin.chosen_of_run (hargs : Builtin.choose.signature.Allows Builtin.choose.name args)
    (h : Logic.choose args = .ok raw) : raw = .null ∨ (raw ∈ args ∧ raw.HasKind .any) := by
  have hargument : ∀ index, Builtin.choose.signature.kindAt Builtin.choose.name index = .ok .any →
      args[index]? = some raw → raw = .null ∨ (raw ∈ args ∧ raw.HasKind .any) := by
    intro index hkind hget
    obtain ⟨kind, hkind', hraw⟩ := hargs.kinds index raw hget
    rw [hkind] at hkind'
    cases hkind'
    exact hraw.imp_right fun hany => ⟨List.mem_of_getElem? hget, hany⟩
  rcases Logic.choose_eq_ok h with hnull | hfirst | hsecond
  · exact .inl hnull
  · exact hargument 1 rfl hfirst
  · exact hargument 3 rfl hsecond

theorem Builtin.gives_of_run (hargs : b.signature.Allows b.name args) (h : b.run args scope = .ok raw) :
    b.Gives args raw := by
  have hchosen : b = .choose → raw = .null ∨ (raw ∈ args ∧ raw.HasKind .any) := by
    rintro rfl
    exact chosen_of_run hargs h
  refine ⟨?_, hchosen⟩
  by_cases hany : b.signature.returns = .any
  · rw [hany]
    rcases returns_eq_any.mp hany with hb | hb
    · exact (hchosen hb).imp_right fun hraw => .inl hraw.2
    · exact raw.null_or_scalar_or_nested.imp_right (Or.imp_right fun hnested => ⟨hb, hnested⟩)
  · exact (run_givesKind args scope hany raw h).imp_right .inl

/-- **The cast of a result fails only for arrays and objects** that were handed on. -/
theorem Builtin.Gives.cast_eq_error (h : b.Gives args raw)
    (hcast : CastTable.standard.cast raw b.signature.returns = .error cause) :
    b ∈ handingOn ∧ raw.IsNested ∧ cause = .unknownSource raw.typeName b.signature.returns := by
  rcases CastTable.standard_cast_eq_error hcast with ⟨hcause, htype⟩ | ⟨-, hreturns, hnull, hother⟩
  · rcases h.declared with rfl | hkind | ⟨hb, hnested⟩
    · cases hcast
    · exact absurd hkind.any (Value.not_scalar_of_typeName htype)
    · exact ⟨hb, hnested, hcause⟩
  · rcases h.declared with hraw | hkind | ⟨hb, -⟩
    · exact absurd hraw hnull
    · exact absurd hkind hother
    · rw [returns_eq_any.mpr (.inr hb)] at hreturns
      rcases hreturns with hreturns | hreturns <;> cases hreturns

/-- **The cast of a result changes nothing but the three words.** -/
theorem Builtin.Gives.isWord_of_cast (h : b.Gives args raw)
    (hcast : CastTable.standard.cast raw b.signature.returns = .ok v) (hne : v ≠ raw) :
    ∃ s, raw = .string s ∧ Text.IsWord s := by
  by_contra hword
  have hsettled : ∀ s, raw = .string s → Text.IsSettled s := fun s hs =>
    Text.isSettled_of_not_isWord fun hs' => hword ⟨s, hs, hs'⟩
  have hkinded : raw = .null ∨ raw.HasKind b.signature.returns := by
    rcases h.declared with hnull | hkind | ⟨hb, -⟩
    · exact .inl hnull
    · exact .inr hkind
    · rw [returns_eq_any.mpr (.inr hb)]
      exact CastTable.scalar_of_standard_cast hcast
  have hfits : raw.Fits b.signature.returns := ⟨hkinded, fun _ => hsettled⟩
  have hcast' := CastTable.standard_cast_of_fits hfits
  rw [hcast] at hcast'
  cases hcast'
  exact hne rfl

end

/-- **The standard operators keep to their signatures.**  Given arguments that its signature allows, a standard operator
runs into no fault, whatever the host and the node are.  It fails with one of the four causes that operators have, or it
gives null or what it declares: the choice gives one of its arguments, and only the operators that hand on data can give
an array or an object.  The cast of the result then fails for these alone, and changes nothing but the three words. -/
theorem Registry.standard_keeps_signature {name : String} {operator : Operator}
    (hget : Registry.standard.get? name = some operator) {args : List Value}
    (hargs : operator.signature.Allows name args) (frame : Frame) :
    ∃ b : Builtin, b.name = name ∧ b.operator = operator ∧
      b.runGuarded args frame.scope = Guarded.answer (operator.run args frame) ∧
      ((∃ cause, operator.run args frame = .error cause ∧ cause.OfOperator) ∨
        ∃ raw, operator.run args frame = .ok raw ∧ b.Gives args raw ∧
          (∀ cause, CastTable.standard.cast raw operator.signature.returns = .error cause →
            b ∈ Builtin.handingOn ∧ raw.IsNested ∧ cause = .unknownSource raw.typeName operator.signature.returns) ∧
          ∀ v, CastTable.standard.cast raw operator.signature.returns = .ok v → v ≠ raw →
            ∃ s, raw = .string s ∧ Text.IsWord s) := by
  obtain ⟨b, rfl, rfl⟩ := exists_builtin_of_get? hget
  refine ⟨b, rfl, rfl, Builtin.runGuarded_eq hargs.admits frame.scope, ?_⟩
  cases hrun : b.run args frame.scope with
  | error cause => exact .inl ⟨cause, hrun, (b.run_failsOnly args frame.scope cause hrun).ofOperator⟩
  | ok raw =>
    have hgives := Builtin.gives_of_run hargs hrun
    exact .inr ⟨raw, hrun, hgives, fun _ => hgives.cast_eq_error, fun _ => hgives.isWord_of_cast⟩

/-- A text found after three characters, one of them of two bytes: its position is counted in characters. -/
theorem Registry.standard_keeps_signature_position :
    Registry.standard.get? "stringIndexOf" = some Builtin.stringIndexOf.operator ∧
      Builtin.stringIndexOf.signature.Allows "stringIndexOf" [.string "blåbær", .string "bær"] ∧
      Builtin.stringIndexOf.runGuarded [.string "blåbær", .string "bær"] ⟨.none, .detached, []⟩
        = Guarded.answer (.ok (.ofNat 3)) := by
  have hget : Registry.standard.get? "stringIndexOf" = some Builtin.stringIndexOf.operator :=
    Registry.standard_get? .stringIndexOf
  have hargs : Builtin.stringIndexOf.signature.Allows "stringIndexOf" [.string "blåbær", .string "bær"] := by
    refine ⟨rfl, ?_⟩
    rintro (_ | _ | index) v hv <;> cases hv <;> exact ⟨.string, rfl, .inr rfl⟩
  obtain ⟨b, hname, -, hguarded, -⟩ :=
    Registry.standard_keeps_signature hget hargs ⟨.null, [], ⟨.none, .detached, []⟩, ⟨.empty, .standard, 64⟩⟩
  have hb : b = .stringIndexOf := Builtin.name_injective hname
  rw [hb] at hguarded
  exact ⟨hget, hargs, hguarded⟩

end FormLogic
