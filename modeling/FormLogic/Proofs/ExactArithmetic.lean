import FormLogic.Proofs.IntegerTexts
import FormLogic.Proofs.Slices
import FormLogic.Proofs.StandardCalls
import Mathlib.Algebra.BigOperators.Group.List.Basic
import Mathlib.Data.List.Forall2
/-!
# Exact arithmetic on integers

An integer of at most 53 bits is a double, so doubles that are integers are added and multiplied exactly as long as the
result is such an integer again (`Double.IsInteger.add`, `Double.IsInteger.mul`).  A sum or a product of many is taken
from the left, and so it is exact where all that is met on the way is small enough (`Double.foldl_isInteger`).  The
result is then an integer in data too, and no float (`Dialect.standard_arithmetic_integers`).
-/
namespace FormLogic
namespace Double

section
variable {x y : Double} {i j : Int} {n : Nat}

/-- An integer as a sign and a number of ones. -/
theorem IsInteger.exists_parts (h : x.IsInteger i) :
    ∃ z : FiniteDouble, x = .finite z ∧ z.units = i.natAbs * oneInUnits ∧
      i = if z.negative then -(i.natAbs : Int) else i.natAbs := by
  obtain ⟨z, rfl, hunits⟩ := h
  have hone : (0 : Int) < oneInUnits := by exact_mod_cast oneInUnits_pos
  have habs : z.units = i.natAbs * oneInUnits := by
    rw [← Int.natAbs_natCast oneInUnits, ← Int.natAbs_mul, ← hunits, FiniteDouble.signedUnits]
    split_ifs
    · rw [Int.natAbs_neg, Int.natAbs_natCast]
    · rw [Int.natAbs_natCast]
  refine ⟨z, rfl, habs, Int.eq_of_mul_eq_mul_right (Int.ne_of_gt hone) ?_⟩
  rw [← hunits, FiniteDouble.signedUnits, habs]
  split_ifs
  · rw [Int.natCast_mul, Int.neg_mul]
  · rw [Int.natCast_mul]

/-- **A number of ones is an integer**, if it has at most 53 bits. -/
theorem isInteger_ofUnits (negative : Bool) (h : n ≤ 2 ^ 53) :
    (ofUnits negative (n * oneInUnits)).IsInteger (if negative then -(n : Int) else n) := by
  have hrepresentable : Representable (n * oneInUnits) := by
    rw [← wholeUnits_exact h]
    exact representable_wholeUnits (Nat.le_trans h (by decide))
  refine ⟨_, ofUnits_of_representable hrepresentable, ?_⟩
  rw [FiniteDouble.signedUnits]
  split_ifs
  · rw [Int.natCast_mul, Int.neg_mul]
  · rw [Int.natCast_mul]

theorem isInteger_ofQuotient_one (negative : Bool) (h : n ≤ 2 ^ 53) :
    (ofQuotient negative (n * oneInUnits) 1).IsInteger (if negative then -(n : Int) else n) := by
  have hround : roundQuotient (n * oneInUnits) 1 = n * oneInUnits := wholeUnits_exact h
  rw [ofQuotient, hround]
  exact isInteger_ofUnits negative h

theorem IsInteger.neg (h : x.IsInteger i) : x.neg.IsInteger (-i) := by
  obtain ⟨z, rfl, hunits⟩ := h
  refine ⟨_, rfl, ?_⟩
  rw [Int.neg_mul, ← hunits, FiniteDouble.signedUnits, FiniteDouble.signedUnits]
  cases z.negative <;> simp

/-- **The sum of two integers is exact** where it has at most 53 bits. -/
theorem IsInteger.add (hx : x.IsInteger i) (hy : y.IsInteger j) (h : (i + j).natAbs ≤ 2 ^ 53) :
    (x.add y).IsInteger (i + j) := by
  obtain ⟨x, rfl, hi⟩ := hx
  obtain ⟨y, rfl, hj⟩ := hy
  have hone : (0 : Int) < oneInUnits := by exact_mod_cast oneInUnits_pos
  have hsum : x.signedUnits + y.signedUnits = (i + j) * oneInUnits := by rw [hi, hj, Int.add_mul]
  rw [Double.add, hsum]
  by_cases hzero : i + j = 0
  · have hexact := isInteger_ofUnits (n := 0) (x.negative && y.negative) (Nat.zero_le _)
    rw [Nat.zero_mul, Nat.cast_zero, Int.neg_zero, ite_self] at hexact
    rwa [hzero, Int.zero_mul, if_pos rfl]
  · have hnot : (i + j) * (oneInUnits : Int) ≠ 0 := Int.mul_ne_zero hzero (Int.ne_of_gt hone)
    have hsign : (i + j) * (oneInUnits : Int) < 0 ↔ i + j < 0 := by
      constructor
      · exact fun hneg => neg_of_mul_neg_left hneg (Int.le_of_lt hone)
      · exact fun hneg => Int.mul_neg_of_neg_of_pos hneg hone
    have hexact := isInteger_ofQuotient_one (decide (i + j < 0)) h
    have hvalue : (if decide (i + j < 0) = true then -((i + j).natAbs : Int) else (i + j).natAbs) = i + j := by
      simp only [decide_eq_true_eq]
      split_ifs <;> omega
    rw [hvalue] at hexact
    rwa [if_neg hnot, decide_eq_decide.mpr hsign, Int.natAbs_mul, Int.natAbs_natCast]

theorem IsInteger.sub (hx : x.IsInteger i) (hy : y.IsInteger j) (h : (i - j).natAbs ≤ 2 ^ 53) :
    (x.sub y).IsInteger (i - j) := hx.add hy.neg h

theorem signed_mul (m n : Bool) (a b : Int) :
    (if (m != n) = true then -(a * b) else a * b) = (if m = true then -a else a) * (if n = true then -b else b) := by
  cases m <;> cases n <;> simp

/-- **The product of two integers is exact** where it has at most 53 bits. -/
theorem IsInteger.mul (hx : x.IsInteger i) (hy : y.IsInteger j) (h : (i * j).natAbs ≤ 2 ^ 53) :
    (x.mul y).IsInteger (i * j) := by
  obtain ⟨x, rfl, hunitsx, hi⟩ := hx.exists_parts
  obtain ⟨y, rfl, hunitsy, hj⟩ := hy.exists_parts
  have hproduct : x.units * y.units = oneInUnits * ((i * j).natAbs * oneInUnits) := by
    rw [hunitsx, hunitsy, Int.natAbs_mul, Nat.mul_mul_mul_comm, Nat.mul_left_comm]
  have hgap : spacing ((i * j).natAbs * oneInUnits) ∣ (i * j).natAbs * oneInUnits := by
    rw [← wholeUnits_exact h]
    exact spacing_dvd_wholeUnits _
  have hexact := isInteger_ofUnits (x.negative != y.negative) h
  rw [Int.natAbs_mul, Nat.cast_mul, signed_mul, ← hi, ← hj, ← Int.natAbs_mul] at hexact
  rwa [Double.mul, ofQuotient, hproduct, roundQuotient_of_dvd oneInUnits_pos hgap]

/-- **An operation that is exact on small integers** is so on many, one after the other, where all results on the way
are small. -/
theorem foldl_isInteger {operation : Double → Double → Double} {exact : Int → Int → Int}
    (hstep : ∀ {x y i j}, x.IsInteger i → y.IsInteger j → (exact i j).natAbs ≤ 2 ^ 53 →
      (operation x y).IsInteger (exact i j)) :
    ∀ {integers : List Int} {x : Double} {i : Int}, x.IsInteger i → (∀ j ∈ integers, j.natAbs ≤ 2 ^ 53) →
      (∀ front, front <+: integers → (front.foldl exact i).natAbs ≤ 2 ^ 53) →
        ((integers.map ofInt).foldl operation x).IsInteger (integers.foldl exact i) := by
  intro integers
  induction integers with
  | nil => exact fun hx _ _ => hx
  | cons j rest ih =>
    intro x i hx hsmall hfronts
    have hlead : ∀ front, front <+: rest → j :: front <+: j :: rest := fun front hfront =>
      List.cons_prefix_cons.mpr ⟨rfl, hfront⟩
    have hj : (ofInt j).IsInteger j := isInteger_ofInt (hsmall j List.mem_cons_self)
    have hnext : (operation x (ofInt j)).IsInteger (exact i j) := hstep hx hj (hfronts [j] (hlead [] List.nil_prefix))
    exact ih hnext (fun k hk => hsmall k (List.mem_cons_of_mem _ hk)) fun front hfront =>
      hfronts (j :: front) (hlead front hfront)

end

section
variable {integers : List Int} (hsmall : ∀ i ∈ integers, i.natAbs ≤ 2 ^ 53)
include hsmall

theorem sum_isInteger (hfronts : ∀ front, front <+: integers → front.sum.natAbs ≤ 2 ^ 53) :
    (sum (integers.map ofInt)).IsInteger integers.sum := by
  simp only [List.sum_eq_foldl] at hfronts ⊢
  exact foldl_isInteger IsInteger.add isInteger_zero hsmall hfronts

theorem product_isInteger (hfronts : ∀ front, front <+: integers → front.prod.natAbs ≤ 2 ^ 53) :
    (product (integers.map ofInt)).IsInteger integers.prod := by
  simp only [List.prod_eq_foldl] at hfronts ⊢
  exact foldl_isInteger IsInteger.mul (isInteger_ofInt (by decide)) hsmall hfronts

end
end Double

namespace Value

/-- **An integer below `2 ^ 53` becomes an integer in data**, zero whatever its sign. -/
theorem ofDouble_of_isInteger {x : Double} {i : Int} (h : x.IsInteger i) (hsmall : i.natAbs < 2 ^ 53) :
    ofDouble x = ofInt i := by
  have hwhole := Double.toInt?_eq_some.mpr h
  obtain ⟨z, rfl, hunits, -⟩ := h.exists_parts
  rw [Double.toInt?] at hwhole
  split_ifs at hwhole with hdivides
  have hbelow : z.units < Nat.pow 2 53 * oneInUnits := by
    rw [hunits]
    exact Nat.mul_lt_mul_of_pos_right hsmall oneInUnits_pos
  rw [ofDouble, Number.ofDouble?, if_pos ⟨hdivides, hbelow⟩, Option.some.inj hwhole]
  rfl

/-- **An argument that writes an integer**: the integer itself, or a number text without a fraction. -/
inductive WritesInteger (i : Int) : Value → Prop where
  | number : WritesInteger i (.ofInt i)
  | text {t : NumberText} (hplain : t.IsPlain) (hwhole : t.fraction = none) (hvalue : t.toInt = i) :
      WritesInteger i (.string t.write)

/-- **A literal that stands for a number** or for null. -/
def IsNumeric (v : Value) : Prop := v.items? = none ∧ ∃ w, CastTable.standard.cast v .number = .ok w

variable {v : Value} {i : Int}

theorem WritesInteger.cast_eq (h : v.WritesInteger i) (hsmall : i.natAbs < 2 ^ 53) :
    v.items? = none ∧ CastTable.standard.cast v .number = .ok (.ofInt i) := by
  cases h with
  | number => exact ⟨rfl, rfl⟩
  | @text t hplain hwhole hvalue =>
    have hrange : -(Nat.pow 2 63 : Int) ≤ t.toInt ∧ t.toInt < Nat.pow 2 63 := by
      simp only [Nat.pow_eq]
      omega
    refine ⟨rfl, (CastTable.standard_cast_of_kind rfl).mpr ?_⟩
    show ofNumberText? t.write = some (.ofInt i)
    rw [ofNumberText?, NumberText.parse?_eq_some.mpr ⟨hplain, rfl⟩, Option.map_some, NumberText.value,
      if_pos ⟨Option.isNone_iff_eq_none.mpr hwhole, hrange⟩, hvalue]

end Value

namespace Arithmetic

theorem overAll_ofInt (operation : List Double → Double) (integers : List Int) :
    overAll operation (integers.map .ofInt) = .ofDouble (operation (integers.map Double.ofInt)) := by
  have hall : (integers.map Value.ofInt).mapM Value.double? = some (integers.map Double.ofInt) := by
    induction integers with
    | nil => rfl
    | cons i rest ih =>
      rw [List.map_cons, List.mapM_cons, ih]
      rfl
  rw [overAll, hall]

/-- **An operation on all arguments is null** where one of them is. -/
theorem overAll_null (operation : List Double → Double) {args : List Value} (h : .null ∈ args) :
    overAll operation args = .null := by
  have hnone : args.mapM Value.double? = none := by
    induction args with
    | nil => exact absurd h List.not_mem_nil
    | cons v rest ih =>
      rw [List.mapM_cons]
      rcases List.mem_cons.mp h with rfl | hrest
      · rfl
      · rw [ih hrest]
        cases v.double? <;> rfl
  rw [overAll, hnone]

theorem subtract_ofInt (a b : Int) : subtract [.ofInt a, .ofInt b] = .ofDouble ((Double.ofInt a).sub (.ofInt b)) := rfl

theorem subtract_null {v w : Value} (h : v = .null ∨ w = .null) : subtract [v, w] = .null := by
  have hv : Arguments.number? [v, w] 0 = v.double? := rfl
  have hw : Arguments.number? [v, w] 1 = w.double? := rfl
  rw [subtract, hv, hw]
  rcases h with rfl | rfl
  · rfl
  · cases v.double? <;> rfl

end Arithmetic

/-- **Operators on numbers that spread** declare a number at every position. -/
theorem Builtin.kindAt_number {b : Builtin} (h : b.signature = (Signature.fixed [.number, .number] .number).spreading)
    (index : Nat) : b.signature.kindAt b.name index = .ok .number := by
  rw [h]
  rcases index with _ | _ | index <;> rfl

namespace Dialect

section
variable {sources : Sources} {node : Node} {operation : List Double → Double} {b : Builtin}
  (hsignature : b.signature = (Signature.fixed [.number, .number] .number).spreading)
  (hrun : ∀ args scope, b.run args scope = .ok (Arithmetic.overAll operation args))
include hsignature hrun

/-- **An operation on integers**, asked for as a request, gives the integer that it gives exactly. -/
theorem standard_result_of_overAll {args : List Value} {integers : List Int} {i : Int} (hcount : 2 ≤ args.length)
    (hargs : List.Forall₂ (fun v i => v.WritesInteger i ∧ i.natAbs < 2 ^ 53) args integers)
    (hexact : (operation (integers.map Double.ofInt)).IsInteger i) (hsmall : i.natAbs < 2 ^ 53) :
    (standard.evaluate (.array (.string b.name :: args)) sources node {}).result = .ok (.ofInt i) := by
  have hreturns : b.signature.returns = .number := by rw [hsignature]; rfl
  refine standard_result_of_literals (Builtin.kindAt_number hsignature) ?_ ?_
    (hrun (integers.map .ofInt) _) ?_
  · rw [hsignature]
    simpa [Signature.admits, Signature.fixed, Signature.spreading] using hcount
  · exact List.forall₂_map_right_iff.mpr (hargs.imp fun v i h => h.1.cast_eq h.2)
  · rw [Arithmetic.overAll_ofInt, Value.ofDouble_of_isInteger hexact hsmall, hreturns]
    rfl

/-- **An operation on all arguments**, asked for as a request, gives null where one of them is null. -/
theorem standard_result_of_overAll_null {args : List Value} (hcount : 2 ≤ args.length)
    (hargs : ∀ v ∈ args, v.IsNumeric) (hnull : .null ∈ args) :
    (standard.evaluate (.array (.string b.name :: args)) sources node {}).result = .ok .null := by
  have hcast : ∀ v ∈ args, ∃ w, v.items? = none ∧ CastTable.standard.cast v .number = .ok w := fun v hv =>
    exists_and_left.mpr (hargs v hv)
  choose! cast hcast using hcast
  have hnull' : cast .null = .null := (Except.ok.inj (hcast .null hnull).2).symm
  have hvalues : .null ∈ args.map cast := List.mem_map.mpr ⟨.null, hnull, hnull'⟩
  refine standard_result_of_literals (Builtin.kindAt_number hsignature) ?_ ?_ (hrun (args.map cast) _) ?_
  · rw [hsignature]
    simpa [Signature.admits, Signature.fixed, Signature.spreading] using hcount
  · exact List.forall₂_map_right_iff.mpr (List.forall₂_same.mpr hcast)
  · rw [Arithmetic.overAll_null operation hvalues]
    rfl

end

/-- **Arithmetic on integers below `2 ^ 53` is exact.**  The arguments are integers, or texts that write such.  A sum or
a product is taken from the left; where each that is met on the way is below `2 ^ 53` in magnitude, the result is the
sum or the product as an integer.  So is a difference that is below `2 ^ 53`.  And where an argument is null, the result
is. -/
theorem standard_arithmetic_integers (sources : Sources) (node : Node) :
    (∀ args integers, 2 ≤ args.length →
      List.Forall₂ (fun v i => v.WritesInteger i ∧ i.natAbs < 2 ^ 53) args integers →
        ((∀ front, front <+: integers → front.sum.natAbs < 2 ^ 53) →
          (standard.evaluate (.array (.string "add" :: args)) sources node {}).result = .ok (.ofInt integers.sum)) ∧
        ((∀ front, front <+: integers → front.prod.natAbs < 2 ^ 53) →
          (standard.evaluate (.array (.string "multiply" :: args)) sources node {}).result
            = .ok (.ofInt integers.prod))) ∧
      (∀ v w a b, v.WritesInteger a → w.WritesInteger b → a.natAbs < 2 ^ 53 → b.natAbs < 2 ^ 53 →
        (a - b).natAbs < 2 ^ 53 →
          (standard.evaluate (.array [.string "subtract", v, w]) sources node {}).result = .ok (.ofInt (a - b))) ∧
      (∀ args, 2 ≤ args.length → (∀ v ∈ args, v.IsNumeric) → .null ∈ args →
        (standard.evaluate (.array (.string "add" :: args)) sources node {}).result = .ok .null ∧
        (standard.evaluate (.array (.string "multiply" :: args)) sources node {}).result = .ok .null) ∧
      ∀ v w : Value, v.IsNumeric → w.IsNumeric → v = .null ∨ w = .null →
        (standard.evaluate (.array [.string "subtract", v, w]) sources node {}).result = .ok .null := by
  refine ⟨fun args integers hcount hargs => ?_, fun v w a b hv hw ha hb hsmall => ?_,
    fun args hcount hargs hnull => ?_, fun v w hv hw hnull => ?_⟩
  · have hpairs : List.Forall₂ (fun i v => i.natAbs ≤ 2 ^ 53 ∧ v.WritesInteger i) integers args :=
      hargs.flip.imp fun i v h => ⟨Nat.le_of_lt h.2, h.1⟩
    have hsmall : ∀ i ∈ integers, i.natAbs ≤ 2 ^ 53 := ((List.forall₂_and_left _ _).mp hpairs).1
    refine ⟨fun hfronts => ?_, fun hfronts => ?_⟩
    · exact standard_result_of_overAll (b := .add) rfl (fun _ _ => rfl) hcount hargs
        (Double.sum_isInteger hsmall fun front hfront => Nat.le_of_lt (hfronts front hfront))
        (hfronts integers (List.prefix_refl _))
    · exact standard_result_of_overAll (b := .multiply) rfl (fun _ _ => rfl) hcount hargs
        (Double.product_isInteger hsmall fun front hfront => Nat.le_of_lt (hfronts front hfront))
        (hfronts integers (List.prefix_refl _))
  · obtain ⟨hv, hcastv⟩ := hv.cast_eq ha
    obtain ⟨hw, hcastw⟩ := hw.cast_eq hb
    have hexact := (Double.isInteger_ofInt (Nat.le_of_lt ha)).sub (Double.isInteger_ofInt (Nat.le_of_lt hb))
      (Nat.le_of_lt hsmall)
    have hraw : Arithmetic.subtract [.ofInt a, .ofInt b] = .ofInt (a - b) := by
      rw [Arithmetic.subtract_ofInt, Value.ofDouble_of_isInteger hexact hsmall]
    have hrun : Builtin.subtract.run [.ofInt a, .ofInt b] ⟨sources, node, []⟩ = .ok (.ofInt (a - b)) := by
      rw [← hraw]
      rfl
    exact standard_result_of_two (b := .subtract) rfl hv hw hcastv hcastw hrun rfl
  · exact ⟨standard_result_of_overAll_null (b := .add) rfl (fun _ _ => rfl) hcount hargs hnull,
      standard_result_of_overAll_null (b := .multiply) rfl (fun _ _ => rfl) hcount hargs hnull⟩
  · obtain ⟨hv, v', hcastv⟩ := hv
    obtain ⟨hw, w', hcastw⟩ := hw
    have hnull' : v' = .null ∨ w' = .null := by
      rcases hnull with rfl | rfl
      · exact .inl (Except.ok.inj hcastv).symm
      · exact .inr (Except.ok.inj hcastw).symm
    exact standard_result_of_two (b := .subtract) rfl hv hw hcastv hcastw
      (congrArg Except.ok (Arithmetic.subtract_null hnull')) rfl

/-- A sum at the limit, with a number text among its terms, and a negative number times zero. -/
theorem standard_arithmetic_integers_limit :
    (Value.string "-007").WritesInteger (-7) ∧ (Value.string "-0").WritesInteger 0 ∧
      (standard.evaluate (.array [.string "add", .ofInt 9007199254740991, .string "-007", .ofInt 7])
          .none .detached {}).result
        = .ok (.ofInt 9007199254740991) ∧
      (standard.evaluate (.array [.string "multiply", .ofInt (-3), .string "-0"]) .none .detached {}).result
        = .ok (.ofInt 0) := by
  obtain ⟨hexact, -⟩ := standard_arithmetic_integers .none .detached
  have hseven : (Value.string "-007").WritesInteger (-7) :=
    .text (t := ⟨true, ['0', '0', '7'], none⟩) ⟨rfl, nofun⟩ rfl rfl
  have hzero : (Value.string "-0").WritesInteger 0 := .text (t := ⟨true, ['0'], none⟩) ⟨rfl, nofun⟩ rfl rfl
  have hfronts : ∀ {integers : List Int} {measure : List Int → Int},
      (∀ front ∈ integers.inits, (measure front).natAbs < 2 ^ 53) →
        ∀ front, front <+: integers → (measure front).natAbs < 2 ^ 53 := fun h front hfront =>
    h front ((List.mem_inits _ _).mpr hfront)
  refine ⟨hseven, hzero, (hexact _ [9007199254740991, -7, 7] (by decide) ?_).1 (hfronts (by decide)),
    (hexact _ [-3, 0] (by decide) ?_).2 (hfronts (by decide))⟩
  · exact .cons ⟨.number, by decide⟩ (.cons ⟨hseven, by decide⟩ (.cons ⟨.number, by decide⟩ .nil))
  · exact .cons ⟨.number, by decide⟩ (.cons ⟨hzero, by decide⟩ .nil)

end Dialect
end FormLogic
