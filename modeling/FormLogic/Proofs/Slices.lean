import FormLogic.Operator.WordSlice
import FormLogic.Proofs.Accesses
import FormLogic.Proofs.NumberValues
/-!
# Slices

A slice is the part of a text between two positions, and the positions come from unbounded integers
(`Strings.stringSlice_isPart`).  In a text that fits into memory the words compute the same positions: each number is
cut to the range of its words before it is added to anything, and what the cut takes away lies outside the text.
-/
namespace FormLogic

namespace Double

/-- **The integer that a double is**, exactly. -/
def IsInteger (x : Double) (i : Int) : Prop := ∃ y : FiniteDouble, x = .finite y ∧ y.signedUnits = i * oneInUnits

section
variable {x y : Double} {i j : Int}

theorem toInt?_eq_some : x.toInt? = some i ↔ x.IsInteger i := by
  cases x with
  | finite y =>
    constructor
    · intro h
      rw [toInt?] at h
      split_ifs at h with hwhole
      cases h
      exact ⟨y, rfl, FiniteDouble.signedUnits_truncate hwhole⟩
    · rintro ⟨_, ⟨⟩, hunits⟩
      have hone : (oneInUnits : Int) ≠ 0 := by exact_mod_cast oneInUnits_pos.ne'
      have hdvd : oneInUnits ∣ y.units := by
        have habs : y.units = i.natAbs * oneInUnits := by
          rw [← Int.natAbs_natCast oneInUnits, ← Int.natAbs_mul, ← hunits, FiniteDouble.signedUnits]
          split_ifs <;> simp
        exact ⟨i.natAbs, habs.trans (Nat.mul_comm _ _)⟩
      have hwhole : y.isWhole = true := decide_eq_true (Nat.mod_eq_zero_of_dvd hdvd)
      rw [toInt?, if_pos hwhole]
      rw [FiniteDouble.signedUnits_truncate hwhole] at hunits
      exact congrArg some (Int.eq_of_mul_eq_mul_right hone hunits)
  | infinite | undefined =>
    constructor
    · rintro ⟨⟩
    · rintro ⟨y, ⟨⟩, -⟩

theorem toInt?_eq_none : x.toInt? = none ↔ ∀ i, ¬ x.IsInteger i := by
  rw [Option.eq_none_iff_forall_ne_some]
  simp only [ne_eq, toInt?_eq_some]

theorem isInteger_zero : zero.IsInteger 0 := toInt?_eq_some.mp (by decide +kernel)

/-- An integer of at most 53 bits is a double. -/
theorem isInteger_ofInt (h : i.natAbs ≤ 2 ^ 53) : (ofInt i).IsInteger i :=
  ⟨_, ofInt_eq_nearest (Nat.le_trans h (by decide)), FiniteDouble.signedUnits_nearest_of_small h⟩

theorem IsInteger.lt_iff (hx : x.IsInteger i) (hy : y.IsInteger j) : x.lt y = true ↔ i < j := by
  obtain ⟨x, rfl, hi⟩ := hx
  obtain ⟨y, rfl, hj⟩ := hy
  have hone : (0 : Int) < oneInUnits := by exact_mod_cast oneInUnits_pos
  rw [lt, decide_eq_true_eq, hi, hj]
  exact Int.mul_lt_mul_right hone

theorem IsInteger.lesser (hx : x.IsInteger i) (hy : y.IsInteger j) : (x.lesser y).IsInteger (min i j) := by
  have hlt := hy.lt_iff hx
  have hlesser : x.lesser y = if y.lt x then y else x := by
    obtain ⟨x, rfl, -⟩ := hx
    rfl
  rw [hlesser]
  by_cases h : j < i
  · rw [if_pos (hlt.mpr h), min_eq_right (le_of_lt h)]
    exact hy
  · rw [if_neg (fun hyx => h (hlt.mp hyx)), min_eq_left (not_lt.mp h)]
    exact hx

theorem IsInteger.exists_finite (h : x.IsInteger i) : ∃ y : FiniteDouble, x = .finite y ∧ y.truncate = i := by
  have hint := toInt?_eq_some.mpr h
  obtain ⟨y, rfl, -⟩ := h
  rw [toInt?] at hint
  split_ifs at hint
  exact ⟨y, rfl, Option.some.inj hint⟩

theorem IsInteger.toInt64 (h : x.IsInteger i) : x.toInt64 = .ofIntClamp i := by
  obtain ⟨y, rfl, rfl⟩ := h.exists_finite
  rfl

theorem IsInteger.toUInt64 (h : x.IsInteger i) : x.toUInt64 = .ofNatClamp i.toNat := by
  obtain ⟨y, rfl, rfl⟩ := h.exists_finite
  rfl

end
end Double

namespace Word64

theorem toInt_ofIntClamp (i : Int) : (Int64.ofIntClamp i).toInt = max (-2 ^ 63) (min i (2 ^ 63 - 1)) := by
  have hleast : Int64.minValue.toInt = -2 ^ 63 := rfl
  have hgreatest : Int64.maxValue.toInt = 2 ^ 63 - 1 := Int64.toInt_maxValue
  by_cases hlow : Int64.minValue.toInt ≤ i
  · by_cases hhigh : i ≤ Int64.maxValue.toInt
    · rw [Int64.toInt_ofIntClamp hlow hhigh]
      omega
    · rw [Int64.ofIntClamp, dif_pos hlow, dif_neg hhigh]
      omega
  · rw [Int64.ofIntClamp, dif_neg hlow]
    omega

theorem toNat_ofNatClamp (n : Nat) : (UInt64.ofNatClamp n).toNat = min n (2 ^ 64 - 1) := by
  have hsize : UInt64.size = 2 ^ 64 := rfl
  by_cases h : n < UInt64.size
  · rw [UInt64.toNat_ofNatClamp_of_lt h]
    omega
  · rw [UInt64.toNat_ofNatClamp_of_le (not_lt.mp h)]
    omega

theorem toInt_max (a b : Int64) : (max a b).toInt = max a.toInt b.toInt := by
  have hmax : max a b = if a ≤ b then b else a := rfl
  have hle : a ≤ b ↔ a.toInt ≤ b.toInt := Int64.le_iff_toInt_le
  rw [hmax]
  split_ifs with h <;> rw [hle] at h <;> omega

theorem toInt_min (a b : Int64) : (min a b).toInt = min a.toInt b.toInt := by
  have hmin : min a b = if a ≤ b then a else b := rfl
  have hle : a ≤ b ↔ a.toInt ≤ b.toInt := Int64.le_iff_toInt_le
  rw [hmin]
  split_ifs with h <;> rw [hle] at h <;> omega

/-- A signed word that is not negative is kept by the change to a word without a sign. -/
theorem toNat_toUInt64 {w : Int64} (h : 0 ≤ w.toInt) : (w.toUInt64.toNat : Int) = w.toInt := by
  have hword : w.toUInt64.toNat = w.toNatClampNeg := Int64.toNat_toUInt64_of_le (Int64.le_iff_toInt_le.mpr h)
  rw [hword, Int64.toNatClampNeg, Int.toNat_of_nonneg h]

/-- So is a number of characters by the change to a signed word. -/
theorem toInt_toInt64 {n : Nat} (h : n < 2 ^ 63) : (UInt64.ofNat n).toInt64.toInt = n := by
  rw [UInt64.toInt64_ofNat', Int64.toInt_ofNat_of_lt h]

end Word64

namespace Text

/-- **The part of a text between two positions**, which are the numbers of characters before the part and with it. -/
def IsPart (text : List Char) (first last : Int) (part : List Char) : Prop :=
  ∃ before after, text = before ++ part ++ after ∧ before.length = first ∧ (before ++ part).length = last

end Text

namespace Access

/-- **A range that is there** is the part between its ends. -/
theorem range_eq_ok {text part : List Char} {first last : Nat} :
    range text first last = .ok part ↔ Text.IsPart text first last part := by
  constructor
  · intro h
    rw [range] at h
    split_ifs at h with hbounds
    obtain ⟨hfirst, hlast⟩ := hbounds
    cases h
    have hpart : text.take first ++ Text.slice first (last - first) text = text.take last := by
      rw [Text.slice, ← List.take_add, Nat.add_sub_cancel' hfirst]
    refine ⟨text.take first, text.drop last, ?_, ?_, ?_⟩
    · rw [hpart, List.take_append_drop]
    · rw [List.length_take_of_le (Nat.le_trans hfirst hlast)]
    · rw [hpart, List.length_take_of_le hlast]
  · rintro ⟨before, after, rfl, hbefore, hlast⟩
    have hfirst : first = before.length := (Int.ofNat.inj hbefore).symm
    have hlength : last = before.length + part.length := by
      rw [← List.length_append]
      exact (Int.ofNat.inj hlast).symm
    rw [hfirst, hlength, range_eq (Nat.le_add_right _ _) (by simp), Nat.add_sub_cancel_left, Text.slice,
      List.append_assoc, List.drop_left, List.take_left]

end Access

namespace Strings

/-- **Where a slice starts** in a text of `n` characters: at the given position, but not after the end of the text.  A
negative one counts from the end, but not to before the beginning. -/
def firstOf (n : Nat) (start : Int) : Int := if 0 ≤ start then min start n else max 0 (n + start)

/-- **Where it ends**: after the given length, or at the end of the text. -/
def lastOf (n : Nat) (start : Int) : Option Nat → Int
  | none => n
  | some length => min (firstOf n start + length) n

section
variable {n : Nat} {start : Int} {length : Option Nat}

theorem firstOf_eq : firstOf n start = sliceStart n start := by
  unfold firstOf sliceStart
  split_ifs <;> omega

theorem firstOf_nonneg : 0 ≤ firstOf n start := by
  rw [firstOf_eq]
  exact Int.natCast_nonneg _

theorem firstOf_le : firstOf n start ≤ n := by
  rw [firstOf_eq]
  exact Int.ofNat_le.mpr (Access.sliceStart_le n start)

theorem firstOf_le_lastOf : firstOf n start ≤ lastOf n start length := by
  have hfirst : firstOf n start ≤ n := firstOf_le
  cases length with
  | none => exact hfirst
  | some l =>
    rw [lastOf]
    omega

theorem lastOf_le : lastOf n start length ≤ n := by
  cases length with
  | none => exact le_refl _
  | some l => exact min_le_right _ _

end

/-- **A slice is the part of its text** between the two positions. -/
theorem slice_isPart (s : String) (start : Int) (length : Option Nat) :
    Text.IsPart s.toList (firstOf s.length start) (lastOf s.length start length) (slice s start length).toList := by
  have hstart := Access.sliceStart_le s.toList.length start
  unfold slice
  rw [String.toList_ofList, ← String.length_toList, firstOf_eq]
  cases length with
  | none => exact Access.range_eq_ok.mp (Access.range_to_end hstart)
  | some l =>
    have hlast : lastOf s.toList.length start (some l) =
        (min (sliceStart s.toList.length start + min l s.toList.length) s.toList.length : Nat) := by
      rw [lastOf, firstOf_eq]
      omega
    rw [hlast]
    exact Access.range_eq_ok.mp (Access.range_of_length hstart l)

/-! ## The arguments of a slice -/

/-- **The arguments of a slice that is made**: a text, a whole start, where none counts as zero, and a whole length that
is not negative, or none. -/
structure IsSlice (args : List Value) (s : String) (start : Int) (length : Option Nat) : Prop where
  text : Arguments.text? args 0 = some s
  start : ((Arguments.number? args 1).getD .zero).IsInteger start
  length : Option.Rel (fun x l => x.IsInteger (l : Nat)) (Arguments.number? args 2) length

theorem sliceLength?_eq_some {length : Option Double} {l : Option Nat} :
    sliceLength? length = some l ↔ Option.Rel (fun x l => x.IsInteger (l : Nat)) length l := by
  cases length with
  | none =>
    rw [sliceLength?, Option.some.injEq]
    constructor
    · rintro rfl
      exact .none
    · rintro ⟨⟩
      rfl
  | some x =>
    rw [sliceLength?]
    constructor
    · intro h
      split at h
      · rename_i i hint
        split_ifs at h with hnonneg
        cases h
        refine .some ?_
        rw [Int.toNat_of_nonneg hnonneg]
        exact Double.toInt?_eq_some.mp hint
      · cases h
    · rintro ⟨hx⟩
      rw [Double.toInt?_eq_some.mpr hx]
      simp

theorem IsSlice.stringSlice_eq {args : List Value} {s : String} {start : Int} {length : Option Nat}
    (h : IsSlice args s start length) : stringSlice args = .ok (.string (slice s start length)) := by
  rw [stringSlice, h.text]
  dsimp only
  rw [Double.toInt?_eq_some.mpr h.start, sliceLength?_eq_some.mpr h.length]

/-- A length is refused for its sign or for its fraction. -/
theorem sliceLength?_eq_none {length : Option Double} :
    sliceLength? length = none ↔ ∃ x, length = some x ∧ (x.lt .zero = true ∨ ∀ i, ¬ x.IsInteger i) := by
  cases length with
  | none => simp [sliceLength?]
  | some x =>
    simp only [sliceLength?, Option.some.injEq, exists_eq_left', ← Double.toInt?_eq_none]
    cases hint : x.toInt? with
    | none => simp
    | some i =>
      have hsign : x.lt .zero = true ↔ i < 0 := (Double.toInt?_eq_some.mp hint).lt_iff Double.isInteger_zero
      simp [hsign]

/-- **The refused slices.** -/
theorem stringSlice_eq_error {args : List Value} {cause : Cause} :
    stringSlice args = .error cause ↔
      cause = .invalidArgument "stringSlice" "start must be a whole number and length a non-negative whole number" ∧
        (∃ s, Arguments.text? args 0 = some s) ∧
        ((∀ i, ¬ ((Arguments.number? args 1).getD .zero).IsInteger i) ∨
          ∃ x, Arguments.number? args 2 = some x ∧ (x.lt .zero = true ∨ ∀ i, ¬ x.IsInteger i)) := by
  rw [← Double.toInt?_eq_none, ← sliceLength?_eq_none, stringSlice]
  cases Arguments.text? args 0 with
  | none => simp
  | some s =>
    cases ((Arguments.number? args 1).getD .zero).toInt? with
    | none => simp [eq_comm]
    | some start =>
      cases sliceLength? (Arguments.number? args 2) with
      | none => simp [eq_comm]
      | some length => simp

/-- **A text is its first characters followed by the others.** -/
theorem slice_append (s : String) (k : Nat) : slice s 0 (some k) ++ slice s k none = s := by
  have hzero : sliceStart s.toList.length 0 = 0 := by simp [sliceStart]
  have hfirst : sliceStart s.toList.length k = min k s.toList.length := by simp [sliceStart]
  have hrest : s.toList.drop (min k s.toList.length) = s.toList.drop k := by
    by_cases h : k ≤ s.toList.length
    · rw [Nat.min_eq_left h]
    · have hlong := Nat.le_of_lt (Nat.lt_of_not_le h)
      rw [Nat.min_eq_right hlong, List.drop_length, List.drop_of_length_le hlong]
  unfold slice
  dsimp only
  rw [hzero, hfirst, hrest, Text.slice, List.drop_zero, ← String.ofList_append, List.take_append_drop,
    String.ofList_toList]

end Strings

namespace Word64

section
variable {n : Nat} {x : Double} {start : Int}

/-- **The start in words**, in a text of less than 2 ^ 63 characters: what a cut takes away lies outside the text. -/
theorem toInt_signedStart (hn : n < 2 ^ 63) (hx : x.IsInteger start) :
    (signedStart (.ofNat n) x).toInt = Strings.firstOf n start := by
  have htotal := toInt_toInt64 hn
  have hcut : x.toInt64.toInt = max (-2 ^ 63) (min start (2 ^ 63 - 1)) := by
    rw [hx.toInt64, toInt_ofIntClamp]
  have hsign : x.toInt64 < 0 ↔ start < 0 := by
    rw [Int64.lt_iff_toInt_lt, Int64.toInt_zero, hcut]
    omega
  unfold signedStart Strings.firstOf
  by_cases h : start < 0
  · rw [if_pos (hsign.mpr h), if_neg (not_le.mpr h), toInt_max, addSigned, toInt_ofIntClamp, htotal, hcut,
      Int64.toInt_zero]
    omega
  · rw [if_neg (fun hneg => h (hsign.mp hneg)), if_pos (not_lt.mp h), toInt_min, htotal, hcut]
    omega

/-- Every start is one inside the text. -/
theorem signedStart_bounds (hn : n < 2 ^ 63) (x : Double) :
    0 ≤ (signedStart (.ofNat n) x).toInt ∧ (signedStart (.ofNat n) x).toInt ≤ n := by
  have htotal := toInt_toInt64 hn
  have hsign : x.toInt64 < 0 ↔ x.toInt64.toInt < 0 := by
    rw [Int64.lt_iff_toInt_lt, Int64.toInt_zero]
  unfold signedStart
  by_cases h : x.toInt64.toInt < 0
  · rw [if_pos (hsign.mpr h), toInt_max, addSigned, toInt_ofIntClamp, htotal, Int64.toInt_zero]
    omega
  · rw [if_neg (fun hneg => h (hsign.mp hneg)), toInt_min, htotal]
    omega

theorem toNat_sliceStart (hn : n < 2 ^ 63) (x : Double) :
    ((sliceStart (.ofNat n) x).toNat : Int) = (signedStart (.ofNat n) x).toInt :=
  toNat_toUInt64 (signedStart_bounds hn x).1

theorem toNat_total (hn : n < 2 ^ 63) : (UInt64.ofNat n).toNat = n :=
  UInt64.toNat_ofNat_of_lt (Nat.lt_trans hn (by decide))

/-- Every end is one inside the text, and not before the start. -/
theorem sliceEnd_bounds (hn : n < 2 ^ 63) {first : UInt64} (hfirst : first.toNat ≤ n) (length : Option Double) :
    first.toNat ≤ (sliceEnd (.ofNat n) first length).toNat ∧ (sliceEnd (.ofNat n) first length).toNat ≤ n := by
  have htotal := toNat_total hn
  cases length with
  | none =>
    rw [sliceEnd, htotal]
    exact ⟨hfirst, Nat.le_refl n⟩
  | some x =>
    rw [sliceEnd, UInt64.toNat_min, add, toNat_ofNatClamp, htotal]
    omega

/-- **The end in words**, in a text whose number of characters is a double. -/
theorem toNat_sliceEnd (hn : n ≤ 2 ^ 53) {first : UInt64} (hfirst : (first.toNat : Int) = Strings.firstOf n start)
    {length : Option Double} {l : Option Nat} (hlength : Option.Rel (fun x l => x.IsInteger (l : Int)) length l) :
    ((sliceEnd (.ofNat n) first length).toNat : Int) = Strings.lastOf n start l := by
  have htotal : (UInt64.ofNat n).toNat = n := toNat_total (by omega)
  cases hlength with
  | none => rw [sliceEnd, htotal, Strings.lastOf]
  | @some x l hx =>
    have hcut : (x.lesser (.ofInt n)).toUInt64.toNat = min l n := by
      rw [(hx.lesser (Double.isInteger_ofInt (by omega))).toUInt64, toNat_ofNatClamp]
      omega
    rw [sliceEnd, UInt64.toNat_min, add, toNat_ofNatClamp, htotal, hcut, Strings.lastOf, ← hfirst]
    omega

/-- **The words that the ends of a slice pass through** are the numbers that they stand for. -/
structure Exact (n : Nat) (x : Double) (length : Option Double) (first last : Int) : Prop where
  total : (UInt64.ofNat n).toInt64.toInt = n
  signed : (signedStart (.ofNat n) x).toInt = first
  first : (sliceStart (.ofNat n) x).toNat = first
  last : (sliceEnd (.ofNat n) (sliceStart (.ofNat n) x) length).toNat = last

theorem exact_of_integers (hn : n ≤ 2 ^ 53) (hx : x.IsInteger start) {length : Option Double} {l : Option Nat}
    (hlength : Option.Rel (fun x l => x.IsInteger (l : Nat)) length l) :
    Exact n x length (Strings.firstOf n start) (Strings.lastOf n start l) := by
  have hsmall : n < 2 ^ 63 := by omega
  have hsigned := toInt_signedStart hsmall hx
  have hfirst := (toNat_sliceStart hsmall x).trans hsigned
  exact ⟨toInt_toInt64 hsmall, hsigned, hfirst, toNat_sliceEnd hn hfirst hlength⟩

end

/-- **The slice in words makes no access out of range**, whatever the start and the length. -/
theorem exists_slice {s : String} (hs : s.length < 2 ^ 63) (x : Double) (length : Option Double) :
    ∃ r, slice s x length = .ok r := by
  obtain ⟨-, hle⟩ := signedStart_bounds hs x
  rw [← toNat_sliceStart hs] at hle
  obtain ⟨hfirst, hlast⟩ := sliceEnd_bounds hs (Int.ofNat_le.mp hle) length
  unfold slice
  dsimp only
  rw [String.length_toList, Access.range_eq hfirst (hlast.trans_eq String.length_toList.symm)]
  exact ⟨_, rfl⟩

theorem slice_eq {s : String} (hs : s.length ≤ 2 ^ 53) {x : Double} {start : Int} (hx : x.IsInteger start)
    {length : Option Double} {l : Option Nat} (hlength : Option.Rel (fun x l => x.IsInteger (l : Nat)) length l) :
    slice s x length = .ok (Strings.slice s start l) := by
  have hpart := Strings.slice_isPart s start l
  have hexact := exact_of_integers hs hx hlength
  rw [← hexact.first, ← hexact.last, ← Access.range_eq_ok] at hpart
  unfold slice
  dsimp only
  rw [String.length_toList, hpart]
  exact congrArg Except.ok String.ofList_toList

/-- **A slice in words runs into no fault.** -/
theorem exists_answer {args : List Value} (hshort : ∀ s, Arguments.text? args 0 = some s → s.length < 2 ^ 63) :
    ∃ result, stringSlice args = Guarded.answer result := by
  unfold stringSlice
  cases htext : Arguments.text? args 0 with
  | none => exact ⟨.ok .null, rfl⟩
  | some s =>
    dsimp only
    split_ifs
    · exact ⟨.error _, rfl⟩
    · obtain ⟨r, hr⟩ :=
        exists_slice (hshort s htext) ((Arguments.number? args 1).getD .zero) (Arguments.number? args 2)
      rw [hr]
      exact ⟨.ok (.string r), rfl⟩

/-- The words refuse the same lengths. -/
theorem refuses_iff {length : Option Double} :
    (length.any fun x => x.lt .zero || x.hasFraction) = true ↔ Strings.sliceLength? length = none := by
  rw [Strings.sliceLength?_eq_none]
  cases length with
  | none => simp
  | some x => simp [Double.hasFraction, ← Double.toInt?_eq_none]

/-- **Slices in words are the slices of the unbounded integers**, in texts whose number of characters is a double. -/
theorem stringSlice_eq {args : List Value} (hshort : ∀ s, Arguments.text? args 0 = some s → s.length ≤ 2 ^ 53) :
    stringSlice args = Guarded.answer (Strings.stringSlice args) := by
  unfold stringSlice Strings.stringSlice
  cases htext : Arguments.text? args 0 with
  | none => rfl
  | some s =>
    dsimp only
    cases hstart : ((Arguments.number? args 1).getD .zero).toInt? with
    | none =>
      rw [Double.hasFraction, hstart]
      rfl
    | some start =>
      rw [Double.hasFraction, hstart, Option.isNone_some, Bool.false_or]
      cases hlength : Strings.sliceLength? (Arguments.number? args 2) with
      | none =>
        rw [if_pos (refuses_iff.mpr hlength)]
        rfl
      | some length =>
        have hkept : ¬ ((Arguments.number? args 2).any fun x => x.lt .zero || x.hasFraction) = true := by
          rw [refuses_iff, hlength]
          exact Option.some_ne_none length
        rw [if_neg hkept,
          slice_eq (hshort s htext) (Double.toInt?_eq_some.mp hstart) (Strings.sliceLength?_eq_some.mp hlength)]
        rfl

end Word64

namespace Value

/-- **The integer that a value is**, exactly. -/
def IsInteger (v : Value) (i : Int) : Prop := ∃ x, v.double? = some x ∧ x.IsInteger i

theorem isInteger_iff {v : Value} {i : Int} : v.IsInteger i ↔ v.double?.bind Double.toInt? = some i := by
  rw [IsInteger, Option.bind_eq_some_iff]
  simp only [Double.toInt?_eq_some]

theorem isInteger_ofInt {i : Int} (h : i.natAbs ≤ 2 ^ 53) : (ofInt i).IsInteger i :=
  ⟨_, rfl, Double.isInteger_ofInt h⟩

end Value

namespace Strings

theorem isSlice_of_values {s : String} {v w : Value} {start : Int} {length : Nat} (hv : v.IsInteger start)
    (hw : w.IsInteger length) : IsSlice [.string s, v, w] s start (some length) := by
  obtain ⟨x, hx, hstart⟩ := hv
  obtain ⟨y, hy, hlength⟩ := hw
  have hfirst : Arguments.number? [.string s, v, w] 1 = some x := hx
  have hsecond : Arguments.number? [.string s, v, w] 2 = some y := hy
  refine ⟨rfl, ?_, ?_⟩
  · rw [hfirst]
    exact hstart
  · rw [hsecond]
    exact .some hlength

theorem isSlice_of_value {s : String} {v : Value} {start : Int} (hv : v.IsInteger start) :
    IsSlice [.string s, v] s start none := by
  obtain ⟨x, hx, hstart⟩ := hv
  have hfirst : Arguments.number? [.string s, v] 1 = some x := hx
  refine ⟨rfl, ?_, .none⟩
  rw [hfirst]
  exact hstart

/-- **A slice is the part of its text between two positions**, which come from the start and the length in unbounded
integers.  The first characters of a text and the others are the text, and a slice is refused exactly where its start is
no whole number, or its length is none or is negative.  In words it is the same slice, by the same positions, in texts
whose number of characters is a double, and in all texts it makes no access out of range. -/
theorem stringSlice_isPart (args : List Value) :
    (∀ s start length, IsSlice args s start length →
      (0 ≤ firstOf s.length start ∧ firstOf s.length start ≤ lastOf s.length start length ∧
        lastOf s.length start length ≤ s.length) ∧
      (∃ r, stringSlice args = .ok (.string r) ∧
        Text.IsPart s.toList (firstOf s.length start) (lastOf s.length start length) r.toList) ∧
      (s.length ≤ 2 ^ 53 →
        Word64.Exact s.length ((Arguments.number? args 1).getD .zero) (Arguments.number? args 2)
          (firstOf s.length start) (lastOf s.length start length))) ∧
    (∀ (s : String) (k : Nat) (zero v : Value), (zero = .null ∨ zero.IsInteger 0) → v.IsInteger k →
      ∃ a b, stringSlice [.string s, zero, v] = .ok (.string a) ∧ stringSlice [.string s, v] = .ok (.string b) ∧
        a ++ b = s) ∧
    (Arguments.text? args 0 = none → stringSlice args = .ok .null) ∧
    (∀ cause, stringSlice args = .error cause ↔
      cause = .invalidArgument "stringSlice" "start must be a whole number and length a non-negative whole number" ∧
        (∃ s, Arguments.text? args 0 = some s) ∧
        ((∀ i, ¬ ((Arguments.number? args 1).getD .zero).IsInteger i) ∨
          ∃ x, Arguments.number? args 2 = some x ∧ (x.lt .zero = true ∨ ∀ i, ¬ x.IsInteger i))) ∧
    ((∀ s, Arguments.text? args 0 = some s → s.length < 2 ^ 63) →
      ∃ result, Word64.stringSlice args = Guarded.answer result) ∧
    ((∀ s, Arguments.text? args 0 = some s → s.length ≤ 2 ^ 53) →
      Word64.stringSlice args = Guarded.answer (stringSlice args)) := by
  refine ⟨fun s start length h => ⟨⟨firstOf_nonneg, firstOf_le_lastOf, lastOf_le⟩, ?_, fun hshort => ?_⟩, ?_, ?_,
    fun cause => stringSlice_eq_error, Word64.exists_answer, Word64.stringSlice_eq⟩
  · exact ⟨slice s start length, h.stringSlice_eq, slice_isPart s start length⟩
  · exact Word64.exact_of_integers hshort h.start h.length
  · rintro s k zero v hzero hv
    have hfirst : IsSlice [.string s, zero, v] s 0 (some k) := by
      obtain rfl | hzero := hzero
      · obtain ⟨x, hx, hk⟩ := hv
        have hstart : Arguments.number? [.string s, .null, v] 1 = none := rfl
        have hlength : Arguments.number? [.string s, .null, v] 2 = some x := hx
        refine ⟨rfl, ?_, ?_⟩
        · rw [hstart, Option.getD_none]
          exact Double.isInteger_zero
        · rw [hlength]
          exact .some hk
      · exact isSlice_of_values hzero hv
    exact ⟨_, _, hfirst.stringSlice_eq, (isSlice_of_value hv).stringSlice_eq, slice_append s k⟩
  · intro htext
    rw [stringSlice, htext]

/-- A start and a length far outside the text, whose characters have one to four bytes. -/
theorem stringSlice_isPart_extremes :
    (Value.ofDouble (.ofInt (-10 ^ 20))).IsInteger (-10 ^ 20) ∧
      (Value.ofDouble (.ofInt (10 ^ 20))).IsInteger (10 ^ 20 : Nat) ∧
      ∃ r, stringSlice [.string "aé漢😀", .ofDouble (.ofInt (-10 ^ 20)), .ofDouble (.ofInt (10 ^ 20))] =
          .ok (.string r) ∧
        Text.IsPart "aé漢😀".toList 0 4 r.toList ∧
        Word64.stringSlice [.string "aé漢😀", .ofDouble (.ofInt (-10 ^ 20)), .ofDouble (.ofInt (10 ^ 20))] =
          Guarded.answer (.ok (.string r)) := by
  have hstart : (Value.ofDouble (.ofInt (-10 ^ 20))).IsInteger (-10 ^ 20) :=
    Value.isInteger_iff.mpr (by decide +kernel)
  have hlength : (Value.ofDouble (.ofInt (10 ^ 20))).IsInteger (10 ^ 20 : Nat) :=
    Value.isInteger_iff.mpr (by decide +kernel)
  have hfirst : firstOf "aé漢😀".length (-10 ^ 20) = 0 := by decide +kernel
  have hlast : lastOf "aé漢😀".length (-10 ^ 20) (some (10 ^ 20)) = 4 := by decide +kernel
  obtain ⟨hparts, -, -, -, -, hwords⟩ :=
    stringSlice_isPart [.string "aé漢😀", .ofDouble (.ofInt (-10 ^ 20)), .ofDouble (.ofInt (10 ^ 20))]
  obtain ⟨-, ⟨r, hr, hpart⟩, -⟩ := hparts _ _ _ (isSlice_of_values hstart hlength)
  rw [hfirst, hlast] at hpart
  refine ⟨hstart, hlength, r, hr, hpart, ?_⟩
  rw [← hr]
  apply hwords
  rintro s ⟨⟩
  decide +kernel

end Strings
end FormLogic
