import FormLogic.Value.NumberText
import Mathlib.Computability.RegularExpressions
import Mathlib.Data.List.TakeWhile
import Mathlib.Tactic.IntervalCases
/-!
# The plain form of a number

The plain form is a regular expression (`Grammar.number`): perhaps a minus sign, digits, perhaps a point and more
digits.  Parsing and writing are inverse to each other on the parts of such a text (`NumberText.parse?_eq_some`), and
what they write is exactly the language of the expression (`NumberText.mem_number_iff`), so the parser takes that
language and nothing else.
-/
namespace FormLogic
namespace Grammar

open RegularExpression

def digit : RegularExpression Char := ("0123456789".toList.map char).foldr (· + ·) 0

def digits : RegularExpression Char := digit * star digit

/-- **The plain form of a number**: `-?[0-9]+(\.[0-9]+)?`. -/
def number : RegularExpression Char := (1 + char '-') * (digits * (1 + char '.' * digits))

theorem isDigit_iff {c : Char} : c.isDigit = true ↔ c ∈ "0123456789".toList := by
  constructor
  · intro h
    simp only [Char.isDigit, Bool.and_eq_true, decide_eq_true_eq, ge_iff_le, UInt32.le_iff_toNat_le] at h
    have hlow : 48 ≤ c.toNat := h.1
    have hhigh : c.toNat ≤ 57 := h.2
    rw [← Char.ofNat_toNat c]
    generalize c.toNat = n at hlow hhigh
    interval_cases n <;> decide
  · have hall : "0123456789".toList.all Char.isDigit = true := by decide
    exact List.all_eq_true.mp hall c

theorem mem_char {c : Char} {cs : List Char} : cs ∈ (char c).matches' ↔ cs = [c] := Iff.rfl

theorem mem_digit {cs : List Char} : cs ∈ digit.matches' ↔ ∃ c, c.isDigit = true ∧ cs = [c] := by
  have hmem : ∀ letters : List Char,
      cs ∈ ((letters.map char).foldr (· + ·) 0).matches' ↔ ∃ c ∈ letters, cs = [c] := by
    intro letters
    induction letters with
    | nil => simp
    | cons c letters ih =>
      rw [List.map_cons, List.foldr_cons, matches'_add, Language.mem_add, mem_char, ih, List.exists_mem_cons_iff]
  simp only [digit, hmem, isDigit_iff]

theorem mem_digits {cs : List Char} : cs ∈ digits.matches' ↔ Text.isDigits cs = true := by
  rw [digits, matches'_mul, matches'_star, Language.mem_mul]
  constructor
  · rintro ⟨first, hfirst, rest, hrest, rfl⟩
    obtain ⟨c, hc, rfl⟩ := mem_digit.mp hfirst
    obtain ⟨words, rfl, hwords⟩ := Language.mem_kstar.mp hrest
    have hall : words.flatten.all Char.isDigit = true := by
      refine List.all_eq_true.mpr fun x hx => ?_
      obtain ⟨word, hword, hx⟩ := List.mem_flatten.mp hx
      obtain ⟨d, hd, rfl⟩ := mem_digit.mp (hwords word hword)
      rw [List.mem_singleton.mp hx]
      exact hd
    simp [Text.isDigits, hc, hall]
  · intro h
    cases cs with
    | nil => simp [Text.isDigits] at h
    | cons c rest =>
      simp only [Text.isDigits, List.isEmpty_cons, Bool.not_false, Bool.true_and, List.all_cons, Bool.and_eq_true] at h
      obtain ⟨hc, hrest⟩ := h
      refine ⟨[c], mem_digit.mpr ⟨c, hc, rfl⟩, rest, Language.mem_kstar.mpr ⟨rest.map fun d => [d], ?_, ?_⟩, rfl⟩
      · rw [← List.flatMap_def, List.flatMap_singleton']
      · intro word hword
        obtain ⟨d, hd, rfl⟩ := List.mem_map.mp hword
        exact mem_digit.mpr ⟨d, List.all_eq_true.mp hrest d hd, rfl⟩

/-- An expression that may be left out. -/
theorem mem_optional {r : RegularExpression Char} {cs : List Char} :
    cs ∈ (1 + r).matches' ↔ cs = [] ∨ cs ∈ r.matches' := by
  rw [matches'_add, matches'_epsilon, Language.mem_add, Language.mem_one]

end Grammar

namespace NumberText

/-- **The parts of a text of the plain form**: digits before the point, and digits after it where there is one. -/
structure IsPlain (t : NumberText) : Prop where
  whole : Text.isDigits t.whole = true
  fraction : ∀ places ∈ t.fraction, Text.isDigits places = true

def sign (negative : Bool) : List Char := if negative then ['-'] else []

/-- What stands after the digits before the point. -/
def places (fraction : Option (List Char)) : List Char := fraction.elim [] ('.' :: ·)

theorem toList_write (t : NumberText) : t.write.toList = sign t.negative ++ (t.whole ++ places t.fraction) := by
  rw [write, String.toList_ofList, List.append_assoc, sign]
  cases t.fraction <;> rfl

/-- **The parts of a number text after its sign.** -/
def unsigned? (negative : Bool) (body : List Char) : Option NumberText :=
  if !Text.isDigits (body.takeWhile (· ≠ '.')) then none
  else match body.dropWhile (· ≠ '.') with
    | [] => some ⟨negative, body.takeWhile (· ≠ '.'), none⟩
    | _ :: fraction =>
      if Text.isDigits fraction then some ⟨negative, body.takeWhile (· ≠ '.'), some fraction⟩ else none

theorem parse?_of_minus {s : String} {rest : List Char} (h : s.toList = '-' :: rest) :
    parse? s = unsigned? true rest := by
  rw [parse?, h]
  rfl

theorem parse?_of_no_minus {s : String} (h : ∀ rest, s.toList ≠ '-' :: rest) : parse? s = unsigned? false s.toList := by
  unfold parse?
  split
  rename_i hsign
  split at hsign
  · exact absurd ‹_› (h _)
  · cases hsign
    rfl

section
variable {negative : Bool} {body : List Char} {t : NumberText}

theorem ne_point_of_isDigits {cs : List Char} (h : Text.isDigits cs = true) : ∀ c ∈ cs, decide (c ≠ '.') = true := by
  intro c hc
  simp only [Text.isDigits, Bool.and_eq_true, List.all_eq_true] at h
  have hdigit := h.2 c hc
  refine decide_eq_true ?_
  rintro rfl
  revert hdigit
  decide

theorem unsigned?_eq_some :
    unsigned? negative body = some t ↔ t.negative = negative ∧ t.IsPlain ∧ t.whole ++ places t.fraction = body := by
  constructor
  · intro h
    have hbody := List.takeWhile_append_dropWhile (p := (· ≠ '.')) (l := body)
    unfold unsigned? at h
    split at h
    · cases h
    rename_i hwhole
    have hwhole : Text.isDigits (body.takeWhile (· ≠ '.')) = true := by simpa using hwhole
    split at h
    · rename_i hrest
      cases h
      rw [hrest] at hbody
      exact ⟨rfl, ⟨hwhole, nofun⟩, hbody⟩
    · rename_i c fraction hrest
      split at h
      · rename_i hfraction
        cases h
        have hpoint : c = '.' := by
          have hnot := List.head?_dropWhile_not (· ≠ '.') body
          rw [hrest] at hnot
          simpa using hnot
        rw [hrest, hpoint] at hbody
        exact ⟨rfl, ⟨hwhole, by simpa using hfraction⟩, hbody⟩
      · cases h
  · rintro ⟨rfl, ⟨hwhole, hfraction⟩, rfl⟩
    have hne := ne_point_of_isDigits hwhole
    unfold unsigned?
    rw [List.takeWhile_append_of_pos hne, List.dropWhile_append_of_pos hne]
    obtain ⟨negative, whole, fraction⟩ := t
    cases fraction with
    | none => simp [places, hwhole]
    | some digits => simp [places, hwhole, hfraction digits rfl]

/-- A text of the plain form without its sign starts with a digit. -/
theorem ne_minus_of_isPlain (h : t.IsPlain) {rest : List Char} : t.whole ++ places t.fraction ≠ '-' :: rest := by
  obtain ⟨hwhole, -⟩ := h
  cases hdigits : t.whole with
  | nil =>
    rw [hdigits] at hwhole
    cases hwhole
  | cons c others =>
    intro heq
    rw [hdigits, (List.cons.inj heq).1] at hwhole
    simp [Text.isDigits] at hwhole

/-- **Parsing and writing are inverse to each other**, on the texts of the plain form. -/
theorem parse?_eq_some {s : String} : parse? s = some t ↔ t.IsPlain ∧ t.write = s := by
  have hwrite : t.write = s ↔ sign t.negative ++ (t.whole ++ places t.fraction) = s.toList := by
    rw [← toList_write, String.toList_inj]
  rw [hwrite]
  by_cases hminus : ∃ rest, s.toList = '-' :: rest
  · obtain ⟨rest, hs⟩ := hminus
    rw [parse?_of_minus hs, unsigned?_eq_some, hs]
    cases hsign : t.negative with
    | true => simp [sign]
    | false =>
      simp only [sign, Bool.false_eq_true, false_and, if_false, List.nil_append, false_iff, not_and]
      exact fun hplain => ne_minus_of_isPlain hplain
  · have hs : ∀ rest, s.toList ≠ '-' :: rest := fun rest h => hminus ⟨rest, h⟩
    rw [parse?_of_no_minus hs, unsigned?_eq_some]
    cases hsign : t.negative with
    | true =>
      simp only [sign, Bool.true_eq_false, false_and, if_true, false_iff, not_and, List.singleton_append]
      exact fun _ h => hs _ h.symm
    | false => simp [sign]

end

theorem mem_sign_iff {cs : List Char} :
    cs ∈ (1 + RegularExpression.char '-').matches' ↔ ∃ negative, cs = sign negative := by
  rw [Grammar.mem_optional, Grammar.mem_char, Bool.exists_bool]
  rfl

theorem mem_places_iff {cs : List Char} :
    cs ∈ (1 + RegularExpression.char '.' * Grammar.digits).matches' ↔
      ∃ fraction : Option (List Char), (∀ places ∈ fraction, Text.isDigits places = true) ∧ cs = places fraction := by
  rw [Grammar.mem_optional, RegularExpression.matches'_mul, Language.mem_mul]
  constructor
  · rintro (rfl | ⟨point, hpoint, places, hplaces, rfl⟩)
    · exact ⟨none, nofun, rfl⟩
    · rw [Grammar.mem_char.mp hpoint]
      exact ⟨some places, by simpa using Grammar.mem_digits.mp hplaces, rfl⟩
  · rintro ⟨fraction, hfraction, rfl⟩
    cases fraction with
    | none => exact .inl rfl
    | some places =>
      exact .inr ⟨['.'], Grammar.mem_char.mpr rfl, places, Grammar.mem_digits.mpr (hfraction places rfl), rfl⟩

/-- **The texts of the plain form** are those that can be written from such parts. -/
theorem mem_number_iff {cs : List Char} :
    cs ∈ Grammar.number.matches' ↔ ∃ t : NumberText, t.IsPlain ∧ t.write.toList = cs := by
  simp only [Grammar.number, RegularExpression.matches'_mul, Language.mem_mul]
  constructor
  · rintro ⟨start, hstart, _, ⟨whole, hwhole, rest, hrest, rfl⟩, rfl⟩
    obtain ⟨negative, rfl⟩ := mem_sign_iff.mp hstart
    obtain ⟨fraction, hfraction, rfl⟩ := mem_places_iff.mp hrest
    exact ⟨⟨negative, whole, fraction⟩, ⟨Grammar.mem_digits.mp hwhole, hfraction⟩, toList_write _⟩
  · rintro ⟨t, ⟨hwhole, hfraction⟩, rfl⟩
    rw [toList_write]
    exact ⟨_, mem_sign_iff.mpr ⟨t.negative, rfl⟩, _, ⟨t.whole, Grammar.mem_digits.mpr hwhole, _,
      mem_places_iff.mpr ⟨t.fraction, hfraction, rfl⟩, rfl⟩, rfl⟩

/-- **The parser takes the language of the grammar**, nothing more and nothing less. -/
theorem isSome_parse?_iff {s : String} : (parse? s).isSome = true ↔ s.toList ∈ Grammar.number.matches' := by
  rw [mem_number_iff, Option.isSome_iff_exists]
  simp only [parse?_eq_some, String.toList_inj]

end NumberText
end FormLogic
