import FormLogic.Proofs.IntegerTexts
import FormLogic.Value.Lookup
/-!
# Data paths, written and followed

The same segments can be written in many ways: after the first one, each stands behind a point or in brackets, and
points and empty brackets may be put in between (`DataPath.Writes`).  Every writing is read as its segments
(`DataPath.segments_of_writes`), and a look-up by any of them is the descent along these (`Value.LiesAt`): an object by
its keys, an array by the texts of its indices (`DataPath.WritesIndex`).
-/
namespace FormLogic

namespace Text

/-- A digit writes a number below ten, and is its digit. -/
theorem toDigits_natOfDigits_singleton {c : Char} (h : c.isDigit = true) :
    natOfDigits [c] < 10 ∧ Nat.toDigits 10 (natOfDigits [c]) = [c] := by
  have hall : "0123456789".toList.all
      (fun c => decide (natOfDigits [c] < 10 ∧ Nat.toDigits 10 (natOfDigits [c]) = [c])) = true := by decide
  exact of_decide_eq_true (List.all_eq_true.mp hall c (Grammar.isDigit_iff.mp h))

/-- **Every text of digits** is that of the number it writes, with zeros before it. -/
theorem exists_zeros {digits : List Char} (h : isDigits digits = true) :
    ∃ zeros, digits = List.replicate zeros '0' ++ Nat.toDigits 10 (natOfDigits digits) := by
  simp only [isDigits, Bool.and_eq_true, Bool.not_eq_true', List.isEmpty_eq_false_iff, List.all_eq_true] at h
  obtain ⟨hne, hall⟩ := h
  induction digits using List.reverseRecOn with
  | nil => exact absurd rfl hne
  | append_singleton front c ih =>
    obtain ⟨hten, hdigit⟩ := toDigits_natOfDigits_singleton (hall c (by simp))
    rw [natOfDigits_append, List.length_singleton, Nat.pow_one]
    by_cases hfront : front = []
    · exact ⟨0, by simpa [hfront, natOfDigits] using hdigit.symm⟩
    obtain ⟨zeros, hzeros⟩ := ih hfront fun c hc => hall c (by simp [hc])
    by_cases hvalue : natOfDigits front = 0
    · refine ⟨zeros + 1, ?_⟩
      rw [hvalue, Nat.mul_zero, Nat.zero_add, hdigit]
      rw [hvalue, Nat.toDigits_zero, ← List.replicate_succ'] at hzeros
      rw [hzeros]
    · refine ⟨zeros, ?_⟩
      rw [← Nat.toDigits_append_toDigits (by decide) (Nat.pos_of_ne_zero hvalue) hten, hdigit, ← List.append_assoc,
        ← hzeros]

theorem isDigits_zeros_append (zeros n : Nat) : isDigits (List.replicate zeros '0' ++ Nat.toDigits 10 n) = true := by
  simpa [isDigits] using isDigits_toDigits n

theorem natOfDigits_zeros_append (zeros n : Nat) :
    natOfDigits (List.replicate zeros '0' ++ Nat.toDigits 10 n) = n := by
  rw [natOfDigits_append, natOfDigits_zeros, Nat.mul_zero, Nat.zero_add, natOfDigits_toDigits]

end Text

namespace DataPath

/-- **The texts of an index**: its digits, perhaps with zeros before them, perhaps with a plus sign in front.  An index
has at most 64 bits. -/
def WritesIndex (text : List Char) (index : Nat) : Prop :=
  index < 2 ^ 64 ∧ ∃ (plus : Bool) (zeros : Nat),
    text = (if plus then ['+'] else []) ++ List.replicate zeros '0' ++ Nat.toDigits 10 index

theorem index?_plus (digits : List Char) : index? ('+' :: digits) =
    if Text.isDigits digits ∧ Text.natOfDigits digits < Nat.pow 2 64 then some (Text.natOfDigits digits)
    else none := rfl

theorem index?_of_no_plus {text : List Char} (h : ∀ rest, text ≠ '+' :: rest) : index? text =
    if Text.isDigits text ∧ Text.natOfDigits text < Nat.pow 2 64 then some (Text.natOfDigits text) else none := by
  unfold index?
  split
  · exact absurd rfl (h _)
  · rfl

theorem ne_plus_of_isDigits {digits : List Char} (h : Text.isDigits digits = true) : ∀ rest, digits ≠ '+' :: rest := by
  rintro rest rfl
  simp [Text.isDigits] at h

/-- **The index of a segment** is the one whose text it is. -/
theorem index?_eq_some {text : List Char} {index : Nat} : index? text = some index ↔ WritesIndex text index := by
  have hdigits : ∀ digits : List Char,
      (if Text.isDigits digits ∧ Text.natOfDigits digits < Nat.pow 2 64 then some (Text.natOfDigits digits) else none)
          = some index ↔
        index < 2 ^ 64 ∧ ∃ zeros, digits = List.replicate zeros '0' ++ Nat.toDigits 10 index := by
    intro digits
    simp only [Option.ite_none_right_eq_some, Option.some.injEq, Nat.pow_eq]
    constructor
    · rintro ⟨⟨hall, hbits⟩, rfl⟩
      exact ⟨hbits, Text.exists_zeros hall⟩
    · rintro ⟨hbits, zeros, rfl⟩
      rw [Text.natOfDigits_zeros_append]
      exact ⟨⟨Text.isDigits_zeros_append zeros index, hbits⟩, rfl⟩
  by_cases hplus : ∃ rest, text = '+' :: rest
  · obtain ⟨rest, rfl⟩ := hplus
    rw [index?_plus, hdigits]
    constructor
    · rintro ⟨hbits, zeros, rfl⟩
      exact ⟨hbits, true, zeros, rfl⟩
    · rintro ⟨hbits, plus, zeros, htext⟩
      cases plus with
      | true => exact ⟨hbits, zeros, List.tail_eq_of_cons_eq htext⟩
      | false => exact absurd htext.symm (ne_plus_of_isDigits (Text.isDigits_zeros_append zeros index) rest)
  · rw [index?_of_no_plus fun rest hrest => hplus ⟨rest, hrest⟩, hdigits]
    constructor
    · rintro ⟨hbits, zeros, rfl⟩
      exact ⟨hbits, false, zeros, rfl⟩
    · rintro ⟨hbits, plus, zeros, rfl⟩
      cases plus with
      | true => exact absurd ⟨_, rfl⟩ hplus
      | false => exact ⟨hbits, zeros, rfl⟩

end DataPath

namespace Value

/-- **What lies in a value along segments**: an object is entered by a key, an array by the text of an index, and
nothing else can be entered. -/
inductive LiesAt : Value → List (List Char) → Value → Prop
  | here (v : Value) : LiesAt v [] v
  | member {members : List (String × Value)} {key : List Char} {inner found : Value} {rest : List (List Char)}
      (entry : findEntry (String.ofList key) members = some inner) (below : inner.LiesAt rest found) :
      LiesAt (.object members) (key :: rest) found
  | item {items : List Value} {text : List Char} {index : Nat} {inner found : Value} {rest : List (List Char)}
      (written : DataPath.WritesIndex text index) (entry : items[index]? = some inner)
      (below : inner.LiesAt rest found) :
      LiesAt (.array items) (text :: rest) found

section
variable {v found : Value} {segment : List Char} {segments : List (List Char)}

theorem enter?_eq_some : v.enter? segment = some found ↔
    (∃ members, v = .object members ∧ findEntry (String.ofList segment) members = some found) ∨
      ∃ items index, v = .array items ∧ DataPath.WritesIndex segment index ∧ items[index]? = some found := by
  cases v with
  | object members => simp [enter?]
  | array items => simp [enter?, Option.bind_eq_some_iff, DataPath.index?_eq_some]
  | _ => simp [enter?]

/-- **The descent finds what lies there**, and nothing else. -/
theorem follow?_eq_some : v.follow? segments = some found ↔ v.LiesAt segments found := by
  constructor
  · intro h
    induction segments generalizing v with
    | nil =>
      cases h
      exact .here _
    | cons segment segments ih =>
      obtain ⟨inner, henter, hbelow⟩ := Option.bind_eq_some_iff.mp h
      obtain ⟨members, rfl, hentry⟩ | ⟨items, index, rfl, hwritten, hentry⟩ := enter?_eq_some.mp henter
      · exact .member hentry (ih hbelow)
      · exact .item hwritten hentry (ih hbelow)
  · intro h
    induction h with
    | here v => rfl
    | member hentry _ ih =>
      exact Option.bind_eq_some_iff.mpr ⟨_, enter?_eq_some.mpr (.inl ⟨_, rfl, hentry⟩), ih⟩
    | item hwritten hentry _ ih =>
      exact Option.bind_eq_some_iff.mpr ⟨_, enter?_eq_some.mpr (.inr ⟨_, _, rfl, hwritten, hentry⟩), ih⟩

end
end Value

namespace DataPath

/-- **A segment as it can stand in a path**: not empty, and without the three characters that paths are put together
with. -/
structure IsSegment (segment : List Char) : Prop where
  ne_nil : segment ≠ []
  point : '.' ∉ segment
  opening : '[' ∉ segment
  closing : ']' ∉ segment

/-- **What may follow the first segment**: further segments, each behind a point or in brackets, and points and empty
brackets, which count for nothing. -/
inductive Continues : List (List Char) → List Char → Prop
  | nil : Continues [] []
  | skipPoint {segments : List (List Char)} {text : List Char} (rest : Continues segments text) :
      Continues segments ('.' :: text)
  | skipBrackets {segments : List (List Char)} {text : List Char} (rest : Continues segments text) :
      Continues segments ('[' :: ']' :: text)
  | point {segment : List Char} {segments : List (List Char)} {text : List Char} (first : IsSegment segment)
      (rest : Continues segments text) : Continues (segment :: segments) ('.' :: segment ++ text)
  | brackets {segment : List Char} {segments : List (List Char)} {text : List Char} (first : IsSegment segment)
      (rest : Continues segments text) : Continues (segment :: segments) ('[' :: segment ++ ']' :: text)

/-- **The writings of a list of segments.**  The first one stands by itself, perhaps behind points and empty brackets;
of no segments there are only these. -/
inductive Writes : List (List Char) → List Char → Prop
  | nil : Writes [] []
  | skipPoint {segments : List (List Char)} {text : List Char} (rest : Writes segments text) :
      Writes segments ('.' :: text)
  | skipBrackets {segments : List (List Char)} {text : List Char} (rest : Writes segments text) :
      Writes segments ('[' :: ']' :: text)
  | first {segment : List Char} {segments : List (List Char)} {text : List Char} (first : IsSegment segment)
      (rest : Continues segments text) : Writes (segment :: segments) (segment ++ text)

/-- A path with its brackets gone: an opening one is a point. -/
def plain (text : List Char) : List Char := (text.map fun c => if c = '[' then '.' else c).filter (· ≠ ']')

/-- The parts between points that are not empty. -/
def parts (text : List Char) : List (List Char) := (Text.splitOn '.' text).filter (! ·.isEmpty)

theorem segments_eq (path : String) : segments path = parts (plain path.toList) := rfl

section
variable {segment text : List Char} {segments : List (List Char)}

theorem plain_append (a b : List Char) : plain (a ++ b) = plain a ++ plain b := by simp [plain]

theorem plain_point (text : List Char) : plain ('.' :: text) = '.' :: plain text := rfl

theorem plain_opening (text : List Char) : plain ('[' :: text) = '.' :: plain text := rfl

theorem plain_closing (text : List Char) : plain (']' :: text) = plain text := rfl

theorem IsSegment.plain_eq (h : IsSegment segment) : plain segment = segment := by
  have hmap : (segment.map fun c => if c = '[' then '.' else c) = segment := by
    conv => rhs; rw [← List.map_id segment]
    refine List.map_congr_left fun c hc => if_neg ?_
    rintro rfl
    exact h.opening hc
  rw [plain, hmap, List.filter_eq_self]
  refine fun c hc => decide_eq_true ?_
  rintro rfl
  exact h.closing hc

theorem splitOn_of_not_mem (h : '.' ∉ segment) : Text.splitOn '.' segment = [segment] := by
  induction segment with
  | nil => rfl
  | cons c segment ih =>
    rw [List.mem_cons, not_or] at h
    rw [Text.splitOn, if_neg (Ne.symm h.1), ih h.2]

/-- **Up to the next point** the characters make up one part. -/
theorem splitOn_append_point (h : '.' ∉ segment) :
    Text.splitOn '.' (segment ++ '.' :: text) = segment :: Text.splitOn '.' text := by
  induction segment with
  | nil => rfl
  | cons c segment ih =>
    rw [List.mem_cons, not_or] at h
    rw [List.cons_append, Text.splitOn, if_neg (Ne.symm h.1), ih h.2]

theorem parts_point (text : List Char) : parts ('.' :: text) = parts text := rfl

theorem IsSegment.parts_eq (h : IsSegment segment) : parts segment = [segment] := by
  rw [parts, splitOn_of_not_mem h.point, List.filter_cons_of_pos (by simpa using h.ne_nil), List.filter_nil]

theorem IsSegment.parts_append_point (h : IsSegment segment) :
    parts (segment ++ '.' :: text) = segment :: parts text := by
  rw [parts, splitOn_append_point h.point, List.filter_cons_of_pos (by simpa using h.ne_nil)]
  rfl

/-- **Behind a segment comes a point or nothing**, once the brackets are gone. -/
theorem Continues.plain_eq (h : Continues segments text) : plain text = [] ∨ ∃ rest, plain text = '.' :: rest := by
  cases h with
  | nil => exact .inl rfl
  | skipPoint => exact .inr ⟨_, rfl⟩
  | skipBrackets => exact .inr ⟨_, rfl⟩
  | point => exact .inr ⟨_, rfl⟩
  | brackets => exact .inr ⟨_, rfl⟩

theorem Continues.parts_segment (h : Continues segments text) (hfirst : IsSegment segment)
    (hrest : parts (plain text) = segments) : parts (segment ++ plain text) = segment :: segments := by
  obtain hnil | ⟨rest, hpoint⟩ := h.plain_eq
  · rw [← hrest, hnil, List.append_nil, hfirst.parts_eq]
    rfl
  · rw [← hrest, hpoint, hfirst.parts_append_point, parts_point]

theorem Continues.parts_eq (h : Continues segments text) : parts (plain text) = segments := by
  induction h with
  | nil => rfl
  | skipPoint _ ih => rw [plain_point, parts_point, ih]
  | skipBrackets _ ih => rw [plain_opening, plain_closing, parts_point, ih]
  | point hfirst hrest ih =>
    rw [List.cons_append, plain_point, plain_append, hfirst.plain_eq, parts_point, hrest.parts_segment hfirst ih]
  | brackets hfirst hrest ih =>
    rw [List.cons_append, plain_opening, plain_append, plain_closing, hfirst.plain_eq, parts_point,
      hrest.parts_segment hfirst ih]

/-- **Every writing is read as its segments.** -/
theorem segments_of_writes {path : String} (h : Writes segments path.toList) : DataPath.segments path = segments := by
  rw [segments_eq]
  generalize path.toList = text at h
  induction h with
  | nil => rfl
  | skipPoint _ ih => rw [plain_point, parts_point, ih]
  | skipBrackets _ ih => rw [plain_opening, plain_closing, parts_point, ih]
  | first hfirst hrest => rw [plain_append, hfirst.plain_eq, hrest.parts_segment hfirst hrest.parts_eq]

/-- **A look-up by any writing of some segments** is the descent along them into the object; a path without segments
finds nothing.  So two writings of the same segments find the same. -/
theorem find?_of_writes {path : String} (h : Writes segments path.toList) (members : List (String × Value)) :
    (∀ found, find? members path = some found ↔ segments ≠ [] ∧ (Value.object members).LiesAt segments found) ∧
      ∀ other : String, Writes segments other.toList → find? members other = find? members path := by
  have hfind : ∀ {path : String}, Writes segments path.toList →
      find? members path = if segments = [] then none else (Value.object members).follow? segments := by
    intro path h
    rw [find?, segments_of_writes h]
    cases segments with
    | nil => rfl
    | cons segment segments => rw [if_neg (List.cons_ne_nil _ _)]
  refine ⟨fun found => ?_, fun other hother => by rw [hfind hother, hfind h]⟩
  rw [hfind h, ← Value.follow?_eq_some]
  by_cases hnil : segments = []
  · simp [hnil]
  · simp [hnil]

/-- The text `+01` is that of an index in an array, and the key of a member in an object. -/
theorem find?_of_writes_people :
    Writes ["people".toList, "+01".toList, "name".toList] ".people[+01][].name".toList ∧
      find? [("people", .array [.object [("name", .string "Ada")], .object [("name", .string "Grace")]])]
        ".people[+01][].name" = some (.string "Grace") ∧
      find? [("people", .object [("+01", .object [("name", .string "Ada")])])] ".people[+01][].name"
        = some (.string "Ada") := by
  have hpeople : IsSegment "people".toList := ⟨by decide, by decide, by decide, by decide⟩
  have hnumber : IsSegment "+01".toList := ⟨by decide, by decide, by decide, by decide⟩
  have hname : IsSegment "name".toList := ⟨by decide, by decide, by decide, by decide⟩
  have hwrites : Writes ["people".toList, "+01".toList, "name".toList] ".people[+01][].name".toList :=
    .skipPoint (.first hpeople (.brackets hnumber (.skipBrackets (.point hname .nil))))
  have hindex : WritesIndex "+01".toList 1 := ⟨by decide, true, 1, rfl⟩
  exact ⟨hwrites,
    ((find?_of_writes hwrites _).1 _).mpr ⟨by decide, .member rfl (.item hindex rfl (.member rfl (.here _)))⟩,
    ((find?_of_writes hwrites _).1 _).mpr ⟨by decide, .member rfl (.member rfl (.member rfl (.here _)))⟩⟩

end
end DataPath
end FormLogic
