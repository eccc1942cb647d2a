import FormLogic.Text.Search
/-!
# Texts in bytes

A character takes up one to four bytes, so a position in bytes may lie inside of a character.  A text is taken apart at
a position only where a character starts or the text ends (`splitAtByte?`), and an occurrence always lies at such a
place (`splitAtByte?_of_byteIndexOf?`).
-/
namespace FormLogic
namespace Text

/-- The number of bytes that a text takes up. -/
def byteLength : List Char → Nat
  | [] => 0
  | c :: cs => c.utf8Size + byteLength cs

/-- **A text taken apart at a position in bytes**; nothing for a position inside of a character or beyond the end. -/
def splitAtByte? : List Char → Nat → Option (List Char × List Char)
  | [], byte => if byte = 0 then some ([], []) else none
  | c :: cs, byte =>
    if byte = 0 then some ([], c :: cs)
    else if c.utf8Size ≤ byte then (splitAtByte? cs (byte - c.utf8Size)).map fun parts => (c :: parts.1, parts.2)
    else none

/-- **The position of the first occurrence** of `wanted`, in bytes. -/
def byteIndexOf? (wanted : List Char) : List Char → Option Nat
  | [] => if wanted.isEmpty then some 0 else none
  | c :: cs => if wanted.isPrefixOf (c :: cs) then some 0 else (byteIndexOf? wanted cs).map (c.utf8Size + ·)

theorem byteLength_cons (c : Char) (cs : List Char) : byteLength (c :: cs) = c.utf8Size + byteLength cs := rfl

/-- **Between two parts of a text** there is always a place to take it apart. -/
theorem splitAtByte?_append (after : List Char) : ∀ before : List Char,
    splitAtByte? (before ++ after) (byteLength before) = some (before, after)
  | [] => by
    cases after <;> rfl
  | c :: before => by
    have hpos : 0 < c.utf8Size := c.utf8Size_pos
    have hrest : c.utf8Size + byteLength before - c.utf8Size = byteLength before := Nat.add_sub_cancel_left _ _
    rw [List.cons_append, byteLength_cons, splitAtByte?, if_neg (by omega), if_pos (Nat.le_add_right _ _), hrest,
      splitAtByte?_append after before]
    rfl

theorem byteIndexOf?_eq (wanted : List Char) : ∀ text : List Char,
    byteIndexOf? wanted text = (indexOf? wanted text).map fun position => byteLength (text.take position)
  | [] => by
    rw [byteIndexOf?, indexOf?]
    cases wanted <;> rfl
  | c :: cs => by
    rw [byteIndexOf?, indexOf?]
    split
    · rfl
    · rw [byteIndexOf?_eq wanted cs, Option.map_map, Option.map_map]
      rfl

/-- **An occurrence lies between characters**, after as many of them as its position in characters says. -/
theorem splitAtByte?_of_byteIndexOf? {wanted text : List Char} {byte : Nat} (h : byteIndexOf? wanted text = some byte) :
    ∃ position, indexOf? wanted text = some position ∧
      splitAtByte? text byte = some (text.take position, text.drop position) := by
  rw [byteIndexOf?_eq] at h
  obtain ⟨position, hposition, rfl⟩ := Option.map_eq_some_iff.mp h
  refine ⟨position, hposition, ?_⟩
  have hsplit := splitAtByte?_append (text.drop position) (text.take position)
  rwa [List.take_append_drop] at hsplit

/-- A text of one-byte characters takes up one byte for each. -/
theorem byteLength_of_small {cs : List Char} (h : ∀ c ∈ cs, c.utf8Size = 1) : byteLength cs = cs.length := by
  induction cs with
  | nil => rfl
  | cons c cs ih =>
    have hrest : byteLength cs = cs.length := ih fun c hc => h c (List.mem_cons_of_mem _ hc)
    rw [byteLength_cons, h c List.mem_cons_self, hrest, List.length_cons, Nat.add_comm]

end Text
end FormLogic
