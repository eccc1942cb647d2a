/-!
# Searching in texts

Finding, cutting and replacing, in characters.  A text is a list of characters here, so that a position is a count of
characters and never of bytes.  What is found lies inside the text (`indexOf?_le_length`), and what is there is found
(`occursIn_iff`).
-/
namespace FormLogic
namespace Text

/-- **The position of the first occurrence** of `wanted`.  The empty text occurs at 0. -/
def indexOf? (wanted : List Char) : List Char → Option Nat
  | [] => if wanted.isEmpty then some 0 else none
  | c :: cs => if wanted.isPrefixOf (c :: cs) then some 0 else (indexOf? wanted cs).map (· + 1)

def occursIn (wanted text : List Char) : Bool := (indexOf? wanted text).isSome

/-- **What is found lies inside the text.** -/
theorem indexOf?_le_length {wanted : List Char} : ∀ {text : List Char} {position : Nat},
    indexOf? wanted text = some position → position ≤ text.length
  | [], position, h => by
    rw [indexOf?] at h
    split at h <;> cases h
    exact Nat.le_refl 0
  | c :: cs, position, h => by
    rw [indexOf?] at h
    split at h
    · cases h
      exact Nat.zero_le _
    · obtain ⟨rest, hrest, rfl⟩ := Option.map_eq_some_iff.mp h
      exact Nat.succ_le_succ (indexOf?_le_length hrest)

/-- **A text occurs in another** exactly when it is a run of its characters. -/
theorem occursIn_iff {wanted : List Char} : ∀ {text : List Char}, occursIn wanted text = true ↔ wanted <:+: text
  | [] => by
    rw [occursIn, indexOf?, List.infix_nil]
    cases wanted <;> simp
  | c :: cs => by
    have ih : (indexOf? wanted cs).isSome = true ↔ wanted <:+: cs := occursIn_iff
    rw [occursIn, indexOf?, List.infix_cons_iff, ← ih]
    by_cases hstart : wanted.isPrefixOf (c :: cs) = true
    · simp [hstart, List.isPrefixOf_iff_prefix.mp hstart]
    · have hnot : ¬ wanted <+: c :: cs := fun h => hstart (List.isPrefixOf_iff_prefix.mpr h)
      simp [hstart, hnot]

/-- Replacement of every occurrence, where the next `covered` characters belong to an occurrence already replaced. -/
def replaceFrom (wanted replacement : List Char) : Nat → List Char → List Char
  | _, [] => []
  | covered + 1, _ :: cs => replaceFrom wanted replacement covered cs
  | 0, c :: cs =>
    if wanted.isPrefixOf (c :: cs) then replacement ++ replaceFrom wanted replacement (wanted.length - 1) cs
    else c :: replaceFrom wanted replacement 0 cs

/-- **Replacement from the left**, of occurrences that do not overlap.  The empty text is never replaced. -/
def replace (wanted replacement text : List Char) : List Char :=
  if wanted.isEmpty then text else replaceFrom wanted replacement 0 text

/-- **The parts between separators**: one more than there are separators. -/
def splitOn (separator : Char) : List Char → List (List Char)
  | [] => [[]]
  | c :: cs =>
    if c = separator then [] :: splitOn separator cs
    else match splitOn separator cs with
      | [] => [[c]]
      | part :: parts => (c :: part) :: parts

/-- **The characters from `start` on, at most `length` of them.** -/
def slice (start length : Nat) (text : List Char) : List Char := (text.drop start).take length

end Text
end FormLogic
