import FormLogic.Proofs.Occurrences
import FormLogic.Proofs.Words
import Mathlib.Tactic.LinearCombination
/-!
# Replacements

The occurrences that are replaced part a text into pieces (`Text.Parted`): each piece ends where the wanted text stands
for the first time in what is left, and it does not stand in the last.  There is exactly one such list of pieces, and it
does not depend on the replacement.  What a replacement gives are the same pieces with the replacement between them
(`Strings.stringReplace_joins`), so that text that was put in is never searched.
-/
namespace FormLogic
namespace Text

/-- **The pieces of a text between the occurrences of another**, taken from the left. -/
inductive Parted {α : Type} (wanted : List α) : List α → List (List α) → Prop where
  | last {text : List α} (habsent : ¬ wanted <:+: text) : Parted wanted text [text]
  | next {text piece rest : List α} {pieces : List (List α)} (hsplit : text = piece ++ wanted ++ rest)
      (hfirst : StandsFirst wanted text piece.length) (hrest : Parted wanted rest pieces) :
      Parted wanted text (piece :: pieces)

section
variable {α : Type} {wanted text : List α} {pieces others : List (List α)} {i j : Nat}

theorem StandsFirst.unique (hi : StandsFirst wanted text i) (hj : StandsFirst wanted text j) : i = j := by
  rcases Nat.lt_trichotomy i j with hlt | heq | hgt
  · exact absurd hi.1 (hj.2 i hlt)
  · exact heq
  · exact absurd hj.1 (hi.2 j hgt)

namespace Parted

theorem ne_nil (h : Parted wanted text pieces) : pieces ≠ [] := by
  cases h <;> exact List.cons_ne_nil _ _

/-- **With what stood between them** the pieces are the text again. -/
theorem intercalate_eq (h : Parted wanted text pieces) : wanted.intercalate pieces = text := by
  induction h with
  | last habsent => exact List.intercalate_singleton
  | next hsplit hfirst hrest ih => rw [List.intercalate_cons_of_ne_nil hrest.ne_nil, ih, hsplit]

/-- **There is one way to part a text.** -/
theorem unique (h : Parted wanted text pieces) (h' : Parted wanted text others) : others = pieces := by
  induction h generalizing others with
  | last habsent =>
    cases h' with
    | last => rfl
    | next hsplit => exact absurd (hsplit ▸ List.infix_append _ _ _) habsent
  | next hsplit hfirst hrest ih =>
    cases h' with
    | last habsent => exact absurd (hsplit ▸ List.infix_append _ _ _) habsent
    | next hsplit' hfirst' hrest' =>
      rw [hsplit, List.append_assoc, List.append_assoc] at hsplit'
      obtain ⟨rfl, hsame⟩ := List.append_inj hsplit' (hfirst.unique hfirst')
      have hothers := ih ((List.append_cancel_left hsame).symm ▸ hrest')
      rw [hothers]

/-- **What another text between the pieces does to the length.** -/
theorem length_intercalate (h : Parted wanted text pieces) (replacement : List α) :
    ((replacement.intercalate pieces).length : Int) =
      text.length + (pieces.length - 1) * (replacement.length - wanted.length) := by
  induction h with
  | last habsent => simp
  | next hsplit hfirst hrest ih =>
    rw [List.intercalate_cons_of_ne_nil hrest.ne_nil, hsplit]
    simp only [List.length_append, List.length_cons, Nat.cast_add, Nat.cast_one]
    linear_combination ih

end Parted
end

section
variable {wanted replacement text : List Char} {pieces : List (List Char)}

/-- **Every text can be parted**, at the occurrences of a text that is not empty. -/
theorem exists_parted (hwanted : wanted ≠ []) : ∀ text : List Char, ∃ pieces, Parted wanted text pieces := by
  intro text
  induction hn : text.length using Nat.strongRecOn generalizing text with
  | ind n ih =>
    by_cases habsent : wanted <:+: text
    · obtain ⟨position, hposition⟩ := Option.isSome_iff_exists.mp (occursIn_iff.mpr habsent)
      have hfirst := indexOf?_eq_some.mp hposition
      obtain ⟨rest, hrest⟩ := hfirst.1
      have hinside : (text.take position).length = position := List.length_take_of_le (indexOf?_le_length hposition)
      have hsplit : text = text.take position ++ wanted ++ rest := by
        rw [List.append_assoc, hrest, List.take_append_drop]
      have hlength := congrArg List.length hsplit
      have hpos : 0 < wanted.length := List.length_pos_iff.mpr hwanted
      rw [List.length_append, List.length_append] at hlength
      obtain ⟨pieces, hpieces⟩ := ih rest.length (by omega) rest rfl
      exact ⟨_, .next hsplit (by rwa [hinside]) hpieces⟩
    · exact ⟨_, .last habsent⟩

theorem replaceFrom_eq_drop : ∀ (covered : Nat) (text : List Char),
    replaceFrom wanted replacement covered text = replaceFrom wanted replacement 0 (text.drop covered)
  | 0, _ => rfl
  | _ + 1, [] => by rw [List.drop_nil, replaceFrom, replaceFrom]
  | covered + 1, c :: cs => by rw [replaceFrom, List.drop_succ_cons, replaceFrom_eq_drop covered cs]

theorem replaceFrom_of_absent : ∀ {text : List Char}, ¬ wanted <:+: text →
    replaceFrom wanted replacement 0 text = text
  | [], _ => by rw [replaceFrom]
  | c :: cs, h => by
    rw [List.infix_cons_iff, not_or] at h
    obtain ⟨hstart, hrest⟩ := h
    rw [replaceFrom, if_neg (fun hprefix => hstart (List.isPrefixOf_iff_prefix.mp hprefix)),
      replaceFrom_of_absent hrest]

/-- **The first occurrence is replaced**, and the rest after it is looked at for itself. -/
theorem replaceFrom_of_standsFirst (hwanted : wanted ≠ []) {rest : List Char} : ∀ {piece : List Char},
    StandsFirst wanted (piece ++ wanted ++ rest) piece.length →
      replaceFrom wanted replacement 0 (piece ++ wanted ++ rest) =
        piece ++ replacement ++ replaceFrom wanted replacement 0 rest
  | [], _ => by
    obtain ⟨c, cs, rfl⟩ := List.exists_cons_of_ne_nil hwanted
    have hstart : (c :: cs).isPrefixOf (c :: (cs ++ rest)) = true :=
      List.isPrefixOf_iff_prefix.mpr (List.prefix_append (c :: cs) rest)
    rw [List.nil_append, List.nil_append, List.cons_append, replaceFrom, if_pos hstart, replaceFrom_eq_drop,
      List.length_cons, Nat.add_sub_cancel, List.drop_left]
  | a :: piece, h => by
    obtain ⟨hstart, hfirst⟩ := standsFirst_cons.mp h
    have hnot : ¬ wanted.isPrefixOf (a :: (piece ++ wanted ++ rest)) = true :=
      fun hprefix => hstart (List.isPrefixOf_iff_prefix.mp hprefix)
    rw [List.cons_append, List.cons_append, replaceFrom, if_neg hnot, replaceFrom_of_standsFirst hwanted hfirst,
      List.cons_append, List.cons_append]

/-- **A replacement joins the pieces** of the text. -/
theorem replace_eq_intercalate (hwanted : wanted ≠ []) (h : Parted wanted text pieces) :
    replace wanted replacement text = replacement.intercalate pieces := by
  have hfrom : replaceFrom wanted replacement 0 text = replacement.intercalate pieces := by
    induction h with
    | last habsent => rw [replaceFrom_of_absent habsent, List.intercalate_singleton]
    | next hsplit hfirst hrest ih =>
      rw [hsplit] at hfirst ⊢
      rw [replaceFrom_of_standsFirst hwanted hfirst, ih, List.intercalate_cons_of_ne_nil hrest.ne_nil]
  rw [replace, if_neg (by simpa using hwanted), hfrom]

/-! ## Bytes -/

theorem encode_intercalate : ∀ pieces : List (List Char),
    encode (replacement.intercalate pieces) = (encode replacement).intercalate (pieces.map encode)
  | [] => rfl
  | [piece] => by rw [List.map_singleton, List.intercalate_singleton, List.intercalate_singleton]
  | piece :: second :: pieces => by
    rw [List.map_cons, List.map_cons, List.intercalate_cons_cons, List.intercalate_cons_cons, encode_append,
      encode_append, encode_intercalate (second :: pieces), List.map_cons]

theorem StandsFirst.encode {position : Nat} (h : StandsFirst wanted text position) :
    StandsFirst (encode wanted) (encode text) (encode (text.take position)).length := by
  have hbyte := byteIndexOf?_eq wanted text
  rw [indexOf?_eq_some.mpr h, Option.map_some, ← length_encode] at hbyte
  exact standsFirst_of_byteIndexOf? hbyte

/-- **The bytes of a text are parted as the text is.** -/
theorem Parted.encode (h : Parted wanted text pieces) :
    Parted (encode wanted) (encode text) (pieces.map encode) := by
  induction h with
  | last habsent => exact .last (fun hinfix => habsent (encode_infix_iff.mp hinfix))
  | next hsplit hfirst hrest ih =>
    refine .next ?_ ?_ ih
    · rw [hsplit, encode_append, encode_append]
    · have hbytes := hfirst.encode
      rwa [hsplit, List.append_assoc, List.take_left, ← List.append_assoc, ← hsplit] at hbytes

end
end Text

namespace Strings

/-- **The pieces of a string between the occurrences of another.** -/
def IsParted (wanted s : String) (pieces : List String) : Prop :=
  Text.Parted wanted.toList s.toList (pieces.map String.toList)

section
variable {s wanted : String} {pieces others : List String}

theorem exists_isParted (hwanted : wanted ≠ "") (s : String) : ∃ pieces, IsParted wanted s pieces := by
  have hne : wanted.toList ≠ [] := by simpa using hwanted
  obtain ⟨pieces, hpieces⟩ := Text.exists_parted hne s.toList
  refine ⟨pieces.map String.ofList, ?_⟩
  have htexts : (pieces.map String.ofList).map String.toList = pieces := by
    rw [List.map_map]
    exact List.map_id'' (fun _ => String.toList_ofList) pieces
  rwa [IsParted, htexts]

theorem IsParted.unique (h : IsParted wanted s pieces) (h' : IsParted wanted s others) : others = pieces :=
  List.map_injective_iff.mpr (fun _ _ => String.toList_inj.mp) (Text.Parted.unique h h')

theorem IsParted.intercalate_eq (h : IsParted wanted s pieces) : wanted.intercalate pieces = s := by
  rw [← String.toList_inj, String.toList_intercalate]
  exact Text.Parted.intercalate_eq h

theorem stringReplace_eq (s : String) (v w : Value) :
    stringReplace [.string s, v, w] =
      .string (String.ofList (Text.replace (v.string?.getD "").toList (w.string?.getD "").toList s.toList)) := rfl

/-- The empty text, and a text that is missing, are never replaced. -/
theorem stringReplace_empty {v : Value} (hv : v.string?.getD "" = "") (w : Value) :
    stringReplace [.string s, v, w] = .string s := by
  rw [stringReplace_eq, hv, Text.replace, String.toList_empty, List.isEmpty_nil, if_pos rfl, String.ofList_toList]

theorem IsParted.stringReplace_eq (hwanted : wanted ≠ "") (h : IsParted wanted s pieces) (replacement : Option String) :
    stringReplace [.string s, .string wanted, .ofText? replacement] =
      .string ((replacement.getD "").intercalate pieces) := by
  have hne : wanted.toList ≠ [] := by simpa using hwanted
  have hreplaced : Text.replace wanted.toList (replacement.getD "").toList s.toList =
      ((replacement.getD "").intercalate pieces).toList := by
    rw [String.toList_intercalate]
    exact Text.replace_eq_intercalate hne h
  rw [Strings.stringReplace_eq, Value.string?_ofText?]
  exact congrArg Value.string (String.toList_inj.mp (String.toList_ofList.trans hreplaced))

end

/-- **What a replacement gives.**  The text that is looked for parts the string into pieces, from the left and without
overlaps, in exactly one way; the result is made of these pieces with the replacement between them, whatever that is,
and so it is longer by the difference of the two texts for each place between two pieces.  The text put in its own
place, or a text that does not occur, leaves the string as it is, and so does a text that is empty or missing.  The
bytes of the texts are parted and joined in the same way. -/
theorem stringReplace_joins (s wanted : String) :
    (∀ v w : Value, v = .null ∨ v = .string "" → stringReplace [.string s, v, w] = .string s) ∧
      (wanted ≠ "" → ∃ pieces : List String,
        IsParted wanted s pieces ∧ (∀ others, IsParted wanted s others → others = pieces) ∧
        wanted.intercalate pieces = s ∧
        (∀ replacement : Option String,
          stringReplace [.string s, .string wanted, .ofText? replacement] =
            .string ((replacement.getD "").intercalate pieces) ∧
          (((replacement.getD "").intercalate pieces).length : Int) =
            s.length + (pieces.length - 1) * ((replacement.getD "").length - wanted.length) ∧
          (contains [.string s, .string wanted] = false →
            stringReplace [.string s, .string wanted, .ofText? replacement] = .string s)) ∧
        stringReplace [.string s, .string wanted, .string wanted] = .string s ∧
        Text.Parted (Text.bytes wanted) (Text.bytes s) (pieces.map Text.bytes) ∧
        ∀ replacement : String, Text.bytes (replacement.intercalate pieces) =
          (Text.bytes replacement).intercalate (pieces.map Text.bytes)) := by
  refine ⟨fun v w hv => stringReplace_empty (by rcases hv with rfl | rfl <;> rfl) w, fun hwanted => ?_⟩
  obtain ⟨pieces, hpieces⟩ := exists_isParted hwanted s
  have hbytes : pieces.map Text.bytes = (pieces.map String.toList).map Text.encode := by
    rw [List.map_map]
    exact List.map_congr_left fun piece _ => Text.bytes_eq piece
  refine ⟨pieces, hpieces, fun others => hpieces.unique, hpieces.intercalate_eq,
    fun replacement => ⟨?_, ?_, ?_⟩, ?_, ?_, ?_⟩
  · exact hpieces.stringReplace_eq hwanted replacement
  · have hlength := Text.Parted.length_intercalate hpieces (replacement.getD "").toList
    rw [← String.toList_intercalate, List.length_map] at hlength
    exact hlength
  · intro habsent
    have hnot : ¬ wanted.toList <:+: s.toList := fun hinfix => by
      rw [contains_iff.mpr hinfix] at habsent
      cases habsent
    have hone : IsParted wanted s [s] := .last hnot
    rw [hpieces.stringReplace_eq hwanted, ← hpieces.unique hone, String.intercalate_singleton]
  · exact (hpieces.stringReplace_eq hwanted (some wanted)).trans (congrArg Value.string hpieces.intercalate_eq)
  · rw [hbytes, Text.bytes_eq, Text.bytes_eq]
    exact hpieces.encode
  · intro replacement
    rw [hbytes, Text.bytes_eq, Text.bytes_eq, String.toList_intercalate, Text.encode_intercalate]

/-- Occurrences that overlap, and one more that only the replacement makes: it stays. -/
theorem stringReplace_joins_seam :
    "aa" ≠ "" ∧ IsParted "aa" "aaabaa" ["", "ab", ""] ∧
      stringReplace [.string "aaabaa", .string "aa", .string "a"] = .string "aaba" := by
  have hsearch : "aa" ≠ "" := by decide
  have hparted : IsParted "aa" "aaabaa" ["", "ab", ""] := by
    have hlast : Text.Parted "aa".toList [] [[]] := .last (by decide)
    have hnext : Text.Parted "aa".toList "abaa".toList [['a', 'b'], []] :=
      .next rfl (Text.indexOf?_eq_some.mp rfl) hlast
    exact .next rfl (Text.standsFirst_zero.mpr (by decide)) hnext
  obtain ⟨pieces, -, hunique, -, hreplaced, -⟩ := (stringReplace_joins "aaabaa" "aa").2 hsearch
  have hresult := (hreplaced (some "a")).1
  rw [← hunique _ hparted] at hresult
  exact ⟨hsearch, hparted, hresult⟩

end Strings
end FormLogic
