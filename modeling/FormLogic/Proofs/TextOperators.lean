import FormLogic.Proofs.StandardCalls
import FormLogic.Proofs.Words
import Mathlib.Algebra.GroupWithZero.Nat
/-!
# What the operators on texts answer

The operators that search in a text and the one that joins texts do what they say with the texts that they are given.
They are given the forms of the texts, not the texts as they are written, and what they give is brought to its form
again.  So a search answers about the forms (`Dialect.standard_substrings`), and texts that spell no word may be joined
to one that does, and is lost (`Dialect.standard_concat`).
-/
namespace FormLogic

namespace Strings

/-- **A test of two texts holds** only where both are there. -/
theorem test_eq_true {holds : List Char → List Char → Bool} {a b : Option String} :
    test holds [.ofText? a, .ofText? b] = true ↔
      ∃ s t, a = some s ∧ b = some t ∧ holds s.toList t.toList = true := by
  cases a with
  | none => simp [test, Arguments.text?, Value.string?_ofText?]
  | some s =>
    cases b with
    | none => simp [test, Arguments.text?, Value.string?_ofText?]
    | some t => simp [test, Arguments.text?, Value.string?_ofText?]

theorem concat_map_string (texts : List String) : concat (texts.map .string) = .string (String.join texts) := by
  have hstrings : (texts.map Value.string).filterMap Value.string? = texts := by
    rw [List.filterMap_map]
    exact List.filterMap_some
  rw [concat, hstrings]

end Strings

section
variable {rules : Rules} {scope : Scope} {path : Path}

/-- Texts that are no words are passed on to `concat` as they stand. -/
theorem evaluateArguments_texts (hcasts : rules.casts = .standard) {index : Nat} {texts : List String}
    (h : ∀ s ∈ texts, ¬ Text.IsWord s) :
    (evaluateArguments rules scope path Builtin.concat.name Builtin.concat.signature index (texts.map .string)).outcome
      = .ok (texts.map .string) := by
  have hkind : ∀ index, Builtin.concat.signature.kindAt Builtin.concat.name index = .ok .string := by
    intro index
    cases index <;> rfl
  refine evaluateArguments_literals hkind (List.forall₂_same.mpr fun v hv => ?_)
  obtain ⟨s, hs, rfl⟩ := List.mem_map.mp hv
  refine ⟨rfl, ?_⟩
  rw [hcasts, CastTable.standard_cast_string, Text.settle?_of_not_isWord (h s hs)]
  rfl

/-- **Joined texts** are brought to the form of the whole. -/
theorem evaluate_concat (hops : rules.operators = .standard) (hcasts : rules.casts = .standard)
    (hdepth : path.length ≤ rules.maxDepth) {texts : List String} (h : ∀ s ∈ texts, ¬ Text.IsWord s) :
    (evaluate rules scope path (.array (.string Builtin.concat.name :: texts.map .string))).outcome
      = .ok (.ofText? (Text.settle? (String.join texts))) := by
  refine evaluate_builtin hops hdepth rfl (evaluateArguments_texts hcasts h)
    (congrArg Except.ok (Strings.concat_map_string texts)) ?_
  rw [hcasts]
  exact CastTable.standard_cast_string (String.join texts)

end

/-- **Two texts as the operators see them**, in a relation: the form of the second to the form of the first. -/
def Text.FormsRelated (relation : List Char → List Char → Prop) (s t : String) : Prop :=
  ∃ s' t', settle? s = some s' ∧ settle? t = some t' ∧ relation t'.toList s'.toList

namespace Dialect

/-- **A test of two texts**, asked for as a request, is the test of their forms. -/
theorem standard_result_of_texts {b : Builtin} (hsignature : b.signature = .fixed [.string, .string] .boolean)
    {test : List Value → Bool} (hrun : ∀ args scope, b.run args scope = .ok (.bool (test args))) (s t : String)
    {sources : Sources} {node : Node} :
    (standard.evaluate (.array [.string b.name, .string s, .string t]) sources node {}).result =
      .ok (.bool (test [.ofText? (Text.settle? s), .ofText? (Text.settle? t)])) :=
  standard_result_of_two hsignature rfl rfl (CastTable.standard_cast_string s) (CastTable.standard_cast_string t)
    (hrun _ _) rfl

/-- **What a search in a text answers.**  One text is found in another, at its start or at its end, exactly when neither
spells `null` and the form of the one is so found in the form of the other; the two forms are the texts themselves, but
for spellings of `true` and `false`, which are taken in lower case.  The negated search answers the opposite. -/
theorem standard_substrings (s t : String) (sources : Sources) (node : Node) :
    ∃ occurs starts ends : Bool,
      (standard.evaluate (.array [.string "contains", .string s, .string t]) sources node {}).result
        = .ok (.bool occurs) ∧
      (standard.evaluate (.array [.string "notContains", .string s, .string t]) sources node {}).result
        = .ok (.bool !occurs) ∧
      (standard.evaluate (.array [.string "startsWith", .string s, .string t]) sources node {}).result
        = .ok (.bool starts) ∧
      (standard.evaluate (.array [.string "endsWith", .string s, .string t]) sources node {}).result
        = .ok (.bool ends) ∧
      (occurs = true ↔ Text.FormsRelated List.IsInfix s t) ∧
      (starts = true ↔ Text.FormsRelated List.IsPrefix s t) ∧
      (ends = true ↔ Text.FormsRelated List.IsSuffix s t) := by
  refine ⟨_, _, _, standard_result_of_texts (b := .contains) rfl (fun _ _ => rfl) s t,
    standard_result_of_texts (b := .notContains) rfl (fun _ _ => rfl) s t,
    standard_result_of_texts (b := .startsWith) rfl (fun _ _ => rfl) s t,
    standard_result_of_texts (b := .endsWith) rfl (fun _ _ => rfl) s t, ?_, ?_, ?_⟩
  · simp only [Strings.contains, Strings.test_eq_true, Text.occursIn_iff, Text.FormsRelated]
  · simp only [Strings.startsWith, Strings.test_eq_true, List.isPrefixOf_iff_prefix, Text.FormsRelated]
  · simp only [Strings.endsWith, Strings.test_eq_true, List.isSuffixOf_iff_suffix, Text.FormsRelated]

/-- The spelling `TRUE` starts with `TR` and contains it, but its form does neither. -/
theorem standard_substrings_upper_case :
    "TR".toList <:+: "TRUE".toList ∧
      (standard.evaluate (.array [.string "contains", .string "TRUE", .string "TR"]) .none .detached {}).result
        = .ok (.bool false) ∧
      "TR".toList <+: "TRUE".toList ∧
      (standard.evaluate (.array [.string "startsWith", .string "TRUE", .string "TR"]) .none .detached {}).result
        = .ok (.bool false) :=
  ⟨⟨[], ['U', 'E'], rfl⟩, rfl, ⟨['U', 'E'], rfl⟩, rfl⟩

/-- **What becomes of joined texts**, none of which spells a word.  They give their concatenation, and its length is the
sum of theirs, unless the whole spells a word: a spelling of `true` or `false` is then given in lower case, and a
spelling of `null` is null, of length 0. -/
theorem standard_concat {texts : List String} (h : ∀ s ∈ texts, ¬ Text.IsWord s) (sources : Sources) (node : Node) :
    (standard.evaluate (.array (.string "concat" :: texts.map .string)) sources node {}).result
        = .ok (.ofText? (Text.settle? (String.join texts))) ∧
      (standard.evaluate (.array [.string "length", .array (.string "concat" :: texts.map .string)])
          sources node {}).result
        = .ok (.ofNat
          (if Text.sameIgnoringCase (String.join texts) "null" then 0 else (texts.map String.length).sum)) := by
  have hcast : CastTable.standard.cast (.ofText? (Text.settle? (String.join texts))) .string
      = .ok (.ofText? (Text.settle? (String.join texts))) :=
    CastTable.standard_cast_of_fits (CastTable.standard_cast_fits (CastTable.standard_cast_string (String.join texts)))
  have hargument : (evaluateArgument (standard.rules defaultMaxDepth) ⟨sources, node, []⟩ [] Builtin.length.name
      Builtin.length.signature 0 (.array (.string "concat" :: texts.map .string))).outcome
        = .ok (.ofText? (Text.settle? (String.join texts))) :=
    evaluateArgument_eq_ok.mpr ⟨_, .string, evaluate_concat rfl rfl (by decide) h, rfl, hcast⟩
  have hlength : Builtin.length.run [.ofText? (Text.settle? (String.join texts))] ⟨sources, node, []⟩ =
      .ok (.ofNat (if Text.sameIgnoringCase (String.join texts) "null" then 0 else (texts.map String.length).sum)) := by
    rw [← String.length_join, ← Text.length_settle?]
    exact congrArg (fun s => Except.ok (Value.ofNat (s.elim 0 String.length))) (Value.string?_ofText? _)
  exact ⟨result_of_evaluate (evaluate_concat rfl rfl (Nat.zero_le _) h),
    result_of_evaluate (evaluate_builtin (b := .length) rfl (Nat.zero_le _) rfl
      (evaluateArguments_cons_of_ok hargument rfl) hlength rfl)⟩

/-- Two texts that are no words, joined to a spelling of `true`. -/
theorem standard_concat_true :
    (∀ s ∈ ["TR", "UE"], ¬ Text.IsWord s) ∧
      (standard.evaluate (.array [.string "concat", .string "TR", .string "UE"]) .none .detached {}).result
        = .ok (.string "true") ∧
      (standard.evaluate (.array [.string "length", .array [.string "concat", .string "TR", .string "UE"]])
        .none .detached {}).result = .ok (.ofNat 4) := by
  have hwords : ∀ s ∈ ["TR", "UE"], ¬ Text.IsWord s := by decide
  obtain ⟨hjoined, hlength⟩ := standard_concat hwords .none .detached
  exact ⟨hwords, hjoined, hlength⟩

/-- Two texts that are no words, joined to `null`: the four characters are gone. -/
theorem standard_concat_null :
    (∀ s ∈ ["nu", "ll"], ¬ Text.IsWord s) ∧
      (standard.evaluate (.array [.string "concat", .string "nu", .string "ll"]) .none .detached {}).result
        = .ok .null ∧
      (standard.evaluate (.array [.string "length", .array [.string "concat", .string "nu", .string "ll"]])
        .none .detached {}).result = .ok (.ofNat 0) := by
  have hwords : ∀ s ∈ ["nu", "ll"], ¬ Text.IsWord s := by decide
  exact ⟨hwords, rfl, rfl⟩

end Dialect
end FormLogic
