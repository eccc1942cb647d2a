import FormLogic.Proofs.HiddenData
import FormLogic.Proofs.IntegerFormats
import FormLogic.Proofs.StandardCalls
import FormLogic.Proofs.Words
/-!
# Shown values and option labels

Two operators look for the label of a value among the choices of a component: `displayValue` for the value that the
component is bound to, and `optionLabel` for a value that it is given.  Both go by the plain text, so both find the
first choice with the same text (`Lookup.Decides`), and the label of a component's own value, where there is one, is
what the component shows (`Dialect.standard_displayValue_agrees`).
-/
namespace FormLogic

namespace Lookup

/-- **Values with the same text**: both have a plain text, and it is one and the same. -/
def SameText (v w : Value) : Prop := ∃ text, plainText v = some text ∧ plainText w = some text

/-- **The choice that decides for a value**: the first in the list with the same text. -/
def Decides (choices : List Choice) (v : Value) (choice : Choice) : Prop :=
  ∃ before after, choices = before ++ choice :: after ∧ SameText choice.value v ∧
    ∀ earlier ∈ before, ¬ SameText earlier.value v

/-- **The choices of a component**, none where it has no list. -/
def choices (sources : Sources) (c : Component) : List Choice := (sources.choiceList c.id).elim [] (·.choices)

/-- Whether the choices of a component are still on their way. -/
def fetching (sources : Sources) (c : Component) : Bool := (sources.choiceList c.id).elim false (·.fetching)

/-- **The label of a value** among the choices of a component. -/
def choiceLabel? (sources : Sources) (c : Component) (v : Value) : Option String :=
  (plainText v).bind fun text => (sources.choiceList c.id).bind (label? sources · text)

section
variable {sources : Sources} {c : Component} {v w : Value} {text : String}

theorem sameText_iff (hv : plainText v = some text) : SameText w v ↔ plainText w = some text := by
  constructor
  · rintro ⟨text', hw, hv'⟩
    rwa [Option.some.inj (hv.symm.trans hv')]
  · exact fun hw => ⟨text, hw, hv⟩

/-- **Null decides nothing**, for it has no text. -/
theorem Decides.ne_null {choices : List Choice} {choice : Choice} (h : Decides choices v choice) :
    choice.value ≠ .null := by
  obtain ⟨before, after, -, ⟨text, htext, -⟩, -⟩ := h
  intro hnull
  rw [hnull] at htext
  cases htext

theorem label?_eq_some {list : ChoiceList} {label : String} (hv : plainText v = some text) :
    label? sources list text = some label ↔
      ∃ choice, Decides list.choices v choice ∧ translate sources choice.label = label := by
  simp only [label?, Option.map_eq_some_iff, List.find?_eq_some_iff_append, Decides, sameText_iff hv, decide_eq_true_eq,
    Bool.not_eq_true', decide_eq_false_iff_not]
  constructor
  · rintro ⟨choice, ⟨htext, before, after, hsplit, hbefore⟩, hlabel⟩
    exact ⟨choice, ⟨before, after, hsplit, htext, hbefore⟩, hlabel⟩
  · rintro ⟨choice, ⟨before, after, hsplit, htext, hbefore⟩, hlabel⟩
    exact ⟨choice, ⟨htext, before, after, hsplit, hbefore⟩, hlabel⟩

/-- **The label of a value is that of the choice that decides.** -/
theorem choiceLabel?_eq_some {label : String} :
    choiceLabel? sources c v = some label ↔
      ∃ choice, Decides (choices sources c) v choice ∧ translate sources choice.label = label := by
  cases hv : plainText v with
  | none =>
    have hnot : ∀ choice, ¬ Decides (choices sources c) v choice := by
      rintro choice ⟨before, after, -, ⟨text, -, htext⟩, -⟩
      rw [hv] at htext
      cases htext
    simp [choiceLabel?, hv, hnot]
  | some text =>
    rw [choiceLabel?, hv, Option.bind_some, choices]
    cases sources.choiceList c.id with
    | none => simp [Decides]
    | some list => exact label?_eq_some hv

/-- **Without a choice of the same text there is no label.** -/
theorem choiceLabel?_eq_none (h : ∀ choice ∈ choices sources c, ¬ SameText choice.value v) :
    choiceLabel? sources c v = none := by
  refine Option.eq_none_iff_forall_not_mem.mpr fun label hlabel => ?_
  obtain ⟨choice, ⟨before, after, hsplit, hsame, -⟩, -⟩ := choiceLabel?_eq_some.mp hlabel
  refine h choice ?_ hsame
  rw [hsplit]
  exact List.mem_append_right before List.mem_cons_self

/-- **A number and its text are the same choice**, and so are an integer and its double, as long as the double is
exact. -/
theorem sameText_integer {i : Int} (h : i.natAbs ≤ 2 ^ 53) :
    ∃ x, Double.ofInt i = .finite x ∧ SameText (.ofInt i) (.number (.float x)) ∧
      SameText (.ofInt i) (.string (toString i)) := by
  have hbits : i.natAbs ≤ 2 ^ 64 := Nat.le_trans h (by decide)
  have hfinite := Double.ofInt_eq_nearest hbits
  obtain ⟨m, hround, htext⟩ := Layout.plain_writeDouble_ofInt hbits
  rw [hround.eq_of_le h, Int.sign_mul_natAbs, hfinite] at htext
  exact ⟨_, hfinite, ⟨_, rfl, congrArg some htext⟩, _, rfl, rfl⟩

/-! ## What the operators give -/

/-- The component that a text names, if the text is there. -/
def named? (sources : Sources) (node : Node) (key : Option String) : Option Component :=
  key.bind (sources.component · node)

theorem component_eq_ok_iff {node : Node} (hnode : node ≠ .detached) {positional : List Value} {id : String} :
    component ⟨sources, node, positional⟩ id = .ok c ↔ sources.component id node = some c := by
  refine ⟨component_eq_ok, fun h => ?_⟩
  rw [component, if_neg hnode]
  dsimp only
  rw [h]

/-- **What a named component is asked for** is answered once the component is found. -/
theorem component_bind_eq_ok {node : Node} (hnode : node ≠ .detached) {positional : List Value} {name : String}
    {key : Option String} {rest : List Value} {next : Component → Except Cause Value} {answer : Component → Value}
    (hnext : ∀ c, next c = .ok (answer c)) :
    (Arguments.key (.ofText? key :: rest) name >>= fun id => component ⟨sources, node, positional⟩ id >>= next)
        = .ok v ↔
      ∃ c, named? sources node key = some c ∧ answer c = v := by
  rw [Arguments.key, Arguments.text?, List.getElem?_cons_zero, Option.bind_some, Value.string?_ofText?]
  cases key with
  | none =>
    constructor
    · exact nofun
    · rintro ⟨c, hc, -⟩
      cases hc
  | some id =>
    show (component ⟨sources, node, positional⟩ id >>= next) = .ok v ↔ _
    constructor
    · intro h
      cases hfound : component ⟨sources, node, positional⟩ id with
      | error cause =>
        rw [hfound] at h
        cases h
      | ok c =>
        rw [hfound] at h
        exact ⟨c, (component_eq_ok_iff hnode).mp hfound, Except.ok.inj ((hnext c).symm.trans h)⟩
    · rintro ⟨c, hc, rfl⟩
      have hfound : component ⟨sources, node, positional⟩ id = .ok c := (component_eq_ok_iff hnode).mpr hc
      rw [hfound]
      exact hnext c

variable {node : Node} {positional : List Value} {key : Option String}

theorem componentValue_eq_ok (hnode : node ≠ .detached) :
    componentValue [.ofText? key] ⟨sources, node, positional⟩ = .ok v ↔
      ∃ c, named? sources node key = some c ∧ boundValue sources c = v :=
  component_bind_eq_ok hnode fun _ => rfl

/-- **The shown value** is the label of the value of the component, or else its plain text. -/
theorem displayValue_eq_ok (hnode : node ≠ .detached) :
    displayValue [.ofText? key] ⟨sources, node, positional⟩ = .ok v ↔
      ∃ c, named? sources node key = some c ∧
        .ofText? ((choiceLabel? sources c (boundValue sources c)).or (plainText (boundValue sources c))) = v := by
  refine component_bind_eq_ok hnode fun c => ?_
  unfold choiceLabel?
  dsimp only
  cases plainText (boundValue sources c) with
  | none => rfl
  | some text =>
    rw [Option.bind_some, Option.or_some]
    rfl

/-- **The label that is asked for** is missing while the choices are on their way. -/
theorem optionLabel_eq_ok (hnode : node ≠ .detached) :
    optionLabel [.ofText? key, w] ⟨sources, node, positional⟩ = .ok v ↔
      ∃ c, named? sources node key = some c ∧
        .ofText? (if fetching sources c then none else choiceLabel? sources c w) = v := by
  refine component_bind_eq_ok hnode fun c => ?_
  have hvalue : Arguments.value [.ofText? key, w] 1 = w := rfl
  unfold choiceLabel? fetching
  dsimp only
  rw [hvalue]
  cases plainText w with
  | none => exact congrArg (fun label => Except.ok (Value.ofText? label)) (ite_self none).symm
  | some text =>
    cases sources.choiceList c.id with
    | none => rfl
    | some list =>
      simp only [Option.bind_some, Option.elim_some]
      cases list.fetching with
      | true => rfl
      | false => cases label? sources list text <;> rfl

end
end Lookup

namespace CastTable

/-- **A cast to any kind** lets null and the scalars through as they are. -/
theorem standard_cast_any {v w : Value} :
    standard.cast v .any = .ok w ↔ v = w ∧ (v = .null ∨ v.HasKind .any) := by
  cases v <;> simp [cast, standard, Value.isNull, Value.kind?, Kind.all, Coercion.standard, Value.HasKind]

/-- **The text of a scalar** is its plain text, in its form. -/
theorem standard_cast_plainText {v : Value} (h : v = .null ∨ v.HasKind .any) :
    standard.cast v .string = .ok (.ofText? ((Lookup.plainText v).bind Text.settle?)) := by
  cases v with
  | null => rfl
  | bool b => cases b <;> rfl
  | number n =>
    have hword : ¬ Text.IsWord n.text := by
      obtain ⟨hnull, htrue, hfalse⟩ := n.text_not_same
      simp [Text.IsWord, hnull, htrue, hfalse]
    rw [Lookup.plainText, Option.bind_some, Text.settle?_of_not_isWord hword]
    rfl
  | string s => exact standard_cast_string s
  | array items => rcases h with h | h <;> cases h
  | object members => rcases h with h | h <;> cases h

end CastTable

section
variable {rules : Rules} {scope : Scope} {path : Path} {name : String} {signature : Signature} {id : String}

/-- **A literal text among the arguments** is given in its form. -/
theorem evaluateArguments_text_eq_ok (hcasts : rules.casts = .standard) {index : Nat}
    (hkind : signature.kindAt name index = .ok .string) {rest values : List Value} :
    (evaluateArguments rules scope path name signature index (.string id :: rest)).outcome = .ok values ↔
      ∃ others, (evaluateArguments rules scope path name signature (index + 1) rest).outcome = .ok others ∧
        .ofText? (Text.settle? id) :: others = values := by
  rw [evaluateArguments_cons_eq_ok]
  have hargument : ∀ v, (evaluateArgument rules scope path name signature index (.string id)).outcome = .ok v ↔
      .ofText? (Text.settle? id) = v := by
    intro v
    rw [evaluateArgument_literal_eq_ok rfl hkind, hcasts, CastTable.standard_cast_string, Except.ok.injEq]
  simp only [hargument, exists_and_left, exists_eq_left', eq_comm (a := values)]

/-- **A call that only names a component** gives what its operator makes of the form of the name. -/
theorem evaluate_named_eq_ok (hops : rules.operators = .standard) (hcasts : rules.casts = .standard)
    (hdepth : path.length ≤ rules.maxDepth) {b : Builtin} {returns : Kind}
    (hsignature : b.signature = .fixed [.string] returns) {value : Value} :
    (evaluate rules scope path (.array [.string b.name, .string id])).outcome = .ok value ↔
      ∃ raw, b.run [.ofText? (Text.settle? id)] scope = .ok raw ∧ CastTable.standard.cast raw returns = .ok value := by
  have hkind : b.signature.kindAt b.name 0 = .ok .string := by rw [hsignature]; rfl
  have hadmits : b.signature.admits [Value.string id].length = true := by rw [hsignature]; rfl
  have hreturns : b.signature.returns = returns := by rw [hsignature]; rfl
  rw [evaluate_builtin_eq_ok hops, hcasts, hreturns]
  simp only [evaluateArguments_text_eq_ok hcasts hkind, evaluateArguments_nil, Run.outcome_pure, Except.ok.injEq,
    exists_and_left, exists_eq_left', hdepth, hadmits, true_and]

end

namespace Lookup

/-- The call for the value of a component. -/
def componentCall (id : String) : Value := .array [.string "component", .string id]

/-- The call for what a component shows. -/
def displayCall (id : String) : Value := .array [.string "displayValue", .string id]

/-- The call for the label that the choices of a component have for a value. -/
def labelCall (id : String) (value : Value) : Value := .array [.string "optionLabel", .string id, value]

/-- **What a plain request gives**, with the standard operators and casts. -/
def Gives (sources : Sources) (node : Node) (e v : Value) : Prop :=
  (Dialect.standard.evaluate e sources node {}).result = .ok v

/-- **What `optionLabel` is given** where an expression stands as its second argument. -/
def GivesToLabel (sources : Sources) (node : Node) (e v : Value) : Prop :=
  (evaluateArgument (Dialect.standard.rules defaultMaxDepth) ⟨sources, node, []⟩ [] "optionLabel"
    Builtin.optionLabel.signature 1 e).outcome = .ok v

/-- **The value a named component is bound to**, be it a scalar or not. -/
def Binds (sources : Sources) (node : Node) (id : String) (v : Value) : Prop :=
  ∃ c, named? sources node (Text.settle? id) = some c ∧ boundValue sources c = v

/-- **The choices of a named component.** -/
def choicesOf (sources : Sources) (node : Node) (id : String) : List Choice :=
  (named? sources node (Text.settle? id)).elim [] (choices sources)

/-- Whether the choices of a named component are still on their way. -/
def fetches (sources : Sources) (node : Node) (id : String) : Bool :=
  (named? sources node (Text.settle? id)).elim false (fetching sources)

section
variable {sources : Sources} {node : Node} {id : String} {v e : Value}

theorem evaluate_componentCall (hnode : node ≠ .detached) {path : Path} (hdepth : path.length ≤ defaultMaxDepth) :
    (evaluate (Dialect.standard.rules defaultMaxDepth) ⟨sources, node, []⟩ path (componentCall id)).outcome = .ok v ↔
      Binds sources node id v ∧ (v = .null ∨ v.HasKind .any) := by
  have h : (evaluate (Dialect.standard.rules defaultMaxDepth) ⟨sources, node, []⟩ path (componentCall id)).outcome =
      .ok v ↔ _ := evaluate_named_eq_ok (b := .component) rfl rfl hdepth rfl
  refine h.trans ?_
  constructor
  · rintro ⟨raw, hrun, hcast⟩
    obtain ⟨rfl, hscalar⟩ := CastTable.standard_cast_any.mp hcast
    exact ⟨(componentValue_eq_ok hnode).mp hrun, hscalar⟩
  · rintro ⟨hbinds, hscalar⟩
    exact ⟨v, (componentValue_eq_ok hnode).mpr hbinds, CastTable.standard_cast_any.mpr ⟨rfl, hscalar⟩⟩

theorem gives_componentCall (hnode : node ≠ .detached) :
    Gives sources node (componentCall id) v ↔ Binds sources node id v ∧ (v = .null ∨ v.HasKind .any) :=
  Dialect.result_eq_ok.trans (evaluate_componentCall hnode (Nat.zero_le _))

theorem givesToLabel_iff : GivesToLabel sources node e v ↔
    (evaluate (Dialect.standard.rules defaultMaxDepth) ⟨sources, node, []⟩ [2] e).outcome = .ok v ∧
      (v = .null ∨ v.HasKind .any) := by
  unfold GivesToLabel
  rw [evaluateArgument_eq_ok]
  constructor
  · rintro ⟨w, kind, hw, hkind, hcast⟩
    cases hkind
    obtain ⟨rfl, hscalar⟩ := CastTable.standard_cast_any.mp hcast
    exact ⟨hw, hscalar⟩
  · rintro ⟨hv, hscalar⟩
    exact ⟨v, .any, hv, rfl, CastTable.standard_cast_any.mpr ⟨rfl, hscalar⟩⟩

theorem givesToLabel_componentCall (hnode : node ≠ .detached) :
    GivesToLabel sources node (componentCall id) v ↔ Gives sources node (componentCall id) v := by
  rw [givesToLabel_iff, gives_componentCall hnode, evaluate_componentCall hnode (by decide), and_assoc, and_self]

theorem gives_displayCall (hnode : node ≠ .detached) :
    Gives sources node (displayCall id) v ↔ ∃ c, named? sources node (Text.settle? id) = some c ∧
      .ofText? (((choiceLabel? sources c (boundValue sources c)).or (plainText (boundValue sources c))).bind
        Text.settle?) = v := by
  have h : (evaluate (Dialect.standard.rules defaultMaxDepth) ⟨sources, node, []⟩ [] (displayCall id)).outcome =
      .ok v ↔ _ := evaluate_named_eq_ok (b := .displayValue) rfl rfl (Nat.zero_le _) rfl
  refine Dialect.result_eq_ok.trans (h.trans ?_)
  have hrun : ∀ raw, Builtin.displayValue.run [.ofText? (Text.settle? id)] ⟨sources, node, []⟩ = .ok raw ↔ _ :=
    fun raw => displayValue_eq_ok hnode
  simp only [hrun]
  constructor
  · rintro ⟨raw, ⟨c, hc, rfl⟩, hcast⟩
    exact ⟨c, hc, Except.ok.inj ((CastTable.standard_cast_ofText? _).symm.trans hcast)⟩
  · rintro ⟨c, hc, rfl⟩
    exact ⟨_, ⟨c, hc, rfl⟩, CastTable.standard_cast_ofText? _⟩

theorem gives_labelCall (hnode : node ≠ .detached) :
    Gives sources node (labelCall id e) v ↔ ∃ c w, named? sources node (Text.settle? id) = some c ∧
      GivesToLabel sources node e w ∧
      .ofText? ((if fetching sources c then none else choiceLabel? sources c w).bind Text.settle?) = v := by
  refine Dialect.result_eq_ok.trans ((evaluate_builtin_eq_ok (b := .optionLabel) rfl).trans ?_)
  have hargument : ∀ w, (evaluateArgument (Dialect.standard.rules defaultMaxDepth) ⟨sources, node, []⟩ []
      Builtin.optionLabel.name Builtin.optionLabel.signature (0 + 1) e).outcome = .ok w ↔
        GivesToLabel sources node e w :=
    fun w => Iff.rfl
  have hkind : Builtin.optionLabel.signature.kindAt Builtin.optionLabel.name 0 = .ok .string := rfl
  have hcasts : (Dialect.standard.rules defaultMaxDepth).casts = .standard := rfl
  simp only [evaluateArguments_text_eq_ok hcasts hkind, evaluateArguments_cons_eq_ok, evaluateArguments_nil,
    Run.outcome_pure, Except.ok.injEq, hargument]
  constructor
  · rintro ⟨-, -, values, raw, ⟨others, ⟨w, _, hw, rfl, rfl⟩, rfl⟩, hrun, hcast⟩
    obtain ⟨c, hc, rfl⟩ := (optionLabel_eq_ok hnode).mp hrun
    exact ⟨c, w, hc, hw, Except.ok.inj ((CastTable.standard_cast_ofText? _).symm.trans hcast)⟩
  · rintro ⟨c, w, hc, hw, rfl⟩
    exact ⟨Nat.zero_le _, rfl, _, _, ⟨_, ⟨w, _, hw, rfl, rfl⟩, rfl⟩,
      (optionLabel_eq_ok hnode).mpr ⟨c, hc, rfl⟩, CastTable.standard_cast_ofText? _⟩

/-! ## How they agree -/

/-- **Null is bound** where the component is hidden, unbound, or without data. -/
theorem binds_null_iff : Binds sources node id .null ↔
    ∃ c, named? sources node (Text.settle? id) = some c ∧ (c.hidden = true ∨ c.binding = none ∨
      ∃ path, c.binding = some path ∧ (sources.formData path = none ∨ sources.formData path = some .null)) := by
  refine exists_congr fun c => and_congr_right fun _ => ?_
  unfold boundValue
  cases c.hidden with
  | true => simp
  | false =>
    cases c.binding with
    | none => simp
    | some path => cases hdata : sources.formData path <;> simp [hdata]

/-- **A label of the component's own value is what it shows.** -/
theorem gives_displayCall_of_labelCall (hnode : node ≠ .detached) (hnull : v ≠ .null)
    (h : Gives sources node (labelCall id (componentCall id)) v) : Gives sources node (displayCall id) v := by
  obtain ⟨c, w, hc, hw, rfl⟩ := (gives_labelCall hnode).mp h
  obtain ⟨⟨c', hc', rfl⟩, -⟩ := (gives_componentCall hnode).mp ((givesToLabel_componentCall hnode).mp hw)
  obtain rfl : c = c' := Option.some.inj (hc.symm.trans hc')
  refine (gives_displayCall hnode).mpr ⟨c, hc, ?_⟩
  -- the label is not null, so it was found, and among choices that are not on their way
  cases hlabel : choiceLabel? sources c (boundValue sources c) with
  | none =>
    rw [hlabel, ite_self] at hnull
    exact absurd rfl hnull
  | some label =>
    rw [hlabel] at hnull
    cases hfetching : fetching sources c with
    | true =>
      rw [hfetching] at hnull
      exact absurd rfl hnull
    | false => rfl

/-- **Nothing is shown of null**, whatever the choices are. -/
theorem gives_displayCall_null (hnode : node ≠ .detached) (h : Binds sources node id .null) :
    Gives sources node (displayCall id) .null := by
  obtain ⟨c, hc, hbound⟩ := h
  refine (gives_displayCall hnode).mpr ⟨c, hc, ?_⟩
  rw [hbound]
  rfl

/-- **A value that is no choice** is shown as its text. -/
theorem gives_displayCall_of_no_choice (hnode : node ≠ .detached) (h : Gives sources node (componentCall id) v)
    (hnone : ∀ choice ∈ choicesOf sources node id, ¬ SameText choice.value v) :
    ∃ shown, CastTable.standard.cast v .string = .ok shown ∧ Gives sources node (displayCall id) shown := by
  obtain ⟨⟨c, hc, rfl⟩, hscalar⟩ := (gives_componentCall hnode).mp h
  refine ⟨_, CastTable.standard_cast_plainText hscalar, (gives_displayCall hnode).mpr ⟨c, hc, ?_⟩⟩
  rw [choicesOf, hc] at hnone
  rw [choiceLabel?_eq_none hnone, Option.none_or]

/-- **The choice that decides** gives both operators their label. -/
theorem gives_of_decides (hnode : node ≠ .detached) {choice : Choice}
    (h : Decides (choicesOf sources node id) v choice) :
    ∃ shown, CastTable.standard.cast (.string (translate sources choice.label)) .string = .ok shown ∧
      (Binds sources node id v → Gives sources node (displayCall id) shown) ∧
      ∀ e, GivesToLabel sources node e v →
        Gives sources node (labelCall id e) (if fetches sources node id then .null else shown) := by
  refine ⟨_, CastTable.standard_cast_string _, ?_, fun e he => ?_⟩
  · rintro ⟨c, hc, rfl⟩
    rw [choicesOf, hc] at h
    refine (gives_displayCall hnode).mpr ⟨c, hc, ?_⟩
    rw [choiceLabel?_eq_some.mpr ⟨choice, h, rfl⟩]
    rfl
  · cases hc : named? sources node (Text.settle? id) with
    | none =>
      -- a component that is not there has no choices, and so none that decides
      rw [choicesOf, hc] at h
      obtain ⟨before, after, hsplit, -⟩ := h
      exact absurd hsplit.symm (List.append_ne_nil_of_right_ne_nil before (List.cons_ne_nil choice after))
    | some c =>
      rw [choicesOf, hc] at h
      refine (gives_labelCall hnode).mpr ⟨c, v, hc, he, ?_⟩
      rw [choiceLabel?_eq_some.mpr ⟨choice, h, rfl⟩, fetches, hc, Option.elim_some]
      cases fetching sources c <;> rfl

end
end Lookup

namespace Dialect

open Lookup

/-- **Shown values and option labels agree**, for a component that is named from a node of the form.  The label of the
component's own value is what the component shows.  Nothing is shown of null, which stands for a hidden component, an
unbound one, and one without data; a value without a choice of the same text is shown as its own text.  Where there are
such choices, the first of them decides for both operators, and null is never among them.  An integer has its text in
common with its double and with itself as a string. -/
theorem standard_displayValue_agrees (sources : Sources) {node : Node} (hnode : node ≠ .detached) (id : String) :
    (∀ label, label ≠ .null → Gives sources node (labelCall id (componentCall id)) label →
        Gives sources node (displayCall id) label) ∧
      (Gives sources node (componentCall id) .null → Gives sources node (displayCall id) .null) ∧
      (∀ v, v ≠ .null → Gives sources node (componentCall id) v →
        (∀ choice ∈ choicesOf sources node id, ¬ SameText choice.value v) →
        ∃ shown, CastTable.standard.cast v .string = .ok shown ∧ Gives sources node (displayCall id) shown) ∧
      (∀ v choice, Decides (choicesOf sources node id) v choice →
        choice.value ≠ .null ∧
        ∃ shown, CastTable.standard.cast (.string (translate sources choice.label)) .string = .ok shown ∧
          (Binds sources node id v → Gives sources node (displayCall id) shown) ∧
          ∀ e, GivesToLabel sources node e v →
            Gives sources node (labelCall id e) (if fetches sources node id then .null else shown)) ∧
      (∀ v, Gives sources node (componentCall id) v ↔ Binds sources node id v ∧ (v = .null ∨ v.HasKind .any)) ∧
      (∀ v, GivesToLabel sources node (componentCall id) v ↔ Gives sources node (componentCall id) v) ∧
      (Binds sources node id .null ↔ ∃ c, named? sources node (Text.settle? id) = some c ∧
        (c.hidden = true ∨ c.binding = none ∨ ∃ path, c.binding = some path ∧
          (sources.formData path = none ∨ sources.formData path = some .null))) ∧
      ∀ i : Int, i.natAbs ≤ 2 ^ 53 → ∃ x, Double.ofInt i = .finite x ∧
        SameText (.ofInt i) (.number (.float x)) ∧ SameText (.ofInt i) (.string (toString i)) := by
  refine ⟨fun label => gives_displayCall_of_labelCall hnode, fun h => ?_,
    fun v _ => gives_displayCall_of_no_choice hnode, fun v choice h => ⟨h.ne_null, gives_of_decides hnode h⟩,
    fun v => gives_componentCall hnode, fun v => givesToLabel_componentCall hnode, binds_null_iff,
    fun i => sameText_integer⟩
  exact gives_displayCall_null hnode ((gives_componentCall hnode).mp h).1

/-- A choice without a value, and three that have the text of the component's value: the first of the three decides. -/
theorem standard_displayValue_agrees_first :
    let list : ChoiceList :=
      { choices := [⟨.null, "none"⟩, ⟨.number (.float (.nearest 1 (by decide))), "double"⟩, ⟨.string "1", "text"⟩,
          ⟨.ofInt 1, "integer"⟩] }
    let data : HostData :=
      { formData := .ofList [("answer", .ofInt 1)], components := .ofList [("choice", { binding := some "answer" })]
        choiceLists := .ofList [("choice", list)], texts := .ofList [("double", "One")] }
    Node.page "front" ≠ .detached ∧
      Gives data.sources (.page "front") (labelCall "choice" (componentCall "choice")) (.string "One") ∧
      Gives data.sources (.page "front") (displayCall "choice") (.string "One") := by
  intro list data
  have hnode : Node.page "front" ≠ .detached := nofun
  have hlabel : Gives data.sources (.page "front") (labelCall "choice" (componentCall "choice")) (.string "One") := by
    show (standard.evaluate _ _ _ _).result = .ok _
    decide +kernel +revert
  exact ⟨hnode, hlabel, (standard_displayValue_agrees data.sources hnode "choice").1 _ nofun hlabel⟩

end Dialect
end FormLogic
