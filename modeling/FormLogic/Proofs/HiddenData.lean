import FormLogic.Proofs.Dependence
/-!
# Hidden data

Form data is read in two ways: by its path, which only `dataModel` does, and through the binding of a component, which
is not followed while the component is hidden.  So an expression that does not call `dataModel` cannot tell two hosts
apart whose form data agrees wherever a visible component is bound (`Dialect.evaluate_hides`).  Which components it asks
for may come out of the evaluation itself: nothing is assumed of the ids.
-/
namespace FormLogic

/-- **Hosts that show the same** from a node: they differ in their form data at most, and nowhere that a component is
bound which can be found from the node and is not hidden. -/
structure Sources.ShowSame (node : Node) (sources sources' : Sources) : Prop where
  frame : sources' = { sources with formData := sources'.formData }
  visible : ∀ id c path, sources.component id node = some c → c.hidden = false → c.binding = some path →
    sources.formData path = sources'.formData path

theorem Lookup.boundValue_congr {sources sources' : Sources} {c : Component}
    (h : c.hidden = false → ∀ path, c.binding = some path → sources.formData path = sources'.formData path) :
    boundValue sources c = boundValue sources' c := by
  unfold boundValue
  cases hhidden : c.hidden with
  | true => rfl
  | false =>
    cases hbinding : c.binding with
    | none => rfl
    | some path =>
      simp only [Option.bind_some]
      rw [h hhidden path hbinding]

theorem Lookup.component_eq_ok {scope : Scope} {id : String} {c : Component} (h : component scope id = .ok c) :
    scope.sources.component id scope.node = some c := by
  unfold component at h
  split at h
  · cases h
  · split at h
    · rename_i hfound
      cases h
      exact hfound
    · cases h

section
variable {sources sources' : Sources} {node : Node}

/-- **What is done with the value of a component** cannot differ under two hosts that show the same: both find the same
component, and its value is the same. -/
theorem Sources.ShowSame.component_bind (h : sources.ShowSame node sources') (positional : List Value) (id : String)
    {next next' : Component → Except Cause Value}
    (hnext : ∀ c, Lookup.boundValue sources c = Lookup.boundValue sources' c → next c = next' c) :
    (Lookup.component ⟨sources, node, positional⟩ id >>= next) =
      (Lookup.component ⟨sources', node, positional⟩ id >>= next') := by
  have hcomponent : Lookup.component ⟨sources', node, positional⟩ id =
      Lookup.component ⟨sources, node, positional⟩ id := by
    rw [h.frame]
    rfl
  rw [hcomponent]
  cases hfound : Lookup.component ⟨sources, node, positional⟩ id with
  | error cause => rfl
  | ok c =>
    have hc : sources.component id node = some c := Lookup.component_eq_ok hfound
    exact hnext c (Lookup.boundValue_congr fun hhidden path => h.visible id c path hc hhidden)

/-- **Every standard operator but `dataModel`** gives the same under two hosts that show the same. -/
theorem Builtin.run_of_showSame {b : Builtin} (hb : b ≠ .dataModel) (h : sources.ShowSame node sources')
    (args positional : List Value) :
    b.run args ⟨sources, node, positional⟩ = b.run args ⟨sources', node, positional⟩ := by
  cases b with
  | dataModel => exact absurd rfl hb
  | component =>
    refine bind_congr fun id => h.component_bind positional id fun c hc => ?_
    rw [hc]
  | value =>
    show Lookup.ownValue _ = Lookup.ownValue _
    unfold Lookup.ownValue
    dsimp only
    split
    · rfl
    · refine h.component_bind positional _ fun c hc => ?_
      rw [hc]
  | displayValue =>
    refine bind_congr fun id => h.component_bind positional id fun c hc => ?_
    rw [hc, h.frame]
    rfl
  | _ =>
    rw [h.frame]
    rfl

end

/-- **Data that shows the same**: it differs in the form data at most, and nowhere that a component is bound which is
not hidden. -/
structure HostData.ShowSame (d d' : HostData) : Prop where
  frame : d' = { d with formData := d'.formData }
  visible : ∀ id c path, d.components.get? id = some c → c.hidden = false → c.binding = some path →
    d.sources.formData path = d'.sources.formData path

theorem HostData.ShowSame.sources {d d' : HostData} (h : d.ShowSame d') (node : Node) :
    d.sources.ShowSame node d'.sources := by
  refine ⟨?_, fun id c path hfound hhidden hbinding => ?_⟩
  · rw [h.frame]
    rfl
  · -- a component goes by the id it is stored under; its binding is the stored one
    obtain ⟨stored, hstored, rfl⟩ := Option.map_eq_some_iff.mp hfound
    exact h.visible id stored path hstored hhidden hbinding

namespace Dialect

/-- **Hidden data does not leak.**  An expression that does not call `dataModel` gets the same answer from data that
shows the same, in its value or report, its warnings and its calls, at every node and for every request. -/
theorem evaluate_hides {d d' : HostData} (h : d.ShowSame d') {e : Value} (he : ¬ e.Calls Builtin.dataModel.name)
    (node : Node) (config : Config) :
    standard.evaluate e d.sources node config = standard.evaluate e d'.sources node config := by
  refine standard_evaluate_congr rfl fun b hcalled args => ?_
  refine Builtin.run_of_showSame ?_ (h.sources node) args _
  rintro rfl
  exact he hcalled

/-- The id of a hidden component is computed by a call, and its data stays out of the sentence around it. -/
theorem evaluate_hides_secret :
    let data (secret : String) : HostData :=
      { formData := Table.ofList [("choice", .string "secret"), ("secret", .string secret)]
        components := Table.ofList
          [("choice", { binding := some "choice" }), ("secret", { binding := some "secret", hidden := true })] }
    let e : Value := .array [.string "concat", .array [.string "displayValue", .string "choice"], .string ": ",
      .array [.string "component", .array [.string "component", .string "choice"]]]
    (data "one").ShowSame (data "two") ∧ ¬ e.Calls Builtin.dataModel.name ∧
      (standard.evaluate e (data "one").sources (.page "front") {}).result = .ok (.string "secret: ") ∧
      (standard.evaluate e (data "two").sources (.page "front") {}).result = .ok (.string "secret: ") := by
  intro data e
  have hone : (standard.evaluate e (data "one").sources (.page "front") {}).result = .ok (.string "secret: ") := by
    decide +kernel +revert
  have hdata : (data "one").ShowSame (data "two") := by
    refine ⟨rfl, fun id c path hget hhidden hbinding => ?_⟩
    rcases List.mem_cons.mp (Table.mem_of_get?_ofList hget) with hchoice | hsecret
    · cases hchoice
      cases hbinding
      decide +kernel
    · cases List.mem_singleton.mp hsecret
      cases hhidden
  have he : ¬ e.Calls Builtin.dataModel.name := by decide +kernel
  refine ⟨hdata, he, hone, ?_⟩
  rw [← evaluate_hides hdata he]
  exact hone

end Dialect
end FormLogic
