import FormLogic.Proofs.Requests
import FormLogic.Wire.Request
/-!
# Documents read back

What is written into a member of a document is read out of it again, with null for what is not set.  A default value is
the one member for which null is not the same as absent, and so a configuration changes on its way when it has none
(`reread_config`): its requests then recover from failures that they used to report.
-/
namespace FormLogic
namespace Wire

variable {α : Type} {read : Value → Option α} {write : α → Value}

/-- **What may be null is read back**, if what is there is, and is not written as null. -/
theorem nullable?_orNull (hread : ∀ a, read (write a) = some a) (hnull : ∀ a, write a ≠ .null) (a : Option α) :
    nullable? read (orNull write a) = some a := by
  cases a with
  | none => rfl
  | some a =>
    show nullable? read (write a) = some (some a)
    unfold nullable?
    split
    · rename_i h
      exact absurd h (hnull a)
    · rw [hread a, Option.map_some]

/-- **An optional member is read back**, set or not. -/
theorem optional_orNull (hread : ∀ a, read (write a) = some a) (hnull : ∀ a, write a ≠ .null)
    {members : List (String × Value)} {key : String} {a : Option α}
    (hfind : findEntry key members = some (orNull write a)) : optional read members key = some a := by
  unfold optional defaulted
  rw [hfind]
  exact nullable?_orNull hread hnull a

end Wire

theorem Kind.ofValue?_toValue (k : Kind) : Kind.ofValue? k.toValue = some k := by
  cases k <;> rfl

namespace Config

theorem depth?_ofNat (limit : UInt64) : depth? (.ofNat limit.toNat) = some limit := by
  have hnonneg : 0 ≤ (limit.toNat : Int) := Int.natCast_nonneg _
  have hlt : (limit.toNat : Int) < (Nat.pow 2 64 : Nat) := Int.ofNat_lt.mpr limit.toNat_lt
  simp only [depth?, Value.ofNat, Value.ofInt, Wire.word?, hnonneg, hlt, and_self, if_true, Int.toNat_natCast,
    Option.map_some, UInt64.ofNat_toNat]

/-- **A configuration as it is read back**: the default value is set. -/
def reread (c : Config) : Config := { c with defaultValue := some (c.defaultValue.getD .null) }

/-- The members that a configuration is written with. -/
def members (c : Config) : List (String × Value) :=
  [("defaultValue", c.defaultValue.getD .null),
   ("errorIntroText", Wire.orNull .string c.errorIntroduction),
   ("maxDepth", Wire.orNull (fun limit => .ofNat limit.toNat) c.maxDepth),
   ("positionalArguments", Wire.orNull .array c.positionalArguments),
   ("returnType", Wire.orNull Kind.toValue c.returnType)]

/-- **Reading what was written** gives back all but an unset default value. -/
theorem ofValue?_toValue (c : Config) : ofValue? c.toValue = some c.reread := by
  have hdefault : findEntry "defaultValue" c.members = some (c.defaultValue.getD .null) := rfl
  have hkind : Wire.optional Kind.ofValue? c.members "returnType" = some c.returnType :=
    Wire.optional_orNull Kind.ofValue?_toValue (fun k h => by cases h) rfl
  have hintroduction : Wire.optional Value.string? c.members "errorIntroText" = some c.errorIntroduction :=
    Wire.optional_orNull (fun s => show Value.string? (.string s) = some s from rfl) (fun s h => by cases h) rfl
  have harguments : Wire.optional Value.items? c.members "positionalArguments" = some c.positionalArguments :=
    Wire.optional_orNull (fun items => show Value.items? (.array items) = some items from rfl)
      (fun items h => by cases h) rfl
  have hdepth : Wire.optional depth? c.members "maxDepth" = some c.maxDepth :=
    Wire.optional_orNull depth?_ofNat (fun limit h => by cases h) rfl
  show ofValue? (.object c.members) = some c.reread
  simp only [ofValue?, Value.members?, hdefault, hkind, hintroduction, harguments, hdepth, Option.bind_eq_bind,
    Option.bind_some, Option.pure_def, reread]

theorem reread_eq_iff (c : Config) : c.reread = c ↔ c.defaultValue ≠ none := by
  obtain ⟨defaultValue, _, _, _, _⟩ := c
  cases defaultValue <;> simp [reread]

theorem orDefault_reread (c : Config) (v : Value) : c.reread.orDefault v = c.orDefault v := by
  cases v with
  | null => cases h : c.defaultValue <;> simp [orDefault, reread, h]
  | _ => rfl

end Config

/-- **The evaluation itself is the same** under the configuration read back. -/
theorem Dialect.evaluateRoot_reread (d : Dialect) (e : Value) (scope : Scope) (c : Config) :
    d.evaluateRoot e scope c.reread = d.evaluateRoot e scope c := by
  have hdepth : c.reread.depthLimit = c.depthLimit := rfl
  have hkind : c.reread.returnType = c.returnType := rfl
  unfold evaluateRoot
  simp only [Config.orDefault_reread, hdepth, hkind]

/-- **What becomes of a configuration that is written and read back.**  It is the same exactly when it has a default
value.  Every request that succeeds gives the same value under it; every request that fails gives null and a warning
instead, so the results agree exactly for the requests that do not fail. -/
theorem reread_config (c : Config) :
    ∃ c', Config.ofValue? c.toValue = some c' ∧ (c' = c ↔ c.defaultValue ≠ none) ∧
      ∀ (d : Dialect) (e : Value) (sources : Sources) (node : Node),
        ((d.evaluate e sources node c').result = (d.evaluate e sources node c).result ↔
          ∃ v, (d.evaluate e sources node c).result = .ok v) ∧
        ∀ report, (d.evaluate e sources node c).result = .error report →
          (d.evaluate e sources node c').result = .ok .null ∧
            (d.evaluate e sources node c').warnings = [report.warning] := by
  refine ⟨c.reread, c.ofValue?_toValue, c.reread_eq_iff, fun d e sources node => ?_⟩
  have hrun : d.evaluateRoot e (c.reread.scope sources node) c.reread = d.evaluateRoot e (c.scope sources node) c :=
    d.evaluateRoot_reread e (c.scope sources node) c
  cases houtcome : (d.evaluateRoot e (c.scope sources node) c).outcome with
  | ok v =>
    obtain ⟨hresult, -⟩ := Dialect.evaluate_of_ok houtcome
    obtain ⟨hresult', -⟩ := Dialect.evaluate_of_ok (hrun ▸ houtcome)
    rw [hresult, hresult']
    exact ⟨⟨fun _ => ⟨v, rfl⟩, fun _ => rfl⟩, fun report h => by cases h⟩
  | error failure =>
    have houtcome' : (d.evaluateRoot e (c.reread.scope sources node) c.reread).outcome = .error failure :=
      hrun ▸ houtcome
    obtain ⟨hresult', hwarnings'⟩ := Dialect.evaluate_of_error_default houtcome' rfl
    cases hdefault : c.defaultValue with
    | none =>
      obtain ⟨hresult, -⟩ := Dialect.evaluate_of_error houtcome hdefault
      rw [hresult, hresult', hwarnings', hdefault]
      refine ⟨⟨fun h => (by cases h), fun ⟨v, h⟩ => (by cases h)⟩, fun report h => ?_⟩
      cases h
      exact ⟨rfl, rfl⟩
    | some v =>
      obtain ⟨hresult, -⟩ := Dialect.evaluate_of_error_default houtcome hdefault
      rw [hresult, hresult', hdefault]
      exact ⟨⟨fun _ => ⟨v, rfl⟩, fun _ => rfl⟩, fun report h => by cases h⟩

/-- A configuration in which nothing is set, and a failure that it used to report. -/
theorem reread_config_unset :
    let e : Value := .array [.string "not", .string "maybe"]
    ∃ c', Config.ofValue? ({} : Config).toValue = some c' ∧ c' ≠ {} ∧
      (∃ report, (Dialect.standard.evaluate e .none .detached {}).result = .error report) ∧
      (Dialect.standard.evaluate e .none .detached c').result = .ok .null :=
  ⟨⟨some .null, none, none, none, none⟩, rfl, by decide, ⟨_, rfl⟩, rfl⟩

end FormLogic
