import FormLogic.Number
import FormLogic.Table
/-!
# Values

The data that expressions are made of and compute with: null, booleans, numbers, strings, arrays and objects.  An
expression is itself a value, an array headed by a string being a call.

The members of an object are kept in the order of their keys, as `Value.ofMembers` puts them.
-/
namespace FormLogic

inductive Value where
  | null
  | bool (b : Bool)
  | number (n : Number)
  | string (s : String)
  | array (items : List Value)
  | object (members : List (String × Value))

instance : Inhabited Value := ⟨.null⟩

namespace Value

mutual
/-- Equality of values, given when two numbers are equal. -/
def agree (sameNumber : Number → Number → Bool) : Value → Value → Bool
  | .null, .null => true
  | .bool a, .bool b => a == b
  | .number a, .number b => sameNumber a b
  | .string a, .string b => a == b
  | .array a, .array b => agreeItems sameNumber a b
  | .object a, .object b => agreeMembers sameNumber a b
  | _, _ => false
def agreeItems (sameNumber : Number → Number → Bool) : List Value → List Value → Bool
  | [], [] => true
  | v :: vs, w :: ws => agree sameNumber v w && agreeItems sameNumber vs ws
  | _, _ => false
def agreeMembers (sameNumber : Number → Number → Bool) : List (String × Value) → List (String × Value) → Bool
  | [], [] => true
  | (k, v) :: vs, (l, w) :: ws => k == l && agree sameNumber v w && agreeMembers sameNumber vs ws
  | _, _ => false
end

/-- **Equality as data**: the float zeros are equal, and an integer never equals a float. -/
def same (v w : Value) : Bool := agree Number.same v w

mutual
theorem agree_refl : ∀ v : Value, agree (· == ·) v v = true
  | .null | .bool _ | .number _ | .string _ => by simp [agree]
  | .array items => by simp [agree, agreeItems_refl items]
  | .object members => by simp [agree, agreeMembers_refl members]
theorem agreeItems_refl : ∀ vs : List Value, agreeItems (· == ·) vs vs = true
  | [] => rfl
  | v :: vs => by simp [agreeItems, agree_refl v, agreeItems_refl vs]
theorem agreeMembers_refl : ∀ vs : List (String × Value), agreeMembers (· == ·) vs vs = true
  | [] => rfl
  | (_, v) :: vs => by simp [agreeMembers, agree_refl v, agreeMembers_refl vs]
end

mutual
theorem eq_of_agree : ∀ v w : Value, agree (· == ·) v w = true → v = w
  | .null, w, h => by cases w <;> simp_all [agree]
  | .bool _, w, h => by cases w <;> simp_all [agree]
  | .number _, w, h => by cases w <;> simp_all [agree]
  | .string _, w, h => by cases w <;> simp_all [agree]
  | .array items, w, h => by
    cases w with
    | array items' => rw [eq_of_agreeItems items items' (by simpa [agree] using h)]
    | _ => simp [agree] at h
  | .object members, w, h => by
    cases w with
    | object members' => rw [eq_of_agreeMembers members members' (by simpa [agree] using h)]
    | _ => simp [agree] at h
theorem eq_of_agreeItems : ∀ vs ws : List Value, agreeItems (· == ·) vs ws = true → vs = ws
  | [], ws, h => by cases ws <;> simp_all [agreeItems]
  | v :: vs, ws, h => by
    cases ws with
    | nil => simp [agreeItems] at h
    | cons w ws =>
      simp only [agreeItems, Bool.and_eq_true] at h
      rw [eq_of_agree v w h.1, eq_of_agreeItems vs ws h.2]
theorem eq_of_agreeMembers : ∀ vs ws : List (String × Value), agreeMembers (· == ·) vs ws = true → vs = ws
  | [], ws, h => by cases ws <;> simp_all [agreeMembers]
  | (k, v) :: vs, ws, h => by
    cases ws with
    | nil => simp [agreeMembers] at h
    | cons w ws =>
      simp only [agreeMembers, Bool.and_eq_true, beq_iff_eq] at h
      obtain ⟨⟨rfl, hv⟩, hvs⟩ := h
      rw [eq_of_agree v w.2 hv, eq_of_agreeMembers vs ws hvs]
end

instance : DecidableEq Value := fun v w =>
  decidable_of_iff (agree (· == ·) v w = true) ⟨eq_of_agree v w, fun h => h ▸ agree_refl v⟩

/-- **The object with given members**: of two with the same key the later one counts. -/
def ofMembers (members : List (String × Value)) : Value :=
  .object (members.foldl (fun entries m => putEntry m.1 m.2 entries) [])

def ofInt (i : Int) : Value := .number (.int i)

def ofNat (n : Nat) : Value := ofInt n

/-- **The value of an arithmetic result**: null where the result is no number. -/
def ofDouble (x : Double) : Value :=
  match Number.ofDouble? x with
  | some n => .number n
  | none => .null

def string? : Value → Option String
  | .string s => some s
  | _ => none

def double? : Value → Option Double
  | .number n => some n.toDouble
  | _ => none

def items? : Value → Option (List Value)
  | .array items => some items
  | _ => none

def members? : Value → Option (List (String × Value))
  | .object members => some members
  | _ => none

def isTrue : Value → Bool
  | .bool b => b
  | _ => false

def isNull : Value → Bool
  | .null => true
  | _ => false

end Value
end FormLogic
