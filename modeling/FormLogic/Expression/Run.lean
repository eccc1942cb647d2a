import FormLogic.Expression.Failure
/-!
# Runs

An evaluation is observed through the calls it makes: each call is seen once before its operator runs, with its cast
arguments, and once after, with its result.  A `Run` is what was observed, in order, together with the outcome.  Runs
are put one after the other by `Run.andThen`: the second starts only when the first has succeeded, and nothing that was
observed is lost.
-/
namespace FormLogic

/-- **One observation of a call**: before it without a result, after it with one. -/
structure Call where
  path : Path
  operator : String
  arguments : List Value
  result : Option Value
  deriving DecidableEq

/-- **What an evaluation did and how it ended.** -/
structure Run (α : Type) where
  calls : List Call
  outcome : Except Failure α

namespace Run

variable {α β : Type}

def done (a : α) : Run α := ⟨[], .ok a⟩

def failed (failure : Failure) : Run α := ⟨[], .error failure⟩

def observe (call : Call) : Run Unit := ⟨[call], .ok ()⟩

/-- A step that makes no observation, and whose failure is placed. -/
def step (result : Except Cause α) (expression : Value) (path : Path) : Run α :=
  match result with
  | .ok a => done a
  | .error cause => failed (.of cause expression path)

/-- **One run after the other.** -/
def andThen (first : Run α) (next : α → Run β) : Run β :=
  match first.outcome with
  | .ok a => ⟨first.calls ++ (next a).calls, (next a).outcome⟩
  | .error failure => ⟨first.calls, .error failure⟩

instance : Monad Run where
  pure := done
  bind := andThen

@[simp] theorem calls_pure (a : α) : (pure a : Run α).calls = [] := rfl

@[simp] theorem outcome_pure (a : α) : (pure a : Run α).outcome = .ok a := rfl

theorem bind_eq (first : Run α) (next : α → Run β) : first >>= next = first.andThen next := rfl

theorem andThen_ok {first : Run α} {a : α} (h : first.outcome = .ok a) (next : α → Run β) :
    first.andThen next = ⟨first.calls ++ (next a).calls, (next a).outcome⟩ := by
  simp only [andThen, h]

theorem andThen_error {first : Run α} {failure : Failure} (h : first.outcome = .error failure) (next : α → Run β) :
    first.andThen next = ⟨first.calls, .error failure⟩ := by
  simp only [andThen, h]

end Run
end FormLogic
