import FormLogic.Expression.Run
/-!
# The laws of runs

Runs compose lawfully, so a chain of steps may be grouped at will.  The outcome and the observations of a composed run
are read off its parts (`outcome_bind_eq_ok`, `outcome_bind_eq_error`, `mem_calls_bind`); no later proof opens
`Run.andThen`.
-/
namespace FormLogic
namespace Run

variable {α β γ : Type}

theorem done_andThen (a : α) (next : α → Run β) : (done a).andThen next = next a := rfl

theorem andThen_done (first : Run α) : first.andThen done = first := by
  obtain ⟨calls, outcome⟩ := first
  cases outcome with
  | ok a => simp only [andThen, done, List.append_nil]
  | error failure => rfl

theorem andThen_assoc (first : Run α) (second : α → Run β) (third : β → Run γ) :
    (first.andThen second).andThen third = first.andThen fun a => (second a).andThen third := by
  cases h : first.outcome with
  | error failure =>
    rw [andThen_error h, andThen_error h, andThen_error rfl]
  | ok a =>
    rw [andThen_ok h, andThen_ok h]
    cases h' : (second a).outcome with
    | error failure => rw [andThen_error h', andThen_error rfl]
    | ok b => rw [andThen_ok h', andThen_ok rfl, List.append_assoc]

instance : LawfulMonad Run :=
  LawfulMonad.mk' Run (fun first => andThen_done first) (fun a next => done_andThen a next)
    (fun first second third => andThen_assoc first second third)

theorem outcome_bind_eq_ok {first : Run α} {next : α → Run β} {b : β} :
    (first >>= next).outcome = .ok b ↔ ∃ a, first.outcome = .ok a ∧ (next a).outcome = .ok b := by
  rw [bind_eq]
  cases h : first.outcome with
  | ok a => simp [andThen_ok h]
  | error failure => simp [andThen_error h]

theorem outcome_bind_eq_error {first : Run α} {next : α → Run β} {failure : Failure} :
    (first >>= next).outcome = .error failure ↔
      first.outcome = .error failure ∨ ∃ a, first.outcome = .ok a ∧ (next a).outcome = .error failure := by
  rw [bind_eq]
  cases h : first.outcome with
  | ok a => simp [andThen_ok h]
  | error failure => simp [andThen_error h]

/-- **What a composed run observes**: all of the first part, and all of the second if that is reached. -/
theorem mem_calls_bind {first : Run α} {next : α → Run β} {c : Call} :
    c ∈ (first >>= next).calls ↔ c ∈ first.calls ∨ ∃ a, first.outcome = .ok a ∧ c ∈ (next a).calls := by
  rw [bind_eq]
  cases h : first.outcome with
  | ok a => simp [andThen_ok h]
  | error failure => simp [andThen_error h]

theorem calls_bind_of_ok {first : Run α} {a : α} (h : first.outcome = .ok a) (next : α → Run β) :
    (first >>= next).calls = first.calls ++ (next a).calls := by
  rw [bind_eq, andThen_ok h]

theorem calls_bind_of_error {first : Run α} {failure : Failure} (h : first.outcome = .error failure)
    (next : α → Run β) : (first >>= next).calls = first.calls := by
  rw [bind_eq, andThen_error h]

theorem bind_congr {first : Run α} {next next' : α → Run β} (h : ∀ a, first.outcome = .ok a → next a = next' a) :
    first >>= next = first >>= next' := by
  rw [bind_eq, bind_eq]
  cases houtcome : first.outcome with
  | ok a => rw [andThen_ok houtcome, andThen_ok houtcome, h a houtcome]
  | error failure => rw [andThen_error houtcome, andThen_error houtcome]

@[simp] theorem outcome_done (a : α) : (done a).outcome = .ok a := rfl

@[simp] theorem calls_done (a : α) : (done a).calls = [] := rfl

@[simp] theorem outcome_observe (c : Call) : (observe c).outcome = .ok () := rfl

@[simp] theorem calls_observe (c : Call) : (observe c).calls = [c] := rfl

@[simp] theorem outcome_step_eq_ok {result : Except Cause α} {e : Value} {path : Path} {a : α} :
    (step result e path).outcome = .ok a ↔ result = .ok a := by
  cases result <;> simp [step, done, failed]

@[simp] theorem outcome_step_eq_error {result : Except Cause α} {e : Value} {path : Path} {failure : Failure} :
    (step result e path).outcome = .error failure ↔ ∃ cause, result = .error cause ∧ failure = .of cause e path := by
  cases result <;> simp [step, done, failed, eq_comm]

@[simp] theorem calls_step (result : Except Cause α) (e : Value) (path : Path) : (step result e path).calls = [] := by
  cases result <;> rfl

theorem calls_bind_step (first : Run α) (result : α → Except Cause β) (e : Value) (path : Path) :
    (first >>= fun a => step (result a) e path).calls = first.calls := by
  rw [bind_eq]
  cases h : first.outcome with
  | ok a => rw [andThen_ok h, calls_step, List.append_nil]
  | error failure => rw [andThen_error h]

end Run
end FormLogic
