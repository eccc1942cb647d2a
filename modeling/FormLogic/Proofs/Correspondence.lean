import FormLogic.Proofs.Calls
import Mathlib.Data.List.Basic
/-!
# Runs that correspond

Two evaluations are compared part by part: one run mirrors another when it gives the same value, or fails alike, and
observes what a view shows of the other's calls (`Run.Mirrors`).  What is shown, and which failures count as alike, is
left open.  A composed run mirrors another when its parts do, so only what an argument and an operator do remains to be
shown for each comparison.
-/
namespace FormLogic

/-- **A run that mirrors another**: the second gives the same value as the first, or fails alike, and observes what the
view shows of the calls of the first, in the same order. -/
structure Run.Mirrors {α : Type} (view : Call → Option Call) (alike : Failure → Failure → Prop)
    (run run' : Run α) : Prop where
  calls : run'.calls = run.calls.filterMap view
  gives : ∀ a, run.outcome = .ok a → run'.outcome = .ok a
  fails : ∀ failure, run.outcome = .error failure →
    ∃ failure', run'.outcome = .error failure' ∧ alike failure failure'

namespace Run.Mirrors

variable {α β : Type} {view : Call → Option Call} {alike : Failure → Failure → Prop}

theorem done (a : α) : (Run.done a).Mirrors view alike (Run.done a) := by
  refine ⟨rfl, fun _ h => h, fun failure h => ?_⟩
  cases h

theorem failed {failure failure' : Failure} (h : alike failure failure') :
    (Run.failed failure : Run α).Mirrors view alike (Run.failed failure') := by
  refine ⟨rfl, fun a ha => (by cases ha), fun _ hfailure => ?_⟩
  cases hfailure
  exact ⟨failure', rfl, h⟩

theorem observe {c c' : Call} (h : view c = some c') : (Run.observe c).Mirrors view alike (Run.observe c') := by
  refine ⟨?_, fun _ ha => ha, fun failure hfailure => ?_⟩
  · rw [Run.calls_observe, Run.calls_observe, List.filterMap_cons_some h, List.filterMap_nil]
  · cases hfailure

theorem step {result : Except Cause α} {e e' : Value} {path path' : Path}
    (h : ∀ cause, result = .error cause → alike (.of cause e path) (.of cause e' path')) :
    (Run.step result e path).Mirrors view alike (Run.step result e' path') := by
  cases result with
  | ok a => exact .done a
  | error cause => exact .failed (h cause rfl)

theorem refl {run : Run α} (hview : ∀ c ∈ run.calls, view c = some c) (halike : ∀ failure, alike failure failure) :
    run.Mirrors view alike run := by
  refine ⟨?_, fun _ h => h, fun failure h => ⟨failure, h, halike failure⟩⟩
  rw [List.filterMap_congr hview, List.filterMap_some]

/-- **One run after the other** is mirrored part by part. -/
theorem bind {run run' : Run α} {next next' : α → Run β} (hrun : run.Mirrors view alike run')
    (hnext : ∀ a, run.outcome = .ok a → (next a).Mirrors view alike (next' a)) :
    (run >>= next).Mirrors view alike (run' >>= next') := by
  rw [Run.bind_eq, Run.bind_eq]
  cases houtcome : run.outcome with
  | error failure =>
    obtain ⟨failure', hfails, halike⟩ := hrun.fails failure houtcome
    rw [Run.andThen_error houtcome, Run.andThen_error hfails]
    refine ⟨hrun.calls, fun b hb => (by cases hb), fun _ h => ?_⟩
    cases h
    exact ⟨failure', rfl, halike⟩
  | ok a =>
    have hmirror : (next a).Mirrors view alike (next' a) := hnext a houtcome
    rw [Run.andThen_ok houtcome, Run.andThen_ok (hrun.gives a houtcome)]
    refine ⟨?_, hmirror.gives, hmirror.fails⟩
    rw [List.filterMap_append, hrun.calls, hmirror.calls]

end Run.Mirrors

section
variable {rules rules' : Rules} {view : Call → Option Call} {alike : Failure → Failure → Prop}

/-- **An operator is mirrored** by one that computes the same in another frame, where its two observations are shown. -/
theorem invoke_mirrors {frame frame' : Frame} {name : String} {operator : Operator} {args : List Value}
    (hcasts : rules.casts = rules'.casts) (hrun : operator.run args frame = operator.run args frame')
    (hview : ∀ result, view ⟨frame.path, name, args, result⟩ = some ⟨frame'.path, name, args, result⟩)
    (halike : ∀ cause, alike (.of cause frame.expression frame.path) (.of cause frame'.expression frame'.path)) :
    (invoke rules frame name operator args).Mirrors view alike (invoke rules' frame' name operator args) := by
  unfold invoke
  rw [← hcasts, ← hrun]
  refine .bind (.observe (hview none)) fun _ _ => .bind (.step fun cause _ => halike cause) fun raw _ => ?_
  refine .bind (.step fun cause _ => halike cause) fun result _ => .bind (.observe (hview (some result))) fun _ _ => ?_
  exact .done result

variable {scope scope' : Scope} {path path' : Path} {name : String} {signature : Signature}

theorem evaluateArgument_mirrors {index : Nat} {argument argument' : Value} (hcasts : rules.casts = rules'.casts)
    (h : (evaluate rules scope (path ++ [index + 1]) argument).Mirrors view alike
      (evaluate rules' scope' (path' ++ [index + 1]) argument'))
    (halike : ∀ cause,
      alike (.of cause argument (path ++ [index + 1])) (.of cause argument' (path' ++ [index + 1]))) :
    (evaluateArgument rules scope path name signature index argument).Mirrors view alike
      (evaluateArgument rules' scope' path' name signature index argument') := by
  unfold evaluateArgument
  rw [← hcasts]
  exact .bind h fun value _ => .bind (.step fun cause _ => halike cause) fun kind _ => .step fun cause _ => halike cause

/-- **The arguments are mirrored** when there are as many and each is mirrored by the one in its position. -/
theorem evaluateArguments_mirrors : ∀ {index : Nat} {arguments arguments' : List Value},
    arguments.length = arguments'.length →
    (∀ i argument argument', arguments[i]? = some argument → arguments'[i]? = some argument' →
      (evaluateArgument rules scope path name signature (index + i) argument).Mirrors view alike
        (evaluateArgument rules' scope' path' name signature (index + i) argument')) →
    (evaluateArguments rules scope path name signature index arguments).Mirrors view alike
      (evaluateArguments rules' scope' path' name signature index arguments')
  | index, [], [], _, _ => .done []
  | index, first :: rest, first' :: rest', hlength, h => by
    rw [evaluateArguments_cons, evaluateArguments_cons]
    have hrest : (evaluateArguments rules scope path name signature (index + 1) rest).Mirrors view alike
        (evaluateArguments rules' scope' path' name signature (index + 1) rest') := by
      refine evaluateArguments_mirrors (Nat.succ.inj hlength) fun i argument argument' hi hi' => ?_
      rw [show index + 1 + i = index + (i + 1) by omega]
      exact h (i + 1) argument argument' hi hi'
    exact .bind (h 0 first first' rfl rfl) fun value _ => .bind hrest fun values _ => .done (value :: values)

/-- **A call is mirrored** by another when both are refused alike, or both go on to their arguments with one operator
under one name, and these and then the operator are mirrored. -/
theorem evaluate_array_mirrors {items items' : List Value}
    (hrefused : ∀ cause, rules.enter path items = .error cause → ∃ cause', rules'.enter path' items' = .error cause' ∧
      alike (.of cause (.array items) path) (.of cause' (.array items') path'))
    (hentered : ∀ entry, rules.enter path items = .ok entry → ∃ arguments',
      rules'.enter path' items' = .ok { entry with arguments := arguments' } ∧
        (evaluateArguments rules scope path entry.name entry.operator.signature 0 entry.arguments).Mirrors view alike
          (evaluateArguments rules' scope' path' entry.name entry.operator.signature 0 arguments') ∧
        ∀ values,
          (invoke rules ⟨.array items, path, scope, rules.env⟩ entry.name entry.operator values).Mirrors view alike
            (invoke rules' ⟨.array items', path', scope', rules'.env⟩ entry.name entry.operator values)) :
    (evaluate rules scope path (.array items)).Mirrors view alike
      (evaluate rules' scope' path' (.array items')) := by
  rw [evaluate_array, evaluate_array]
  cases hentry : rules.enter path items with
  | error cause =>
    obtain ⟨cause', hentry', halike⟩ := hrefused cause hentry
    rw [hentry']
    exact .failed halike
  | ok entry =>
    obtain ⟨arguments', hentry', harguments, hinvoke⟩ := hentered entry hentry
    rw [hentry']
    have hparts : (evaluateArguments rules scope path entry.name entry.operator.signature 0 entry.arguments >>=
          invoke rules ⟨.array items, path, scope, rules.env⟩ entry.name entry.operator).Mirrors view alike
        (evaluateArguments rules' scope' path' entry.name entry.operator.signature 0 arguments' >>=
          invoke rules' ⟨.array items', path', scope', rules'.env⟩ entry.name entry.operator) :=
      .bind harguments fun values _ => hinvoke values
    exact hparts

end
end FormLogic
