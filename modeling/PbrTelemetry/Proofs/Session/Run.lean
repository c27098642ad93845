import Mathlib.Data.List.Induction
import PbrTelemetry.Session.Step

/-!
# Runs of a session

A run is a list of actions, each of which is possible in the session that the actions before it
leave behind.  `Reachable` are the sessions that runs lead to, and `trace` collects what can be
observed along a run.

Facts about runs are proved at the end of the run, one action more at a time: `run_induction` for
facts about the actions so far, and the recursor of `Reachable` for facts about the session alone.
-/

namespace PbrTelemetry

namespace Session

/-- A session in which nothing has happened yet, at any reading of the clock. -/
def fresh (counter : Counter) (onSuccess : Option SuccessHandler)
    (onFailure : Option FailureHandler) (now : Nat := 0) : Session :=
  { counter, onSuccess, onFailure, now }

/-- The session after some actions, if each of them is possible in its turn. -/
def run (session : Session) : List Action → Option Session
  | [] => some session
  | action :: rest =>
    match session.step action with
    | some next => run next rest
    | none => none

/-- What is observed in the steps of a run, in order. -/
def trace {α : Type} (observe : Session → Action → Session → List α) (session : Session) :
    List Action → List α
  | [] => []
  | action :: rest =>
    match session.step action with
    | some next => observe session action next ++ trace observe next rest
    | none => []

/-- The sessions that fresh ones come to. -/
inductive Reachable : Session → Prop where
  | fresh (counter : Counter) (onSuccess : Option SuccessHandler)
      (onFailure : Option FailureHandler) {now : Nat} :
      Reachable (Session.fresh counter onSuccess onFailure now)
  | step {session next : Session} (action : Action) :
      Reachable session → session.step action = some next → Reachable next

/-! ## Runs piece by piece -/

section

variable {session middle final : Session} {first second : List Action} {action : Action}

theorem run_append : session.run (first ++ second) = (session.run first).bind (·.run second) := by
  induction first generalizing session with
  | nil => rfl
  | cons action rest ih =>
    simp only [List.cons_append, run]
    cases session.step action with
    | none => rfl
    | some next => exact ih

theorem run_cons_inv (ran : session.run (action :: second) = some final) :
    ∃ next, session.step action = some next ∧ next.run second = some final := by
  simp only [run] at ran
  split at ran
  · next next stepped => exact ⟨next, stepped, ran⟩
  · cases ran

theorem run_append_inv (ran : session.run (first ++ second) = some final) :
    ∃ middle, session.run first = some middle ∧ middle.run second = some final := by
  rw [run_append] at ran
  exact Option.bind_eq_some_iff.mp ran

theorem run_snoc_inv (ran : session.run (first ++ [action]) = some final) :
    ∃ last, session.run first = some last ∧ last.step action = some final := by
  obtain ⟨last, before, rest⟩ := run_append_inv ran
  obtain ⟨next, stepped, done⟩ := run_cons_inv rest
  cases done
  exact ⟨last, before, stepped⟩

/-- Induction over a run, from its first action to its last. -/
theorem run_induction {motive : List Action → Session → Prop} {actions : List Action}
    (ran : session.run actions = some final) (nil : motive [] session)
    (snoc : ∀ before last action next, session.run before = some last → motive before last →
      last.step action = some next → motive (before ++ [action]) next) :
    motive actions final := by
  induction actions using List.reverseRecOn generalizing final with
  | nil =>
    cases ran
    exact nil
  | append_singleton before action ih =>
    obtain ⟨last, earlier, stepped⟩ := run_snoc_inv ran
    exact snoc before last action final earlier (ih earlier) stepped

end

/-! ## Reachable sessions -/

theorem Reachable.run {session final : Session} {actions : List Action}
    (reachable : Reachable session) (ran : session.run actions = some final) : Reachable final :=
  run_induction (motive := fun _ => Reachable) ran reachable
    fun _ _ action _ _ earlier stepped => earlier.step action stepped

/-! ## Traces -/

section

variable {α : Type} {observe : Session → Action → Session → List α}
variable {session middle final : Session} {first second : List Action} {action : Action}

@[simp] theorem trace_nil : session.trace observe [] = [] := rfl

theorem trace_cons (stepped : session.step action = some middle) :
    session.trace observe (action :: second)
      = observe session action middle ++ middle.trace observe second := by
  simp only [trace, stepped]

theorem trace_append (ran : session.run first = some middle) :
    session.trace observe (first ++ second)
      = session.trace observe first ++ middle.trace observe second := by
  induction first generalizing session with
  | nil =>
    cases ran
    rfl
  | cons action rest ih =>
    obtain ⟨next, stepped, ran⟩ := run_cons_inv ran
    rw [List.cons_append, trace_cons stepped, trace_cons stepped, ih ran, List.append_assoc]

theorem trace_snoc (ran : session.run first = some middle)
    (stepped : middle.step action = some final) :
    session.trace observe (first ++ [action])
      = session.trace observe first ++ observe middle action final := by
  rw [trace_append ran, trace_cons stepped, trace_nil, List.append_nil]

/-- What every step keeps in which nothing is observed, a run keeps in which nothing is. -/
theorem run_unobserved {motive : Session → Prop} {actions : List Action}
    (step : ∀ session action next, motive session → session.step action = some next →
      observe session action next = [] → motive next)
    (ran : session.run actions = some final) (silent : session.trace observe actions = [])
    (holds : motive session) : motive final := by
  induction actions generalizing session with
  | nil =>
    cases ran
    exact holds
  | cons action rest ih =>
    obtain ⟨next, stepped, ran⟩ := run_cons_inv ran
    rw [trace_cons stepped, List.append_eq_nil_iff] at silent
    exact ih ran silent.2 (step session action next holds stepped silent.1)

end

end Session

end PbrTelemetry
