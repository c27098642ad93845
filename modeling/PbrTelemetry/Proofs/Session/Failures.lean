import PbrTelemetry.Proofs.Session.Outward
import PbrTelemetry.Proofs.Session.TornDown

/-!
# How failures are reported

A run is watched in three ways: which handler calls its steps make (`stepCalls`), which tasks leave
their status in the slot in them (`stepEndings`), and which closes take a stream (`stepTakings`).

* `failures_exact`: of the tasks that left a status, those with a failure have it reported once, by
  their own last action; the handler for failures is called for nothing else; and until a close
  takes the stream, its status is what later registrations get.

The count goes by the stage of each task (`Settled`): a task that has not left its status has no
calls, a task that reports it is due one, and a task that is over has had it.  That a failure is the
last call of its task is the same fact from the other side, for a task that is over does not act.
-/

namespace PbrTelemetry

namespace Session

/-! ## What is watched -/

def stepCalls (before : Session) (action : Action) (after : Session) :
    List (Action × HandlerCall) :=
  (after.handled.drop before.handled.length).map (action, ·)

/-- The task that leaves its terminal status in a step, with the status. -/
def stepEndings (before : Session) (action : Action) (_after : Session) : List (Nat × Status) :=
  match action with
  | .storeStatus id =>
    match stageAt before.tasks id with
    | some (.ending status) => [(id, status)]
    | _ => []
  | _ => []

def failuresOf (id : Nat) (calls : List (Action × HandlerCall)) : List Status :=
  calls.filterMap fun
    | (action, .failure _ status) => if action.task? = some id then some status else none
    | (_, .success _ _) => none

def endingsOf (id : Nat) (endings : List (Nat × Status)) : List Status :=
  (endings.filter (·.1 = id)).map Prod.snd

def dueFailure (session : Session) (id : Nat) : List Status :=
  match stageAt session.tasks id with
  | some (.reporting status) => [status].filter isFailure
  | _ => []

variable {session next final : Session} {action : Action} {id : Nat}

theorem failuresOf_append {first second : List (Action × HandlerCall)} :
    failuresOf id (first ++ second) = failuresOf id first ++ failuresOf id second := by
  simp [failuresOf]

theorem endingsOf_append {first second : List (Nat × Status)} :
    endingsOf id (first ++ second) = endingsOf id first ++ endingsOf id second := by
  simp [endingsOf]

theorem stepCalls_eq (stepped : session.step action = some next) :
    stepCalls session action next = (session.called action).map (action, ·) := by
  simp only [stepCalls]
  rw [(step_outward stepped).handled, List.drop_left]

/-! ## The calls of one step -/

theorem failure_called {name : String} {status : Status}
    (call : .failure name status ∈ session.called action) :
    ∃ id handler, action = .finishTask id ∧
      stageAt session.tasks id = some (.reporting status) ∧ isFailure status = true ∧
      session.onFailure = some handler ∧ handler.name = name := by
  simp only [called] at call
  split at call
  · simp only [Session.shown] at call
    split at call <;> simp at call
  · next id =>
    split at call
    · next found reporting =>
      simp only [reported] at call
      split at call
      · next handler installed =>
        split at call
        · next failed =>
          simp only [List.mem_singleton, HandlerCall.failure.injEq] at call
          obtain ⟨rfl, rfl⟩ := call
          exact ⟨id, handler, rfl, reporting, failed, installed, rfl⟩
        · cases call
      · cases call
    · cases call
  · cases call

theorem called_length (session : Session) (action : Action) :
    (session.called action).length ≤ 1 := by
  simp only [called]
  split
  · simp only [Session.shown]
    split <;> simp
  · split
    · simp only [reported]
      split
      · split <;> simp
      · simp
    · simp
  · simp

theorem failuresOf_other (other : action.task? ≠ some id) (calls : List HandlerCall) :
    failuresOf id (calls.map (action, ·)) = [] := by
  induction calls with
  | nil => rfl
  | cons call rest ih =>
    cases call with
    | success name counter => exact ih
    | failure name status =>
      simp only [failuresOf, List.map_cons, List.filterMap_cons, other, if_false]
      exact ih

/-- An action that is not the last one of its task reports no failure. -/
theorem failuresOf_unfinished (unfinished : ∀ id, action ≠ .finishTask id) :
    failuresOf id ((session.called action).map (action, ·)) = [] := by
  simp only [failuresOf, List.filterMap_map, List.filterMap_eq_nil_iff]
  intro call member
  cases call with
  | success name counter => rfl
  | failure name status =>
    obtain ⟨own, handler, same, -⟩ := failure_called member
    exact absurd same (unfinished own)

theorem failuresOf_finish {handler : FailureHandler} {status : Status}
    (installed : session.onFailure = some handler)
    (reporting : stageAt session.tasks id = some (.reporting status)) :
    failuresOf id ((session.called (.finishTask id)).map (.finishTask id, ·))
      = [status].filter isFailure := by
  simp only [called, reporting, reported, installed]
  cases failed : isFailure status <;> simp [failuresOf, Action.task?, failed]

theorem endingsOf_other (other : action ≠ .storeStatus id) :
    endingsOf id (stepEndings session action next) = [] := by
  simp only [stepEndings]
  split
  · next storing =>
    have different : storing ≠ id := by
      rintro rfl
      exact other rfl
    split <;> simp [endingsOf, different]
  · rfl

theorem endingsOf_store {status : Status}
    (ending : stageAt session.tasks id = some (.ending status)) :
    endingsOf id (stepEndings session (.storeStatus id) next) = [status] := by
  simp [stepEndings, ending, endingsOf]

/-! ## Counting by stage -/

/-- How the statuses that a task has left and the failures that it has reported go with its stage.
-/
def Settled (endings failures : List Status) : Option TaskStage → Prop
  | some (.reporting status) => endings = [status] ∧ failures = []
  | some .finished => failures = endings.filter isFailure ∧ endings.length ≤ 1
  | _ => endings = [] ∧ failures = []

theorem Advance.settled {task : ReceiveTask} {stage : TaskStage} {endings failures : List Status}
    (moved : Advance session id task action stage)
    (settled : Settled endings failures (some task.stage)) :
    Settled endings failures (some stage) := by
  have none : endings = [] ∧ failures = [] := by
    rcases moved.early with early | early | early <;> simpa [early, Settled] using settled
  obtain ⟨rfl, rfl⟩ := none
  cases moved with
  | connect _ result => cases result <;> exact ⟨rfl, rfl⟩
  | overrun _ _ | breakDown _ _ => exact ⟨rfl, Nat.zero_le 1⟩
  | place _ | giveUp _ _ | take _ _ | stop _ _ => exact ⟨rfl, rfl⟩

theorem Advance.not_terminal {task : ReceiveTask} {stage : TaskStage}
    (moved : Advance session id task action stage) :
    (∀ other, action ≠ .finishTask other) ∧ action ≠ .storeStatus id := by
  cases moved <;> simp

theorem step_settled {handler : FailureHandler} {endings failures : List Status}
    (installed : session.onFailure = some handler) (stepped : session.step action = some next)
    (settled : Settled endings failures (stageAt session.tasks id)) :
    Settled (endings ++ endingsOf id (stepEndings session action next))
      (failures ++ failuresOf id (stepCalls session action next)) (stageAt next.tasks id) := by
  rw [stepCalls_eq stepped]
  cases step_stage stepped id with
  | rest other kept =>
    rw [endingsOf_other (Action.ne_storeStatus other), failuresOf_other other, List.append_nil,
      List.append_nil, kept]
    exact settled
  | spawn other new spawned =>
    rw [endingsOf_other (Action.ne_storeStatus other), failuresOf_other other, List.append_nil,
      List.append_nil, spawned]
    rw [new] at settled
    exact settled
  | advance get moved reached =>
    obtain ⟨unfinished, storing⟩ := moved.not_terminal
    rw [endingsOf_other storing, failuresOf_unfinished unfinished, List.append_nil,
      List.append_nil, reached]
    rw [stageAt_of_get get] at settled
    exact moved.settled settled
  | store storing ending reporting =>
    subst storing
    rw [ending] at settled
    obtain ⟨rfl, rfl⟩ := settled
    rw [endingsOf_store ending, failuresOf_unfinished (by simp), reporting]
    exact ⟨rfl, rfl⟩
  | finish finishing reporting finished =>
    subst finishing
    rw [reporting] at settled
    obtain ⟨rfl, rfl⟩ := settled
    rw [endingsOf_other (by simp), failuresOf_finish installed reporting, finished]
    exact ⟨rfl, Nat.le_refl 1⟩

/-! ## Whole runs -/

/-- No call of a task comes after its failure. -/
def LastOfTask (first second : Action × HandlerCall) : Prop :=
  ∀ name status, first.2 = .failure name status → second.1.task? ≠ first.1.task?

/-- What becomes of the failures of a run, and of the stream whose task is about to report. -/
structure Reported (handler : FailureHandler) (start : Session) (actions : List Action)
    (final : Session) : Prop where
  -- The calls of the steps are all calls that are made
  complete : (start.trace stepCalls actions).map Prod.snd = final.handled
  -- The failures among the statuses that a task has left are those that it has reported, and the
  -- one that it is about to report
  counted : ∀ id, failuresOf id (start.trace stepCalls actions) ++ dueFailure final id
    = (endingsOf id (start.trace stepEndings actions)).filter isFailure
  -- A task leaves one status at most
  once : ∀ id, (endingsOf id (start.trace stepEndings actions)).length ≤ 1
  -- The handler is called by the last action of a task with a failure, and by nothing else
  only : ∀ action name status, (action, .failure name status) ∈ start.trace stepCalls actions →
    ∃ (id : Nat) (installed : FailureHandler), action = .finishTask id ∧
      status ∈ endingsOf id (start.trace stepEndings actions) ∧ isFailure status = true ∧
      installed.name = name ∧ (installed = handler ∨ .setFailureHandler installed ∈ actions)
  -- No call of a task comes after its failure
  last : (start.trace stepCalls actions).Pairwise LastOfTask
  -- Nothing keeps a task from its report
  possible : ∀ id status, stageAt final.tasks id = some (.reporting status) →
    (final.finishTask id).isSome
  -- The stream of the task is closed to requests before the report
  closed : ∀ id status, stageAt final.tasks id = some (.reporting status) →
    final.slot.receiveTask = some id →
    final.slot.writer = none ∧ final.slot.finalStatus = some status
  -- Later registrations get the status, until a close takes the stream
  refused : ∀ id status, stageAt final.tasks id = some (.reporting status) →
    final.slot.receiveTask = some id → ∀ between here call metadata request next,
    final.run (.finishTask id :: between) = some here →
    final.trace stepTakings (.finishTask id :: between) = [] →
    here.calls[call]? = some (.register metadata request none) →
    here.runSection call = some next →
    next.calls[call]? = some (.register metadata request (some (.error (.rpcFailure status)))) ∧
      next.slot = here.slot

variable {start : Session} {handler : FailureHandler} {actions : List Action}

theorem run_calls (silent : start.handled = []) (ran : start.run actions = some final) :
    (start.trace stepCalls actions).map Prod.snd = final.handled := by
  refine run_induction (motive := fun actions final =>
    (start.trace stepCalls actions).map Prod.snd = final.handled) ran silent.symm ?_
  intro before last action next earlier same stepped
  rw [trace_snoc earlier stepped, List.map_append, same, stepCalls_eq stepped,
    (step_outward stepped).handled, List.map_map]
  simp [Function.comp_def]

theorem run_settled (installed : start.onFailure = some handler) (empty : start.tasks = [])
    (ran : start.run actions = some final) (id : Nat) :
    Settled (endingsOf id (start.trace stepEndings actions))
      (failuresOf id (start.trace stepCalls actions)) (stageAt final.tasks id) := by
  refine run_induction (motive := fun actions final =>
    Settled (endingsOf id (start.trace stepEndings actions))
      (failuresOf id (start.trace stepCalls actions)) (stageAt final.tasks id)) ran ?_ ?_
  · rw [empty]
    exact ⟨rfl, rfl⟩
  · intro before last action next earlier settled stepped
    obtain ⟨current, same, -⟩ := run_onFailure installed earlier
    rw [trace_snoc earlier stepped, trace_snoc earlier stepped, endingsOf_append,
      failuresOf_append]
    exact step_settled same stepped settled

theorem Settled.counted {endings failures : List Status}
    (settled : Settled endings failures (stageAt session.tasks id)) :
    failures ++ dueFailure session id = endings.filter isFailure ∧ endings.length ≤ 1 := by
  simp only [dueFailure]
  cases stage : stageAt session.tasks id with
  | none =>
    rw [stage] at settled
    obtain ⟨rfl, rfl⟩ := settled
    simp
  | some stage' =>
    rw [stage] at settled
    cases stage' with
    | reporting status =>
      obtain ⟨rfl, rfl⟩ := settled
      simp
    | finished =>
      obtain ⟨rfl, once⟩ := settled
      simpa using once
    | spawned | opening | reading | ending _ =>
      obtain ⟨rfl, rfl⟩ := settled
      simp

/-- A failure was reported by a task that had left it in the slot, and that is over since. -/
theorem run_failure (installed : start.onFailure = some handler) (empty : start.tasks = [])
    (ran : start.run actions = some final) :
    ∀ action name status, (action, .failure name status) ∈ start.trace stepCalls actions →
      ∃ (id : Nat) (current : FailureHandler), action = .finishTask id ∧
        stageAt final.tasks id = some .finished ∧
        status ∈ endingsOf id (start.trace stepEndings actions) ∧ isFailure status = true ∧
        current.name = name ∧ (current = handler ∨ .setFailureHandler current ∈ actions) := by
  refine run_induction (motive := fun actions final => ∀ action name status,
    (action, .failure name status) ∈ start.trace stepCalls actions →
      ∃ (id : Nat) (current : FailureHandler), action = .finishTask id ∧
        stageAt final.tasks id = some .finished ∧
        status ∈ endingsOf id (start.trace stepEndings actions) ∧ isFailure status = true ∧
        current.name = name ∧ (current = handler ∨ .setFailureHandler current ∈ actions)) ran ?_ ?_
  · intro action name status call
    cases call
  · intro before last acting next earlier failures stepped action name status call
    have keeps : ∀ id status, status ∈ endingsOf id (start.trace stepEndings before) →
        status ∈ endingsOf id (start.trace stepEndings (before ++ [acting])) := by
      intro id status left
      rw [trace_snoc earlier stepped, endingsOf_append]
      exact List.mem_append_left _ left
    rw [trace_snoc earlier stepped, stepCalls_eq stepped, List.mem_append] at call
    rcases call with call | call
    · -- A failure that was reported before: its task is over and stays so
      obtain ⟨id, current, own, ended, left, failed, same, origin⟩ :=
        failures action name status call
      exact ⟨id, current, own, finished_stays stepped ended, keeps id status left, failed, same,
        origin.imp_right fun member => List.mem_append_left _ member⟩
    · -- A failure that is reported now: its task has left the status, or it would not report it
      obtain ⟨_, member, equal⟩ := List.mem_map.mp call
      cases equal
      obtain ⟨id, current, rfl, reporting, failed, present, same⟩ := failure_called member
      obtain ⟨other, alike, origin⟩ := run_onFailure installed earlier
      cases present.symm.trans alike
      have settled := run_settled installed empty earlier id
      rw [reporting] at settled
      have left : status ∈ endingsOf id (start.trace stepEndings before) := by simp [settled.1]
      exact ⟨id, current, rfl, finishTask_finished stepped, keeps id status left, failed, same,
        origin.imp_right fun member => List.mem_append_left _ member⟩

theorem run_last (installed : start.onFailure = some handler) (empty : start.tasks = [])
    (ran : start.run actions = some final) :
    (start.trace stepCalls actions).Pairwise LastOfTask := by
  refine run_induction (motive := fun actions _ =>
    (start.trace stepCalls actions).Pairwise LastOfTask) ran List.Pairwise.nil ?_
  intro before last action next earlier ordered stepped
  rw [trace_snoc earlier stepped, stepCalls_eq stepped, List.pairwise_append]
  refine ⟨ordered, ?_, ?_⟩
  · -- A step makes one call at most
    have short := called_length last action
    match calls : last.called action, short with
    | [], _ => exact List.Pairwise.nil
    | [call], _ => exact List.pairwise_singleton _ _
  · -- The task of an earlier failure is over, so this step is not its own
    rintro ⟨earlierAction, _⟩ member ⟨_, _⟩ new name status rfl
    obtain ⟨_, -, equal⟩ := List.mem_map.mp new
    cases equal
    obtain ⟨id, -, rfl, ended, -⟩ := run_failure installed empty earlier _ name status member
    intro same
    exact acting_unfinished stepped same ended

theorem finishTask_possible {status : Status} (attended : Attended session)
    (reporting : stageAt session.tasks id = some (.reporting status)) :
    (session.finishTask id).isSome := by
  obtain ⟨task, get, stage⟩ := stageAt_eq_some.mp reporting
  have held := attended.locked id status reporting
  simp [finishTask, get, stage, held]

/-- Every failure of a stream is reported once, by its task and when the stream is closed to
requests; nothing else is reported as a failure; and what comes to the stream afterwards gets its
terminal status. -/
theorem failures_exact {counter : Counter} {onSuccess : Option SuccessHandler} {now : Nat}
    (ran : (fresh counter onSuccess (some handler) now).run actions = some final) :
    Reported handler (fresh counter onSuccess (some handler) now) actions final := by
  have reachable := (Reachable.fresh counter onSuccess (some handler)).run ran
  have attended := reachable.attended
  have installed : (fresh counter onSuccess (some handler) now).onFailure = some handler := rfl
  have empty : (fresh counter onSuccess (some handler) now).tasks = [] := rfl
  exact
    { complete := run_calls rfl ran
      counted := fun id => (run_settled installed empty ran id).counted.1
      once := fun id => (run_settled installed empty ran id).counted.2
      only := by
        intro action name status call
        obtain ⟨id, current, own, -, left, failed, named⟩ :=
          run_failure installed empty ran action name status call
        exact ⟨id, current, own, left, failed, named⟩
      last := run_last installed empty ran
      possible := fun id status reporting => finishTask_possible attended reporting
      closed := fun id status reporting held => attended.stored id status reporting held
      refused := by
        intro id status reporting held between here call metadata request next
        exact register_after_finishTask reachable held reporting }

def lateRegistration : List Action :=
  [.finishTask 0, .start (.registerStream admin {}), .acquire (.call 1)]

theorem failures_exact_refusedStream :
    ∃ final here next, (fresh {} none (some { name := "alarm" })).run refusedStream.dropLast
        = some final ∧ final.run lateRegistration = some here ∧ here.runSection 1 = some next ∧
      next.handled = [.failure "alarm" ⟨.unavailable, "no target"⟩] ∧
      (next.calls[1]?).bind ClientCall.outcome?
        = some (.error (.rpcFailure ⟨.unavailable, "no target"⟩)) ∧
      Reported { name := "alarm" } (fresh {} none (some { name := "alarm" }))
        refusedStream.dropLast final := by
  have happens : ∃ final here next request,
      (fresh {} none (some { name := "alarm" })).run refusedStream.dropLast = some final ∧
        final.run lateRegistration = some here ∧ here.runSection 1 = some next ∧
        next.handled = [.failure "alarm" ⟨.unavailable, "no target"⟩] ∧
        stageAt final.tasks 0 = some (.reporting ⟨.unavailable, "no target"⟩) ∧
        final.slot.receiveTask = some 0 ∧ final.trace stepTakings lateRegistration = [] ∧
        here.calls[1]? = some (.register admin request none) :=
    ⟨_, _, _, _, rfl, rfl, rfl, rfl, rfl, rfl, rfl, rfl⟩
  obtain ⟨final, here, next, request, ran, late, entered, handled, reporting, held, kept,
    pending⟩ :=
    happens
  have reported := failures_exact ran
  obtain ⟨refused, -⟩ := reported.refused 0 _ reporting held _ here 1 admin request next late kept
    pending entered
  exact ⟨final, here, next, ran, late, entered, handled, by rw [refused]; rfl, reported⟩

end Session

end PbrTelemetry
