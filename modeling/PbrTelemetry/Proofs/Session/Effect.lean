import PbrTelemetry.Proofs.Session.Inversion

/-!
# What a step can do

`Effect` sorts the actions of a session by what they touch: the slot, the lock, and the tasks.  Most
actions touch none of them.  A task advances on its own, without the lock, until it has its terminal
status; it then needs the lock to leave that status in the slot and to report it.  Everything else
that happens to the slot happens in the section of a call that holds the lock.

`step_effect` is the one place where all actions are told apart.  The invariants of the slot, of the
lock and of the tasks are proved by cases on the effect.
-/

namespace PbrTelemetry

namespace Session

def Action.task? : Action → Option Nat
  | .placeTask id | .openTask id _ | .giveUpTask id | .readTask id _ | .storeStatus id
  | .finishTask id => some id
  | _ => none

theorem Action.ne_storeStatus {action : Action} {id : Nat} (other : action.task? ≠ some id) :
    action ≠ .storeStatus id := by
  rintro rfl
  exact other rfl

theorem Action.ne_finishTask {action : Action} {id : Nat} (other : action.task? ≠ some id) :
    action ≠ .finishTask id := by
  rintro rfl
  exact other rfl

/-- How a task advances without the lock: the action, and the stage that it leads to. -/
inductive Advance (session : Session) (id : Nat) (task : ReceiveTask) :
    Action → TaskStage → Prop where
  -- The task places its remote call
  | place (spawned : task.stage = .spawned) : Advance session id task (.placeTask id) .opening
  -- The clock has no time for the deadline
  | overrun (spawned : task.stage = .spawned)
      (untimely : session.deadlineOf? task.metadata = none) :
      Advance session id task (.placeTask id) .finished
  -- The remote call opens or fails
  | connect (opening : task.stage = .opening) (result : Except Status Unit) :
      Advance session id task (.openTask id result) (openedStage result)
  -- The task is cancelled before its remote call is open
  | giveUp (early : task.stage = .spawned ∨ task.stage = .opening)
      (cancelled : session.isCancelled task = true) :
      Advance session id task (.giveUpTask id) (.ending .cancelledByClient)
  -- The task takes a response
  | take (reading : task.stage = .reading) (response : SubscribeResponse) :
      Advance session id task (.readTask id (.response response)) .reading
  -- The handler breaks down over a response
  | breakDown (reading : task.stage = .reading) (response : SubscribeResponse) :
      Advance session id task (.readTask id (.response response)) .finished
  -- The remote call ends
  | stop {arrival : Arrival} {status : Status} (reading : task.stage = .reading)
      (last : arrival.result = .error status) :
      Advance session id task (.readTask id arrival) (.ending status)

/-- What an action touches of the slot, the lock and the tasks. -/
inductive Effect (session : Session) : Action → Session → Prop where
  -- Nothing
  | aside {action : Action} {next : Session} (task : action.task? = none)
      (slot : next.slot = session.slot) (lock : next.lock = session.lock)
      (tasks : next.tasks = session.tasks) : Effect session action next
  -- The queue of a task
  | queue {action : Action} {id : Nat} {task : ReceiveTask} (queue : RequestQueue)
      (none : action.task? = none) (get : session.tasks[id]? = some task) :
      Effect session action (session.setTask id { task with queue })
  -- The stage of a task
  | advance {action : Action} {next : Session} {id : Nat} {task : ReceiveTask}
      (after : ReceiveTask) (get : session.tasks[id]? = some task)
      (moved : Advance session id task action after.stage)
      (generation : after.generation = task.generation)
      (cancelled : after.cancelled = task.cancelled) (slot : next.slot = session.slot)
      (lock : next.lock = session.lock) (tasks : next.tasks = session.tasks.set id after) :
      Effect session action next
  -- The slot, in which a task that holds the lock leaves its status
  | store {id : Nat} {task : ReceiveTask} {status : Status}
      (get : session.tasks[id]? = some task) (ending : task.stage = .ending status)
      (held : session.lock = some (.task id)) :
      Effect session (.storeStatus id)
        { session.setTask id { task with stage := .reporting status } with
          slot := storedSlot session.slot task.generation status }
  -- The lock, which a task gives back after its report
  | finish {id : Nat} {task : ReceiveTask} {status : Status}
      (get : session.tasks[id]? = some task) (reporting : task.stage = .reporting status)
      (held : session.lock = some (.task id)) :
      Effect session (.finishTask id)
        { session with
          handled := session.handled ++ session.reported status
          tasks := session.tasks.set id { task with stage := .finished }
          lock := none }
  -- The lock, which an agent takes
  | acquire {agent : Agent} (free : session.lock = none)
      (needed : session.needsLock agent = true) :
      Effect session (.acquire agent) { session with lock := some agent }
  -- Whatever a call does with the lock held
  | inSection {call : Nat} {next : Session} (held : session.lock = some (.call call))
      (ran : session.runSection call = some next) : Effect session (.runSection call) next

variable {session next : Session} {action : Action}

theorem readTask_effect {id : Nat} {arrival : Arrival}
    (done : session.readTask id arrival = some next) :
    Effect session (.readTask id arrival) next := by
  obtain ⟨task, get, reading, -, taken | stopped⟩ := readTask_inv done
  · obtain ⟨response, rfl, ⟨-, rfl⟩ | ⟨-, rfl⟩⟩ := taken
    · have stage : Advance session id task (.readTask id (.response response)) task.stage := by
        rw [reading]
        exact .take reading response
      obtain ⟨bound, rfl⟩ := List.getElem?_eq_some_iff.mp get
      exact .advance _ get stage rfl rfl rfl rfl (List.set_getElem_self bound).symm
    · exact .advance { task with stage := .finished } get (.breakDown reading response)
        rfl rfl rfl rfl rfl
  · obtain ⟨status, last, rfl⟩ := stopped
    exact .advance { task with stage := .ending status } get (.stop reading last)
      rfl rfl rfl rfl rfl

theorem setQueue_effect (none : action.task? = none) (queue : RequestQueue) (agent : Agent) :
    Effect session action (session.setQueue queue agent) := by
  obtain ⟨id, task, -, get, changed⟩ | ⟨id, run, -, -, changed⟩ | same :=
    setQueue_inv session queue agent
  · rw [changed]
    exact .queue queue none get
  · rw [changed]
    exact .aside none rfl rfl rfl
  · rw [same]
    exact .aside none rfl rfl rfl

theorem step_effect (stepped : session.step action = some next) : Effect session action next := by
  cases action with
  | addKeys keys =>
    cases stepped
    exact .aside rfl rfl rfl rfl
  | setSuccessHandler handler =>
    cases stepped
    exact .aside rfl rfl rfl rfl
  | setFailureHandler handler =>
    cases stepped
    exact .aside rfl rfl rfl rfl
  | start demand =>
    obtain ⟨-, rfl⟩ := start_inv stepped
    exact .aside rfl rfl rfl rfl
  | dropClient =>
    obtain ⟨-, -, rfl⟩ := dropClient_inv stepped
    exact .aside rfl rfl rfl rfl
  | acquire agent =>
    obtain ⟨free, needed, rfl⟩ := acquire_inv stepped
    exact .acquire free needed
  | runSection call => exact .inSection (runSection_inv stepped).1 stepped
  | resume call =>
    obtain ⟨task, -, -, rfl⟩ := resume_inv stepped
    exact .aside rfl rfl rfl rfl
  | abandon call =>
    obtain ⟨client, -, -, -, rfl⟩ := abandon_inv stepped
    exact .aside rfl rfl rfl rfl
  | placeTask id =>
    obtain ⟨task, get, spawned, ⟨deadline, -, rfl⟩ | ⟨untimely, rfl⟩⟩ := placeTask_inv stepped
    · exact .advance { task with stage := .opening, deadline } get (.place spawned)
        rfl rfl rfl rfl rfl
    · exact .advance { task with stage := .finished, queue := _ } get (.overrun spawned untimely)
        rfl rfl rfl rfl rfl
  | openTask id result =>
    obtain ⟨task, get, opening, rfl⟩ := openTask_inv stepped
    exact .advance { task with stage := openedStage result } get (.connect opening result)
      rfl rfl rfl rfl rfl
  | giveUpTask id =>
    obtain ⟨task, get, early, cancelled, rfl⟩ := giveUpTask_inv stepped
    exact .advance { task with stage := .ending .cancelledByClient } get
      (.giveUp early cancelled) rfl rfl rfl rfl rfl
  | readTask id arrival => exact readTask_effect stepped
  | storeStatus id =>
    obtain ⟨task, status, get, ending, held, rfl⟩ := storeStatus_inv stepped
    exact .store get ending held
  | finishTask id =>
    obtain ⟨task, status, get, reporting, held, rfl⟩ := finishTask_inv stepped
    exact .finish get reporting held
  | placeOnce call =>
    obtain ⟨run, -, -, ⟨deadline, -, rfl⟩ | ⟨-, rfl⟩⟩ := placeOnce_inv stepped
    · exact .aside rfl rfl rfl rfl
    · exact .aside rfl rfl rfl rfl
  | openOnce call result =>
    obtain ⟨run, -, -, rfl⟩ := openOnce_inv stepped
    exact .aside rfl rfl rfl rfl
  | readOnce call arrival =>
    obtain ⟨run, -, -, -, ⟨response, -, rfl⟩ | ⟨status, -, rfl⟩⟩ := readOnce_inv stepped
    · exact .aside rfl rfl rfl rfl
    · exact .aside rfl rfl rfl rfl
  | receive remote =>
    obtain ⟨called, queue, rest, -, -, -, rfl⟩ := receive_inv stepped
    exact setQueue_effect rfl rest called.caller
  | closeReceiver remote =>
    obtain ⟨called, queue, -, -, rfl⟩ := closeReceiver_inv stepped
    exact setQueue_effect rfl queue.closeReceiver called.caller
  | pass time =>
    cases stepped
    exact .aside rfl rfl rfl rfl

end Session

end PbrTelemetry
