import PbrTelemetry.Proofs.Session.Barrier
import PbrTelemetry.Proofs.Session.Quiet

/-!
# A close comes to its end

A close waits for the task that it took without the lock, and the task needs the lock for its
terminal section, which other calls and other tasks need as well.  Nobody waits in a circle: the
task was cancelled before the close began to wait, so whatever it waits for on its remote call is
cut short, and whoever has the lock goes on without waiting for anybody.

* `goesOn_of_held`: the holder of the lock can act.
* `Awaits.advance`: a step brings the task closer to its end, and neither the target nor the clock
  nor a new call has a part in it.  `Awaits.drain` is the run that such steps make.
* `awaited_task_ends`: what is true of every session in which a close waits.
-/

namespace PbrTelemetry

namespace Session

/-! ## The holder of the lock -/

def GoesOn (session : Session) : Agent → Prop
  | .task id => (session.step (.storeStatus id)).isSome ∨ (session.step (.finishTask id)).isSome
  | .call call => (session.step (.runSection call)).isSome

def AwaitsTask (session : Session) : Agent → Prop
  | .task _ => False
  | .call call => ∃ id, session.calls[call]? = some (.close (.awaiting id))

variable {session next : Session} {action : Action} {agent : Agent} {id call : Nat}

theorem acquire_possible {status : Status}
    (ending : stageAt session.tasks id = some (.ending status)) (free : session.lock = none) :
    (session.step (.acquire (.task id))).isSome := by
  have needed := needsLock_of_stage (.inl ending)
  simp [step, acquire, free, needed]

theorem storeStatus_possible {status : Status}
    (ending : stageAt session.tasks id = some (.ending status))
    (held : session.lock = some (.task id)) : (session.step (.storeStatus id)).isSome := by
  obtain ⟨task, get, stage⟩ := stageAt_eq_some.mp ending
  simp [step, storeStatus, get, stage, held]

theorem runSection_possible (needed : session.needsLock (.call call) = true)
    (held : session.lock = some (.call call)) : (session.step (.runSection call)).isSome := by
  simp only [needsLock] at needed
  simp only [step, runSection, held, if_true]
  split at needed <;> simp_all

/-- Whoever holds the lock is at a step that it takes on its own. -/
theorem goesOn_of_held (reachable : Reachable session) (held : session.lock = some agent) :
    GoesOn session agent := by
  have needed := reachable.lock_needed agent held
  cases agent with
  | call call => exact runSection_possible needed held
  | task id =>
    obtain ⟨status, ending | reporting⟩ := needsLock_task needed
    · exact .inl (storeStatus_possible ending held)
    · exact .inr (finishTask_possible reachable.attended reporting)

theorem needsLock_of_awaitsTask (awaits : AwaitsTask session agent) :
    session.needsLock agent = false := by
  cases agent with
  | task _ => exact awaits.elim
  | call call =>
    obtain ⟨id, waiting⟩ := awaits
    simp [needsLock, waiting]

theorem not_held_of_awaitsTask (reachable : Reachable session)
    (awaits : AwaitsTask session agent) : session.lock ≠ some agent := by
  intro held
  have needed := reachable.lock_needed agent held
  rw [needsLock_of_awaitsTask awaits] at needed
  cases needed

/-! ## The task that a close waits for -/

structure Awaits (session : Session) (call id : Nat) : Prop where
  reachable : Reachable session
  waiting : session.calls[call]? = some (.close (.awaiting id))

namespace Awaits

theorem cancelled (awaits : Awaits session call id) :
    ∃ task, session.tasks[id]? = some task ∧ task.cancelled = true :=
  awaits.reachable.orderly.justified call _ awaits.waiting

theorem step (awaits : Awaits session call id) (stepped : session.step action = some next)
    (other : action.call? ≠ some call) : Awaits next call id where
  reachable := awaits.reachable.step action stepped
  waiting := step_call stepped awaits.waiting (fun _ => by simp) other

theorem giveUp_possible (awaits : Awaits session call id)
    (opening : stageAt session.tasks id = some .opening) :
    (session.step (.giveUpTask id)).isSome := by
  obtain ⟨task, get, cancelled⟩ := awaits.cancelled
  rw [stageAt_of_get get, Option.some.injEq] at opening
  simp [Session.step, giveUpTask, mayGiveUp, get, opening, isCancelled, cancelled]

/-- A task that has not started to run gives up once it has its deadline, or breaks down over it. -/
theorem start_possible (awaits : Awaits session call id)
    (spawned : stageAt session.tasks id = some .spawned) :
    (session.step (.giveUpTask id)).isSome ∨
      ∃ next, session.step (.placeTask id) = some next ∧
        stageAt next.tasks id = some .finished := by
  obtain ⟨task, get, cancelled⟩ := awaits.cancelled
  rw [stageAt_of_get get, Option.some.injEq] at spawned
  cases timely : session.deadlineOf? task.metadata with
  | some deadline =>
    left
    simp [Session.step, giveUpTask, mayGiveUp, get, spawned, timely, isCancelled, cancelled]
  | none =>
    right
    refine ⟨session.setTask id
      { task with stage := .finished, queue := task.queue.closeReceiver }, ?_,
      stageAt_set_self get⟩
    simp only [Session.step, placeTask, get, spawned, timely, if_true]

theorem read_possible (awaits : Awaits session call id)
    (reading : stageAt session.tasks id = some .reading) :
    (session.step (.readTask id .cancelled)).isSome := by
  obtain ⟨task, get, cancelled⟩ := awaits.cancelled
  rw [stageAt_of_get get, Option.some.injEq] at reading
  simp [Session.step, readTask, get, reading, isPossible, isCancelled, cancelled, Arrival.result]

end Awaits

/-! ## What a task waits for -/

/-- Where a task is on its way to the end, and what it can do there. -/
inductive Unblocked (session : Session) (id : Nat) : Prop where
  | done (finished : stageAt session.tasks id = some .finished)
  -- Its remote call is not open, and it does not have to wait until it is
  | giveUp (early : stageAt session.tasks id = some .spawned ∨
        stageAt session.tasks id = some .opening)
      (possible : (session.step (.giveUpTask id)).isSome)
  -- It has not started to run, and breaks down when it does
  | breakDown {next : Session} (spawned : stageAt session.tasks id = some .spawned)
      (placed : session.step (.placeTask id) = some next)
      (finished : stageAt next.tasks id = some .finished)
  -- It reads, and can take its cancellation in place of a response
  | cancel (reading : stageAt session.tasks id = some .reading)
      (possible : (session.step (.readTask id .cancelled)).isSome)
  -- It needs the lock, which is free
  | enter {status : Status} (ending : stageAt session.tasks id = some (.ending status))
      (free : session.lock = none) (possible : (session.step (.acquire (.task id))).isSome)
  -- It has the lock
  | hold (held : session.lock = some (.task id)) (goesOn : GoesOn session (.task id))
  -- It waits for the lock and for nothing else, and the holder of the lock goes on
  | wait {status : Status} {holder : Agent}
      (ending : stageAt session.tasks id = some (.ending status))
      (held : session.lock = some holder) (goesOn : GoesOn session holder)

theorem Awaits.unblocked (awaits : Awaits session call id) : Unblocked session id := by
  obtain ⟨task, get, -⟩ := awaits.cancelled
  have stage := stageAt_of_get get
  generalize task.stage = reached at stage
  cases reached with
  | spawned =>
    rcases awaits.start_possible stage with possible | ⟨next, placed, finished⟩
    · exact .giveUp (.inl stage) possible
    · exact .breakDown stage placed finished
  | opening => exact .giveUp (.inr stage) (awaits.giveUp_possible stage)
  | reading => exact .cancel stage (awaits.read_possible stage)
  | ending status =>
    cases held : session.lock with
    | none => exact .enter stage held (acquire_possible stage held)
    | some holder => exact .wait stage held (goesOn_of_held awaits.reachable held)
  | reporting status =>
    have held := awaits.reachable.attended.locked id status stage
    exact .hold held (goesOn_of_held awaits.reachable held)
  | finished => exact .done stage

/-! ## The way to the end -/

/-- The session takes this step on its own: neither the target nor the clock nor a new call has a
part in it. -/
def Action.isInternal : Action → Bool
  | .placeTask _ | .giveUpTask _ | .readTask _ .cancelled | .acquire (.task _) | .storeStatus _
  | .finishTask _
  | .runSection _ => true
  | _ => false

def stageDistance : Option TaskStage → Nat
  | some .finished => 0
  | some (.reporting _) => 2
  | some (.ending _) => 3
  | _ => 4

def lockDistance (session : Session) (id : Nat) : Nat :=
  match session.lock with
  | none => 1
  | some (.call _) => 2
  | some (.task holder) =>
    if holder = id then 0
    else
      match stageAt session.tasks holder with
      | some (.ending _) => 3
      | _ => 2

def distance (session : Session) (id : Nat) : Nat :=
  stageDistance (stageAt session.tasks id) + lockDistance session id

theorem lockDistance_setTask (session : Session) (id : Nat) (after : ReceiveTask) :
    lockDistance (session.setTask id after) id = lockDistance session id := by
  unfold lockDistance
  show (match session.lock with | none => 1 | some (.call _) => 2 | some (.task holder) => _) = _
  cases session.lock with
  | none => rfl
  | some agent =>
    cases agent with
    | call call => rfl
    | task holder =>
      by_cases same : holder = id
      · simp [same]
      · simp [same, setTask, stageAt_set_ne]

/-- A task that takes its cancellation or breaks down comes closer to its end, whoever has the
lock. -/
theorem distance_setTask {task after : ReceiveTask} (get : session.tasks[id]? = some task)
    (early : task.stage = .spawned ∨ task.stage = .opening ∨ task.stage = .reading)
    (closer : stageDistance (some after.stage) < 4) :
    distance (session.setTask id after) id < distance session id := by
  have reached : stageAt (session.setTask id after).tasks id = some after.stage :=
    stageAt_set_self get
  have before : stageDistance (some task.stage) = 4 := by
    rcases early with stage | stage | stage
    all_goals
      rw [stage]
      rfl
  unfold distance
  rw [lockDistance_setTask, reached, stageAt_of_get get, before]
  omega

/-- The holder of the lock comes closer to giving it back, and that is closer for all who wait. -/
theorem distance_storeStatus {holder : Nat} (stored : session.storeStatus holder = some next)
    (id : Nat) : distance next id < distance session id := by
  obtain ⟨task, status, get, ending, held, rfl⟩ := storeStatus_inv stored
  have before : stageAt session.tasks holder = some (.ending status) := by
    rw [stageAt_of_get get, ending]
  have after : stageAt (session.tasks.set holder { task with stage := .reporting status }) holder
      = some (.reporting status) := stageAt_set_self get
  by_cases own : id = holder
  · subst own
    simp [distance, lockDistance, setTask, held, before, after, stageDistance]
  · simp [distance, lockDistance, setTask, held, before, after, stageAt_set_ne own, Ne.symm own]

theorem distance_finishTask {holder : Nat} (finished : session.finishTask holder = some next)
    (id : Nat) : distance next id < distance session id := by
  obtain ⟨task, status, get, reporting, held, rfl⟩ := finishTask_inv finished
  have before : stageAt session.tasks holder = some (.reporting status) := by
    rw [stageAt_of_get get, reporting]
  have after : stageAt (session.tasks.set holder { task with stage := .finished }) holder
      = some .finished := stageAt_set_self get
  by_cases own : id = holder
  · subst own
    simp [distance, lockDistance, held, before, after, stageDistance]
  · simp [distance, lockDistance, held, before, stageAt_set_ne own, Ne.symm own]

theorem distance_runSection (ran : session.runSection call = some next)
    (there : id < session.tasks.length) : distance next id < distance session id := by
  have held := (runSection_inv ran).1
  have free := runSection_lock ran
  have stage : stageAt next.tasks id = stageAt session.tasks id := by
    obtain same | ⟨absent, -⟩ := (frame_runSection ran).tasks.stage id
    · exact same
    · simp [stageAt, there] at absent
  simp [distance, lockDistance, held, free, stage]

theorem Awaits.advance_held (awaits : Awaits session call id) (held : session.lock = some agent) :
    ∃ action next, action.isInternal = true ∧ session.step action = some next ∧
      Awaits next call id ∧ distance next id < distance session id := by
  have goesOn := goesOn_of_held awaits.reachable held
  cases agent with
  | task holder =>
    rcases goesOn with possible | possible
    · obtain ⟨next, stepped⟩ := Option.isSome_iff_exists.mp possible
      exact ⟨_, next, rfl, stepped, awaits.step stepped (by simp [Action.call?]),
        distance_storeStatus stepped id⟩
    · obtain ⟨next, stepped⟩ := Option.isSome_iff_exists.mp possible
      exact ⟨_, next, rfl, stepped, awaits.step stepped (by simp [Action.call?]),
        distance_finishTask stepped id⟩
  | call holder =>
    obtain ⟨next, stepped⟩ := Option.isSome_iff_exists.mp goesOn
    -- The close that waits is not the one with the lock
    have other : Action.call? (.runSection holder) ≠ some call := by
      intro same
      cases same
      have waits : AwaitsTask session (.call call) := ⟨id, awaits.waiting⟩
      exact not_held_of_awaitsTask awaits.reachable waits held
    obtain ⟨task, there, -⟩ := awaits.cancelled
    exact ⟨_, next, rfl, stepped, awaits.step stepped other,
      distance_runSection stepped (List.getElem?_eq_some_iff.mp there).1⟩

/-- As long as the task is not over, some step brings it closer to its end, and the close still
waits for it. -/
theorem Awaits.advance (awaits : Awaits session call id)
    (unfinished : stageAt session.tasks id ≠ some .finished) :
    ∃ action next, action.isInternal = true ∧ session.step action = some next ∧
      Awaits next call id ∧ distance next id < distance session id := by
  cases awaits.unblocked with
  | done finished => exact absurd finished unfinished
  | giveUp early possible =>
    obtain ⟨next, stepped⟩ := Option.isSome_iff_exists.mp possible
    refine ⟨_, next, rfl, stepped, awaits.step stepped (by simp [Action.call?]), ?_⟩
    obtain ⟨found, get, early, -, rfl⟩ := giveUpTask_inv stepped
    exact distance_setTask get (early.imp_right .inl) (Nat.lt_succ_self 3)
  | breakDown spawned placed finished =>
    refine ⟨_, _, rfl, placed, awaits.step placed (by simp [Action.call?]), ?_⟩
    obtain ⟨found, get, stage, ⟨deadline, -, rfl⟩ | ⟨-, rfl⟩⟩ := placeTask_inv placed
    · cases (stageAt_set_self get).symm.trans finished
    · exact distance_setTask get (.inl stage) (Nat.succ_pos 3)
  | cancel reading possible =>
    obtain ⟨next, stepped⟩ := Option.isSome_iff_exists.mp possible
    refine ⟨_, next, rfl, stepped, awaits.step stepped (by simp [Action.call?]), ?_⟩
    obtain ⟨found, get, stage, -, ⟨response, none, -⟩ | ⟨status, -, rfl⟩⟩ := readTask_inv stepped
    · cases none
    · exact distance_setTask get (.inr (.inr stage)) (Nat.lt_succ_self 3)
  | enter ending free possible =>
    obtain ⟨next, stepped⟩ := Option.isSome_iff_exists.mp possible
    refine ⟨_, next, rfl, stepped, awaits.step stepped (by simp [Action.call?]), ?_⟩
    obtain ⟨-, -, rfl⟩ := acquire_inv stepped
    simp [distance, lockDistance, free]
  | hold held _ => exact awaits.advance_held held
  | wait _ held _ => exact awaits.advance_held held

/-- Steps of the session alone bring the task to its end, and then the close goes on. -/
theorem Awaits.drain (awaits : Awaits session call id) :
    ∃ actions final, (∀ action ∈ actions, action.isInternal = true) ∧
      session.run actions = some final ∧ stageAt final.tasks id = some .finished ∧
      (final.step (.resume call)).isSome := by
  induction far : distance session id using Nat.strongRecOn generalizing session with
  | ind far ih =>
    by_cases finished : stageAt session.tasks id = some .finished
    · refine ⟨[], session, by simp, rfl, finished, ?_⟩
      simp only [stageAt] at finished
      simp [Session.step, resume, awaits.waiting, finished]
    · obtain ⟨action, next, internal, stepped, still, closer⟩ := awaits.advance finished
      obtain ⟨rest, final, others, ran, ended⟩ := ih (distance next id) (far ▸ closer) still rfl
      refine ⟨action :: rest, final, ?_, ?_, ended⟩
      · simpa [internal] using others
      · simp only [run, stepped, ran]

/-- In every session in which a close waits for a task, the task is cancelled and nothing keeps it
from its end: it can act, or it waits for the lock, which nobody holds who waits for a task and
whose holder can act.  The session comes to the end of the task on its own, and the close goes
on. -/
theorem awaited_task_ends (reachable : Reachable session)
    (waiting : session.calls[call]? = some (.close (.awaiting id))) :
    (∃ task, session.tasks[id]? = some task ∧ task.cancelled = true) ∧
    (∀ other task, session.calls[other]? = some (.close (.awaiting task)) →
      session.lock ≠ some (.call other)) ∧
    (∀ holder, session.lock = some holder →
      ¬ AwaitsTask session holder ∧ GoesOn session holder) ∧
    Unblocked session id ∧
    ∃ actions final, (∀ action ∈ actions, action.isInternal = true) ∧
      session.run actions = some final ∧ stageAt final.tasks id = some .finished ∧
      (final.step (.resume call)).isSome := by
  have awaits : Awaits session call id := ⟨reachable, waiting⟩
  refine ⟨awaits.cancelled, ?_, ?_, awaits.unblocked, awaits.drain⟩
  · intro other task elsewhere
    have waits : AwaitsTask session (.call other) := ⟨task, elsewhere⟩
    exact not_held_of_awaitsTask reachable waits
  · intro holder held
    exact ⟨fun waits => not_held_of_awaitsTask reachable waits held, goesOn_of_held reachable held⟩

/-- A close that waits for a task which has taken its cancellation, while a registration has the
lock that the task needs. -/
def lockedOut : List Action :=
  closedStream ++
    [.readTask 0 .cancelled, .start (.registerStream admin {}), .acquire (.call 2)]

theorem awaited_task_ends_lockedOut :
    ∃ session, (fresh {} none none).run lockedOut = some session ∧
      session.calls[1]? = some (.close (.awaiting 0)) ∧ session.lock = some (.call 2) ∧
      GoesOn session (.call 2) ∧
      ∃ actions final, session.run actions = some final ∧
        stageAt final.tasks 0 = some .finished ∧ (final.step (.resume 1)).isSome := by
  have happens : ∃ session, (fresh {} none none).run lockedOut = some session ∧
      session.calls[1]? = some (.close (.awaiting 0)) ∧ session.lock = some (.call 2) :=
    ⟨_, rfl, rfl, rfl⟩
  obtain ⟨session, ran, waiting, held⟩ := happens
  obtain ⟨-, -, goesOn, -, actions, final, -, drained, ended, resumed⟩ :=
    awaited_task_ends ((Reachable.fresh {} none none).run ran) waiting
  exact ⟨session, ran, waiting, held, (goesOn _ held).2, actions, final, drained, ended, resumed⟩

end Session

end PbrTelemetry
