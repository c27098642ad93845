import PbrTelemetry.Proofs.Session.Orderly

/-!
# What the lock protects

A task that ends takes the lock, leaves its status in the slot, and reports it before it gives the
lock back.  This file says what the others can do in the meantime: they neither take the lock nor
touch the slot.

* `step_stage`: how the stage of one task changes in a step.
* `step_lock` and `step_slot`: as long as a task holds the lock, the lock stays with it and the slot
  changes only by what the task itself stores.
* `Reachable.attended`: a task that reports holds the lock, and if it is the task of the slot, then
  the slot has its status and no writer.
-/

namespace PbrTelemetry

namespace Session

variable {session next : Session} {action : Action} {id : Nat}

/-! ## The stage of a task -/

def stageAt (tasks : List ReceiveTask) (id : Nat) : Option TaskStage :=
  tasks[id]?.map ReceiveTask.stage

theorem stageAt_eq_some {tasks : List ReceiveTask} {stage : TaskStage} :
    stageAt tasks id = some stage ↔ ∃ task, tasks[id]? = some task ∧ task.stage = stage := by
  simp [stageAt]

theorem stageAt_of_get {tasks : List ReceiveTask} {task : ReceiveTask}
    (get : tasks[id]? = some task) : stageAt tasks id = some task.stage := by
  simp [stageAt, get]

section

variable {tasks : List ReceiveTask} {task after : ReceiveTask} {other : Nat}

theorem stageAt_set_self (get : tasks[id]? = some task) :
    stageAt (tasks.set id after) id = some after.stage := by
  have bound := (List.getElem?_eq_some_iff.mp get).1
  simp [stageAt, bound]

theorem stageAt_set_ne (different : other ≠ id) :
    stageAt (tasks.set id after) other = stageAt tasks other := by
  simp [stageAt, different.symm]

theorem stageAt_set_same (get : tasks[id]? = some task) (same : after.stage = task.stage) :
    stageAt (tasks.set id after) other = stageAt tasks other := by
  by_cases here : other = id
  · subst here
    rw [stageAt_set_self get, stageAt_of_get get, same]
  · exact stageAt_set_ne here

end

/-- Tasks that somebody else leaves alone keep their stages; some may be spawned. -/
theorem TasksKept.stage {before after : List ReceiveTask} (kept : TasksKept before after)
    (id : Nat) : stageAt after id = stageAt before id ∨
      (stageAt before id = none ∧ stageAt after id = some .spawned) := by
  simp only [stageAt]
  cases get : before[id]? with
  | some task =>
    obtain ⟨later, found, -, same, -⟩ := kept.old id task get
    rw [found]
    exact .inl (congrArg some same)
  | none =>
    cases found : after[id]? with
    | none => exact .inl rfl
    | some task => exact .inr ⟨rfl, congrArg some (kept.new id task get found)⟩

inductive StageStep (session : Session) (action : Action) (next : Session) (id : Nat) : Prop where
  -- Another agent acts
  | rest (other : action.task? ≠ some id)
      (kept : stageAt next.tasks id = stageAt session.tasks id)
  -- The task is spawned
  | spawn (other : action.task? ≠ some id) (new : stageAt session.tasks id = none)
      (spawned : stageAt next.tasks id = some .spawned)
  -- The task advances on its own
  | advance {task : ReceiveTask} {stage : TaskStage} (get : session.tasks[id]? = some task)
      (moved : Advance session id task action stage) (reached : stageAt next.tasks id = some stage)
  -- The task leaves its status in the slot
  | store {status : Status} (storing : action = .storeStatus id)
      (ending : stageAt session.tasks id = some (.ending status))
      (reporting : stageAt next.tasks id = some (.reporting status))
  -- The task reports its status
  | finish {status : Status} (finishing : action = .finishTask id)
      (reporting : stageAt session.tasks id = some (.reporting status))
      (finished : stageAt next.tasks id = some .finished)

theorem Advance.task? {task : ReceiveTask} {stage : TaskStage}
    (moved : Advance session id task action stage) : action.task? = some id := by
  cases moved <;> rfl

theorem step_stage (stepped : session.step action = some next) (id : Nat) :
    StageStep session action next id := by
  cases step_effect stepped with
  | aside none _ _ tasks => exact .rest (by simp [none]) (by rw [tasks])
  | queue queue none get => exact .rest (by simp [none]) (stageAt_set_same get rfl)
  | @advance _ _ moving task after get moved _ _ _ _ tasks =>
    by_cases same : id = moving
    · subst same
      exact .advance get moved (by rw [tasks, stageAt_set_self get])
    · refine .rest ?_ (by rw [tasks, stageAt_set_ne same])
      rw [moved.task?]
      exact fun equal => same (Option.some.inj equal).symm
  | @store storing task status get ending _ =>
    by_cases same : id = storing
    · subst same
      exact .store rfl (by rw [stageAt_of_get get, ending]) (stageAt_set_self get)
    · exact .rest (fun equal => same (Option.some.inj equal).symm) (stageAt_set_ne same)
  | @finish finishing task status get reporting _ =>
    by_cases same : id = finishing
    · subst same
      exact .finish rfl (by rw [stageAt_of_get get, reporting]) (stageAt_set_self get)
    · exact .rest (fun equal => same (Option.some.inj equal).symm) (stageAt_set_ne same)
  | acquire _ _ => exact .rest (by simp [Action.task?]) rfl
  | inSection _ ran =>
    obtain same | ⟨new, spawned⟩ := (frame_runSection ran).tasks.stage id
    · exact .rest (by simp [Action.task?]) same
    · exact .spawn (by simp [Action.task?]) new spawned

/-! ## Tasks that are over -/

theorem Advance.early {task : ReceiveTask} {stage : TaskStage}
    (moved : Advance session id task action stage) :
    task.stage = .spawned ∨ task.stage = .opening ∨ task.stage = .reading := by
  cases moved with
  | place spawned | overrun spawned _ => exact .inl spawned
  | giveUp early _ => exact early.imp_right .inl
  | connect opening _ => exact .inr (.inl opening)
  | take reading _ | breakDown reading _ | stop reading _ => exact .inr (.inr reading)

theorem Advance.not_finished {task : ReceiveTask} {stage : TaskStage}
    (moved : Advance session id task action stage) : task.stage ≠ .finished := by
  rcases moved.early with early | early | early <;> simp [early]

theorem Advance.not_ended {task : ReceiveTask} {stage : TaskStage}
    (moved : Advance session id task action stage) (status : Status) :
    task.stage ≠ .ending status ∧ task.stage ≠ .reporting status := by
  rcases moved.early with early | early | early <;> simp [early]

theorem acting_unfinished (stepped : session.step action = some next)
    (acts : action.task? = some id) : stageAt session.tasks id ≠ some .finished := by
  cases step_stage stepped id with
  | rest other _ => exact absurd acts other
  | spawn other _ _ => exact absurd acts other
  | advance get moved _ =>
    rw [stageAt_of_get get]
    exact fun finished => moved.not_finished (Option.some.inj finished)
  | store _ ending _ => simp [ending]
  | finish _ reporting _ => simp [reporting]

theorem finished_stays (stepped : session.step action = some next)
    (finished : stageAt session.tasks id = some .finished) :
    stageAt next.tasks id = some .finished := by
  by_cases acts : action.task? = some id
  · exact absurd finished (acting_unfinished stepped acts)
  · cases step_stage stepped id with
    | rest _ kept => rw [kept, finished]
    | spawn _ new _ => cases new.symm.trans finished
    | advance _ moved _ => exact absurd moved.task? acts
    | store storing _ _ => exact absurd (by rw [storing]; rfl) acts
    | finish _ _ finished => exact finished

theorem finishTask_finished (finished : session.finishTask id = some next) :
    stageAt next.tasks id = some .finished := by
  obtain ⟨task, status, get, -, -, rfl⟩ := finishTask_inv finished
  exact stageAt_set_self get

/-! ## The lock -/

/-- Only the task that holds the lock gives it back. -/
theorem step_lock (stepped : session.step action = some next)
    (held : session.lock = some (.task id)) (kept : action ≠ .finishTask id) :
    next.lock = some (.task id) := by
  cases step_effect stepped with
  | aside _ _ lock _ => rw [lock, held]
  | queue _ _ _ => exact held
  | advance _ _ _ _ _ _ lock _ => rw [lock, held]
  | store _ _ _ => exact held
  | finish _ _ holds =>
    cases held.symm.trans holds
    exact absurd rfl kept
  | acquire free _ => cases held.symm.trans free
  | inSection holds _ => cases held.symm.trans holds

/-- The slot changes only by what the task that holds the lock stores. -/
theorem step_slot (stepped : session.step action = some next)
    (held : session.lock = some (.task id)) (kept : action ≠ .storeStatus id) :
    next.slot = session.slot := by
  cases step_effect stepped with
  | aside _ slot _ _ => exact slot
  | queue _ _ _ => rfl
  | advance _ _ _ _ _ slot _ _ => exact slot
  | store _ _ holds =>
    cases held.symm.trans holds
    exact absurd rfl kept
  | finish _ _ _ => rfl
  | acquire _ _ => rfl
  | inSection holds _ => cases held.symm.trans holds

/-! ## Tasks that report -/

/-- What holds of a session while a task reports its status. -/
structure Attended (session : Session) : Prop where
  locked : ∀ id status, stageAt session.tasks id = some (.reporting status) →
    session.lock = some (.task id)
  stored : ∀ id status, stageAt session.tasks id = some (.reporting status) →
    session.slot.receiveTask = some id →
    session.slot.writer = none ∧ session.slot.finalStatus = some status

theorem Advance.not_reporting {task : ReceiveTask} {stage : TaskStage} {status : Status}
    (moved : Advance session id task action stage) : stage ≠ .reporting status := by
  cases moved with
  | connect opening result => cases result <;> simp [openedStage]
  | place _ | overrun _ _ | giveUp _ _ | take _ _ | breakDown _ _ | stop _ _ => simp

/-- A task that reports after a step has stored its status in that step or reported before it. -/
theorem reporting_inv {status : Status} (stepped : session.step action = some next)
    (reporting : stageAt next.tasks id = some (.reporting status)) :
    (action = .storeStatus id ∧ stageAt session.tasks id = some (.ending status)) ∨
      (action.task? ≠ some id ∧ stageAt session.tasks id = some (.reporting status)) := by
  cases step_stage stepped id with
  | rest other kept => exact .inr ⟨other, kept.symm.trans reporting⟩
  | spawn _ _ spawned => cases spawned.symm.trans reporting
  | advance _ moved reached =>
    cases reached.symm.trans reporting
    exact absurd rfl moved.not_reporting
  | store storing ending reached =>
    cases reached.symm.trans reporting
    exact .inl ⟨storing, ending⟩
  | finish _ _ finished => cases finished.symm.trans reporting

theorem Attended.step (attended : Attended session) (orderly : Orderly session)
    (stepped : session.step action = some next) : Attended next where
  locked id status reporting := by
    obtain ⟨rfl, -⟩ | ⟨other, before⟩ := reporting_inv stepped reporting
    · obtain ⟨task, status, -, -, held, rfl⟩ := storeStatus_inv stepped
      exact held
    · have held := attended.locked id status before
      exact step_lock stepped held (Action.ne_finishTask other)
  stored id status reporting holds := by
    obtain ⟨rfl, ending⟩ | ⟨other, before⟩ := reporting_inv stepped reporting
    · obtain ⟨task, found, get, stopped, held, rfl⟩ := storeStatus_inv stepped
      rw [stageAt_of_get get, stopped] at ending
      cases ending
      -- The task in the slot has the number of the slot, so its status is not thrown away
      have own : session.slot.receiveTask = some id := by
        simp only [storedSlot] at holds
        split at holds <;> exact holds
      obtain ⟨same, there, generation⟩ := orderly.wired.held_generation own
      cases get.symm.trans there
      simp [storedSlot, generation]
    · -- The task held the lock already, and nobody but itself stores anything
      have held := attended.locked id status before
      have slot := step_slot stepped held (Action.ne_storeStatus other)
      rw [slot] at holds ⊢
      exact attended.stored id status before holds

theorem Reachable.attended (reachable : Reachable session) : Attended session := by
  induction reachable with
  | fresh counter onSuccess onFailure =>
    exact
      { locked := fun _ _ reporting => by cases reporting
        stored := fun _ _ reporting => by cases reporting }
  | step action reachable stepped ih => exact ih.step reachable.orderly stepped

end Session

end PbrTelemetry
