import PbrTelemetry.Proofs.Session.Inversion

/-!
# The slot of a session

The fields of the slot are written in four sections: a registration starts a stream, a close takes
the stream out of the slot, later it changes the phase, and a task leaves its status.  Calls give
the lock back between sections, so the sections come in any order.  `Slot.Wired` is what all of them
keep: how the fields hang together, and what they say about the tasks that were ever started.

The field that carries the others is `latest`: the task in the slot is the last one that was
started, and so it is told from all older tasks by its generation.  The lemmas `start`, `take`,
`settle` and `store` are one for each section; they speak of a slot and a list of tasks and know
nothing of sessions.
-/

namespace PbrTelemetry

/-- How the slot of a session goes with the tasks that were started. -/
structure Slot.Wired (slot : Slot) (tasks : List ReceiveTask) : Prop where
  -- A close cancels the task that it takes
  cancel_eq : slot.cancel = slot.receiveTask
  -- Requests are written to the task in the slot only
  writer_task : ∀ id, slot.writer = some id → slot.receiveTask = some id
  -- Streams are counted
  generation_eq : slot.generation = tasks.length
  -- Tasks have the number of their stream
  task_generation : ∀ id task, tasks[id]? = some task → task.generation = id + 1
  -- The task in the slot is the last one
  latest : ∀ id, slot.receiveTask = some id → id + 1 = tasks.length
  -- A task that no close has cancelled is in the slot
  uncancelled : ∀ id task, tasks[id]? = some task → task.cancelled = false →
    slot.receiveTask = some id
  -- A stream is active as long as it is in the slot
  active : slot.receiveTask.isSome → slot.phase = .streamActive
  -- It can be written to until it has a status
  writer_none_iff : slot.receiveTask.isSome → (slot.writer = none ↔ slot.finalStatus.isSome)
  -- Nothing was started as long as the session is idle
  idle_iff : slot.phase = .idle ↔ tasks = []

namespace Slot.Wired

variable {slot : Slot} {tasks : List ReceiveTask}

theorem fresh : Wired {} [] where
  cancel_eq := rfl
  writer_task _ writer := by cases writer
  generation_eq := rfl
  task_generation _ _ get := by cases get
  latest _ held := by cases held
  uncancelled _ _ get := by cases get
  active held := by cases held
  writer_none_iff held := by cases held
  idle_iff := by simp

theorem held_generation (wired : Wired slot tasks) {id : Nat} (held : slot.receiveTask = some id) :
    ∃ task, tasks[id]? = some task ∧ task.generation = slot.generation := by
  have last := wired.latest id held
  have get : tasks[id]? = some tasks[id] := List.getElem?_eq_getElem (by omega)
  exact ⟨_, get, by rw [wired.task_generation id _ get, wired.generation_eq, last]⟩

/-- A task changes in other respects than its number and its cancellation. -/
theorem set (wired : Wired slot tasks) {id : Nat} {task after : ReceiveTask}
    (get : tasks[id]? = some task) (generation : after.generation = task.generation)
    (cancelled : after.cancelled = task.cancelled) : Wired slot (tasks.set id after) where
  cancel_eq := wired.cancel_eq
  writer_task := wired.writer_task
  generation_eq := by rw [List.length_set, wired.generation_eq]
  task_generation other found there := by
    obtain ⟨rfl, rfl⟩ | ⟨-, there⟩ := getElem?_set_inv there
    · rw [generation, wired.task_generation other task get]
    · exact wired.task_generation other found there
  latest other held := by rw [List.length_set, wired.latest other held]
  uncancelled other found there kept := by
    obtain ⟨rfl, rfl⟩ | ⟨-, there⟩ := getElem?_set_inv there
    · exact wired.uncancelled other task get (cancelled ▸ kept)
    · exact wired.uncancelled other found there kept
  active := wired.active
  writer_none_iff := wired.writer_none_iff
  idle_iff := by rw [wired.idle_iff, List.set_eq_nil_iff]

/-- A stream is started in an empty slot. -/
theorem start (wired : Wired slot tasks) (empty : slot.receiveTask = none) {task : ReceiveTask}
    (generation : task.generation = slot.generation + 1) :
    Wired
      { writer := some tasks.length, cancel := some tasks.length
        receiveTask := some tasks.length, finalStatus := none, phase := .streamActive
        generation := slot.generation + 1 }
      (tasks ++ [task]) where
  cancel_eq := rfl
  writer_task _ writer := writer
  generation_eq := by rw [List.length_append, wired.generation_eq, List.length_singleton]
  task_generation other found there := by
    obtain there | ⟨rfl, rfl⟩ := getElem?_snoc_inv there
    · exact wired.task_generation other found there
    · rw [generation, wired.generation_eq]
  latest other held := by
    cases held
    rw [List.length_append, List.length_singleton]
  uncancelled other found there kept := by
    obtain there | ⟨rfl, rfl⟩ := getElem?_snoc_inv there
    · -- A close has cancelled all older tasks, for the slot is empty
      have held := wired.uncancelled other found there kept
      rw [empty] at held
      cases held
    · rfl
  active _ := rfl
  writer_none_iff _ := by simp
  idle_iff := by simp

/-- A stream is taken out of the slot and cancelled. -/
theorem take (wired : Wired slot tasks) {cancelled : List ReceiveTask}
    (length : cancelled.length = tasks.length)
    (generation : ∀ (id : Nat) (task : ReceiveTask), cancelled[id]? = some task →
      task.generation = id + 1)
    (dead : ∀ (id : Nat) (task : ReceiveTask), cancelled[id]? = some task →
      task.cancelled = true) :
    Wired { slot with writer := none, cancel := none, receiveTask := none } cancelled where
  cancel_eq := rfl
  writer_task _ writer := by cases writer
  generation_eq := by rw [length, ← wired.generation_eq]
  task_generation := generation
  latest _ held := by cases held
  uncancelled other found there kept := by
    rw [dead other found there] at kept
    cases kept
  active held := by cases held
  writer_none_iff held := by cases held
  idle_iff := by
    rw [← List.length_eq_zero_iff, length, List.length_eq_zero_iff]
    exact wired.idle_iff

/-- The phase is changed once a stream was closed. -/
theorem settle (wired : Wired slot tasks) (started : tasks ≠ []) :
    Wired { slot with phase := if slot.receiveTask.isNone then .closed else slot.phase }
      tasks where
  cancel_eq := wired.cancel_eq
  writer_task := wired.writer_task
  generation_eq := wired.generation_eq
  task_generation := wired.task_generation
  latest := wired.latest
  uncancelled := wired.uncancelled
  active held := by
    cases slot with
    | mk writer cancel receiveTask finalStatus phase generation =>
      cases receiveTask with
      | none => cases held
      | some id => exact wired.active held
  writer_none_iff := wired.writer_none_iff
  idle_iff := by
    have busy := wired.idle_iff
    cases slot.receiveTask with
    | none => simp [started]
    | some id => exact busy

/-- A task leaves its status in the slot, if the slot has its number. -/
theorem store (wired : Wired slot tasks) (generation : Nat) (status : Status) :
    Wired (Session.storedSlot slot generation status) tasks := by
  simp only [Session.storedSlot]
  split
  · exact
      { cancel_eq := wired.cancel_eq
        writer_task := fun _ writer => by cases writer
        generation_eq := wired.generation_eq
        task_generation := wired.task_generation
        latest := wired.latest
        uncancelled := wired.uncancelled
        active := wired.active
        writer_none_iff := fun _ => by simp
        idle_iff := wired.idle_iff }
  · exact wired

theorem empty_of_closed (wired : Wired slot tasks) (closed : slot.phase = .closed) :
    slot.writer = none ∧ slot.cancel = none ∧ slot.receiveTask = none := by
  have empty : slot.receiveTask = none := by
    cases held : slot.receiveTask with
    | none => rfl
    | some id =>
      have active := wired.active (Option.isSome_iff_exists.mpr ⟨id, held⟩)
      cases closed.symm.trans active
  refine ⟨?_, wired.cancel_eq.trans empty, empty⟩
  cases writer : slot.writer with
  | none => rfl
  | some id => cases empty.symm.trans (wired.writer_task id writer)

end Slot.Wired

/-! ## What the fields say about each other -/

/-- The fields of a slot agree with each other and with the tasks that were started. -/
structure Slot.Consistent (slot : Slot) (tasks : List ReceiveTask) : Prop where
  cancel : slot.receiveTask.isSome ↔ slot.cancel.isSome
  writer : slot.writer.isSome → slot.receiveTask.isSome
  active : ∀ id, slot.receiveTask = some id → slot.phase = .streamActive ∧
    ∃ task, tasks[id]? = some task ∧ task.generation = slot.generation
  finalStatus : slot.receiveTask.isSome → (slot.writer = none ↔ slot.finalStatus.isSome)
  idle : slot.phase = .idle ↔ slot.generation = 0
  closed : slot.phase = .closed →
    slot.writer = none ∧ slot.cancel = none ∧ slot.receiveTask = none

theorem Slot.Wired.consistent {slot : Slot} {tasks : List ReceiveTask}
    (wired : slot.Wired tasks) : slot.Consistent tasks where
  cancel := by rw [wired.cancel_eq]
  writer writable := by
    obtain ⟨id, writer⟩ := Option.isSome_iff_exists.mp writable
    exact Option.isSome_iff_exists.mpr ⟨id, wired.writer_task id writer⟩
  active id held :=
    ⟨wired.active (Option.isSome_iff_exists.mpr ⟨id, held⟩), wired.held_generation held⟩
  finalStatus := wired.writer_none_iff
  idle := by rw [wired.idle_iff, wired.generation_eq, List.length_eq_zero_iff]
  closed := wired.empty_of_closed

end PbrTelemetry
