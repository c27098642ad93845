import PbrTelemetry.Proofs.Session.Inversion

/-!
# What a section leaves alone

With the lock held, a call starts a task, writes to the queue of a task, or cancels one.  It does
not touch the counter, calls no handler and places no remote call, and no task comes further by it.
The same is true of the target when it receives requests.  `Frame` is what all of these leave alone,
and it is proved once for each operation; that tasks stay in their places, that their stages are
their own, and that only readers change the counter are all read off it.

The slot is not part of the frame: what the sections do to it is another matter.
-/

namespace PbrTelemetry

namespace Session

/-- The tasks of a session after somebody else has acted. -/
structure TasksKept (before after : List ReceiveTask) : Prop where
  -- Tasks keep their places, numbers and stages, and they stay cancelled
  old : ∀ (id : Nat) (task : ReceiveTask), before[id]? = some task →
    ∃ later : ReceiveTask, after[id]? = some later ∧ later.generation = task.generation ∧
      later.stage = task.stage ∧ (task.cancelled = true → later.cancelled = true)
  -- A task that was not there before has done nothing yet
  new : ∀ (id : Nat) (task : ReceiveTask), before[id]? = none → after[id]? = some task →
    task.stage = .spawned

namespace TasksKept

variable {before middle after tasks : List ReceiveTask} {task later : ReceiveTask}

theorem refl (tasks : List ReceiveTask) : TasksKept tasks tasks where
  old _ task get := ⟨task, get, rfl, rfl, fun kept => kept⟩
  new _ _ none get := by cases none.symm.trans get

theorem trans (first : TasksKept before middle) (second : TasksKept middle after) :
    TasksKept before after where
  old id task get := by
    obtain ⟨between, there, number, stage, kept⟩ := first.old id task get
    obtain ⟨later, found, same, equal, keeps⟩ := second.old id between there
    exact ⟨later, found, same.trans number, equal.trans stage, fun dead => keeps (kept dead)⟩
  new id task none get := by
    cases there : middle[id]? with
    | none => exact second.new id task there get
    | some between =>
      obtain ⟨later, found, -, same, -⟩ := second.old id between there
      cases get.symm.trans found
      rw [same, first.new id between none there]

theorem snoc (spawned : task.stage = .spawned) : TasksKept tasks (tasks ++ [task]) where
  old id old get := by
    have bound := (List.getElem?_eq_some_iff.mp get).1
    exact ⟨old, by rw [List.getElem?_append_left bound, get], rfl, rfl, fun kept => kept⟩
  new id found none get := by
    obtain there | ⟨-, rfl⟩ := getElem?_snoc_inv get
    · cases none.symm.trans there
    · exact spawned

theorem set {id : Nat} (get : tasks[id]? = some task)
    (generation : later.generation = task.generation) (stage : later.stage = task.stage)
    (cancelled : task.cancelled = true → later.cancelled = true) :
    TasksKept tasks (tasks.set id later) where
  old other old there := by
    by_cases same : other = id
    · subst same
      rw [get] at there
      cases there
      have bound := (List.getElem?_eq_some_iff.mp get).1
      exact ⟨later, List.getElem?_set_self bound, generation, stage, cancelled⟩
    · exact ⟨old, by rw [List.getElem?_set_ne (Ne.symm same), there], rfl, rfl, fun kept => kept⟩
  new other found none there := by
    obtain ⟨rfl, -⟩ | ⟨-, there⟩ := getElem?_set_inv there
    · cases none.symm.trans get
    · cases none.symm.trans there

end TasksKept

/-- What stays the same in a session when neither a reader nor a task acts. -/
structure Frame (session next : Session) : Prop where
  counter : next.counter = session.counter
  handled : next.handled = session.handled
  onSuccess : next.onSuccess = session.onSuccess
  onFailure : next.onFailure = session.onFailure
  remote : next.remote = session.remote
  dropped : next.dropped = session.dropped
  tasks : TasksKept session.tasks next.tasks

namespace Frame

variable {session middle next : Session}

theorem refl (session : Session) : Frame session session := ⟨rfl, rfl, rfl, rfl, rfl, rfl, .refl _⟩

theorem trans (first : Frame session middle) (second : Frame middle next) :
    Frame session next where
  counter := second.counter.trans first.counter
  handled := second.handled.trans first.handled
  onSuccess := second.onSuccess.trans first.onSuccess
  onFailure := second.onFailure.trans first.onFailure
  remote := second.remote.trans first.remote
  dropped := second.dropped.trans first.dropped
  tasks := first.tasks.trans second.tasks

theorem setTask {id : Nat} {task later : ReceiveTask} (get : session.tasks[id]? = some task)
    (generation : later.generation = task.generation) (stage : later.stage = task.stage)
    (cancelled : task.cancelled = true → later.cancelled = true) :
    Frame session (session.setTask id later) :=
  ⟨rfl, rfl, rfl, rfl, rfl, rfl, .set get generation stage cancelled⟩

theorem outside (frame : Frame session next) (calls : List ClientCall) (slot : Slot)
    (lock : Option Agent) : Frame session { next with calls, slot, lock } :=
  { frame with }

end Frame

variable {session next : Session}

/-! ## The frames of the operations -/

theorem frame_ensureStream (session : Session) (metadata : CallMetadata) :
    Frame session (session.ensureStream metadata) := by
  obtain ⟨-, started⟩ | ⟨-, same⟩ := ensureStream_inv session metadata
  · rw [started]
    exact ⟨rfl, rfl, rfl, rfl, rfl, rfl, .snoc rfl⟩
  · rw [same]
    exact .refl session

theorem frame_writeRequest (session : Session) (request : SubscribeRequest) :
    Frame session (session.writeRequest request).1 := by
  obtain same | ⟨id, task, queue, get, changed⟩ := writeRequest_changes session request
  · rw [same]
    exact .refl session
  · rw [changed]
    exact .setTask get rfl rfl fun kept => kept

theorem frame_cancelHeld (session : Session) : Frame session session.cancelHeld := by
  obtain same | ⟨id, task, get, changed⟩ := cancelHeld_changes session
  · rw [same]
    exact .refl session
  · rw [changed]
    exact .setTask get rfl rfl fun _ => rfl

theorem frame_runSection {call : Nat} (ran : session.runSection call = some next) :
    Frame session next := by
  obtain ⟨-, ⟨metadata, request, -, rfl⟩ | ⟨-, rfl⟩ | ⟨-, rfl⟩ | ⟨-, rfl⟩⟩ := runSection_inv ran
  · rw [registerSection_eq]
    have ensured := frame_ensureStream session metadata
    exact (ensured.trans (frame_writeRequest _ request)).outside _ _ _
  · rw [takeSection_eq]
    exact (frame_cancelHeld session).outside _ _ _
  · exact (Frame.refl session).outside _ _ _
  · exact (Frame.refl session).outside _ _ _

theorem frame_setQueue (session : Session) (queue : RequestQueue) (agent : Agent) :
    Frame session (session.setQueue queue agent) := by
  obtain ⟨id, task, -, get, changed⟩ | ⟨id, run, -, -, changed⟩ | same :=
    setQueue_inv session queue agent
  · rw [changed]
    exact .setTask get rfl rfl fun kept => kept
  · rw [changed]
    exact (Frame.refl session).outside _ _ _
  · rw [same]
    exact .refl session

end Session

end PbrTelemetry
