import PbrTelemetry.Proofs.Session.Calls
import PbrTelemetry.Proofs.Session.Effect
import PbrTelemetry.Proofs.Session.Frame
import PbrTelemetry.Proofs.Session.Run
import PbrTelemetry.Proofs.Session.Slot

/-!
# Every session has its slot in order

`Orderly` is the invariant of all sessions: the slot is wired to the tasks, and every close that is
in progress has reason for what it does next.  The second part is there for the last section of a
close, which writes the phase long after the close let go of the lock; by then the slot may belong
to another stream, or to none.

* `Reachable.orderly`: the invariant holds in all reachable sessions.
* `slot_consistent`: what it says of the fields of the slot.
-/

namespace PbrTelemetry

namespace Session

variable {session next : Session} {action : Action}

/-! ## Tasks stay -/

/-- Tasks keep their places and their numbers, and they stay cancelled. -/
def Continues (before after : List ReceiveTask) : Prop :=
  ∀ (id : Nat) (task : ReceiveTask), before[id]? = some task →
    ∃ later : ReceiveTask, after[id]? = some later ∧ later.generation = task.generation ∧
      (task.cancelled = true → later.cancelled = true)

namespace Continues

variable {tasks : List ReceiveTask}

theorem refl (tasks : List ReceiveTask) : Continues tasks tasks :=
  fun _ task get => ⟨task, get, rfl, id⟩

theorem set {id : Nat} {task later : ReceiveTask} (get : tasks[id]? = some task)
    (generation : later.generation = task.generation)
    (cancelled : task.cancelled = true → later.cancelled = true) :
    Continues tasks (tasks.set id later) := by
  intro other old there
  by_cases same : other = id
  · subst same
    rw [get] at there
    cases there
    have bound := (List.getElem?_eq_some_iff.mp get).1
    exact ⟨later, by rw [List.getElem?_set_self bound], generation, cancelled⟩
  · exact ⟨old, by rw [List.getElem?_set_ne (Ne.symm same), there], rfl, fun kept => kept⟩

end Continues

theorem TasksKept.continues {before after : List ReceiveTask} (kept : TasksKept before after) :
    Continues before after := by
  intro id task get
  obtain ⟨later, found, same, -, keeps⟩ := kept.old id task get
  exact ⟨later, found, same, keeps⟩

theorem step_continues (stepped : session.step action = some next) :
    Continues session.tasks next.tasks := by
  cases step_effect stepped with
  | aside _ _ _ tasks =>
    rw [tasks]
    exact .refl _
  | queue queue _ get => exact .set get rfl fun kept => kept
  | advance after get _ generation cancelled _ _ tasks =>
    rw [tasks]
    exact .set get generation fun kept => cancelled.trans kept
  | store get _ _ => exact .set get rfl fun kept => kept
  | finish get _ _ => exact .set get rfl fun kept => kept
  | acquire _ _ => exact .refl _
  | inSection _ ran => exact (frame_runSection ran).tasks.continues

/-! ## Closes -/

def IsCancelledAt (tasks : List ReceiveTask) (id : Nat) : Prop :=
  ∃ task : ReceiveTask, tasks[id]? = some task ∧ task.cancelled = true

theorem IsCancelledAt.continues {before after : List ReceiveTask} {id : Nat}
    (cancelled : IsCancelledAt before id) (continues : Continues before after) :
    IsCancelledAt after id := by
  obtain ⟨task, get, dead⟩ := cancelled
  obtain ⟨later, found, -, keeps⟩ := continues id task get
  exact ⟨later, found, keeps dead⟩

/-- What a close has reason to go on with: the task that it waits for is cancelled, also after its
caller gave it up, and it changes the phase only if there was a stream. -/
def Justified (tasks : List ReceiveTask) : CloseStage → Prop
  | .taking | .returned | .abandoned none => True
  | .awaiting id | .abandoned (some id) => IsCancelledAt tasks id
  | .settling => tasks ≠ []

theorem Justified.continues {before after : List ReceiveTask} {stage : CloseStage}
    (justified : Justified before stage) (continues : Continues before after) :
    Justified after stage := by
  cases stage with
  | taking | returned => trivial
  | awaiting id => exact IsCancelledAt.continues justified continues
  | abandoned left =>
    cases left with
    | none => trivial
    | some id => exact IsCancelledAt.continues justified continues
  | settling =>
    cases before with
    | nil => exact absurd rfl justified
    | cons task rest =>
      obtain ⟨later, found, -, -⟩ := continues 0 task rfl
      rintro rfl
      cases found

theorem Justified.givenUp {tasks : List ReceiveTask} {stage : CloseStage}
    (justified : Justified tasks stage) : Justified tasks (.abandoned stage.taken?) := by
  cases stage with
  | awaiting id | abandoned left => exact justified
  | taking | settling | returned => trivial

theorem Justified.settling {tasks : List ReceiveTask} {id : Nat}
    (justified : Justified tasks (.awaiting id)) : Justified tasks .settling := by
  obtain ⟨task, get, -⟩ := justified
  rintro rfl
  cases get

inductive ClosingStep (session : Session) (action : Action) (call : Nat) : CloseStage → Prop where
  -- It was there before
  | same {stage : CloseStage} (get : session.calls[call]? = some (.close stage)) :
      ClosingStep session action call stage
  -- The close has started
  | start : ClosingStep session action call .taking
  -- The close has taken a task
  | take {id : Nat} (ran : action = .runSection call)
      (taking : session.calls[call]? = some (.close .taking))
      (held : session.slot.receiveTask = some id) :
      ClosingStep session action call (.awaiting id)
  -- The task of the close is over
  | resume {id : Nat} (waiting : session.calls[call]? = some (.close (.awaiting id)))
      (ended : (session.tasks[id]?).map ReceiveTask.stage = some .finished) :
      ClosingStep session action call .settling
  -- The caller of the close has given it up
  | abandon {stage : CloseStage} (before : session.calls[call]? = some (.close stage)) :
      ClosingStep session action call (.abandoned stage.taken?)
  -- The close has returned
  | finish : ClosingStep session action call .returned

theorem step_closing {call : Nat} {stage : CloseStage} (stepped : session.step action = some next)
    (get : next.calls[call]? = some (.close stage)) : ClosingStep session action call stage := by
  cases step_calls stepped with
  | kept calls =>
    rw [calls] at get
    exact .same get
  | @start demand _ calls =>
    rw [calls] at get
    obtain there | ⟨-, new⟩ := getElem?_snoc_inv get
    · exact .same there
    · cases demand with
      | close =>
        cases new
        exact .start
      | state => cases new
      | registerOnce metadata args | registerStream metadata args =>
        simp only [newCall] at new
        split at new <;> cases new
  | enter ran taking went calls =>
    rw [calls] at get
    obtain ⟨rfl, same⟩ | ⟨-, there⟩ := getElem?_set_inv get
    · cases went with
      | take =>
        cases same
        cases held : session.slot.receiveTask with
        | none => exact .finish
        | some id => exact .take ran taking held
      | settle =>
        cases same
        exact .finish
      | register _ _ | inspect => cases same
    · exact .same there
  | resume _ waiting ended calls =>
    rw [calls] at get
    obtain ⟨rfl, same⟩ | ⟨-, there⟩ := getElem?_set_inv get
    · cases same
      exact .resume waiting ended
    · exact .same there
  | @abandon _ before _ there _ calls =>
    rw [calls] at get
    obtain ⟨rfl, same⟩ | ⟨-, there⟩ := getElem?_set_inv get
    · cases before with
      | close stage =>
        cases same
        exact .abandon there
      | refused _ | register _ _ _ | once _ | inspect _ | withdrawn => cases same
    · exact .same there
  | once _ calls =>
    rw [calls] at get
    obtain ⟨-, same⟩ | ⟨-, there⟩ := getElem?_set_inv get
    · cases same
    · exact .same there

/-! ## The slot in all sessions -/

theorem wired_ensureStream (wired : session.slot.Wired session.tasks) (metadata : CallMetadata) :
    (session.ensureStream metadata).slot.Wired (session.ensureStream metadata).tasks := by
  obtain ⟨empty, started⟩ | ⟨-, same⟩ := ensureStream_inv session metadata
  · rw [started]
    exact wired.start empty rfl
  · rw [same]
    exact wired

theorem wired_registerSection (wired : session.slot.Wired session.tasks) (id : Nat)
    (metadata : CallMetadata) (request : SubscribeRequest) :
    (session.registerSection id metadata request).slot.Wired
      (session.registerSection id metadata request).tasks := by
  rw [registerSection_eq]
  have ensured := wired_ensureStream wired metadata
  obtain same | ⟨id, task, queue, get, changed⟩ :=
    writeRequest_changes (session.ensureStream metadata) request
  · rw [same]
    exact ensured
  · rw [changed]
    exact ensured.set get rfl rfl

/-- Once the task in the slot is cancelled, all tasks are. -/
theorem cancelled_cancelHeld (wired : session.slot.Wired session.tasks) {id : Nat}
    {task : ReceiveTask} (get : session.cancelHeld.tasks[id]? = some task) :
    task.cancelled = true := by
  cases held : session.slot.receiveTask with
  | none =>
    rw [cancelHeld_of_none (wired.cancel_eq.trans held)] at get
    by_contra kept
    have live := wired.uncancelled id task get (by simpa using kept)
    rw [held] at live
    cases live
  | some current =>
    obtain ⟨old, there, -⟩ := wired.held_generation held
    rw [cancelHeld_of_some (wired.cancel_eq.trans held) there] at get
    obtain ⟨-, rfl⟩ | ⟨other, before⟩ := getElem?_set_inv get
    · rfl
    · -- The other tasks were cancelled before, for only the one in the slot can be alive
      by_contra kept
      have live := wired.uncancelled id task before (by simpa using kept)
      rw [held] at live
      cases live
      exact other rfl

theorem cancelHeld_length (session : Session) :
    session.cancelHeld.tasks.length = session.tasks.length := by
  obtain same | ⟨id, task, -, changed⟩ := cancelHeld_changes session
  · rw [same]
  · rw [changed]
    exact List.length_set

theorem wired_takeSection (wired : session.slot.Wired session.tasks) (id : Nat) :
    (session.takeSection id).slot.Wired (session.takeSection id).tasks := by
  rw [takeSection_eq]
  refine wired.take (cancelHeld_length session) ?_ fun _ _ => cancelled_cancelHeld wired
  intro other task get
  have bound := (List.getElem?_eq_some_iff.mp get).1
  rw [cancelHeld_length] at bound
  have there := List.getElem?_eq_getElem bound
  obtain ⟨later, found, same, -⟩ := (frame_cancelHeld session).tasks.old other _ there
  cases get.symm.trans found
  rw [same, wired.task_generation other _ there]

/-- What every session keeps of its slot, its tasks and its closes. -/
structure Orderly (session : Session) : Prop where
  wired : session.slot.Wired session.tasks
  justified : ∀ (call : Nat) (stage : CloseStage),
    session.calls[call]? = some (.close stage) → Justified session.tasks stage

theorem Orderly.runSection (orderly : Orderly session) {call : Nat}
    (ran : session.runSection call = some next) : next.slot.Wired next.tasks := by
  obtain ⟨-, ⟨metadata, request, -, rfl⟩ | ⟨-, rfl⟩ | ⟨settling, rfl⟩ | ⟨-, rfl⟩⟩ :=
    runSection_inv ran
  · exact wired_registerSection orderly.wired call metadata request
  · exact wired_takeSection orderly.wired call
  · exact orderly.wired.settle (orderly.justified call _ settling)
  · exact orderly.wired

/-- A close that takes a task has cancelled it. -/
theorem Orderly.taken (orderly : Orderly session) {call id : Nat}
    (ran : session.runSection call = some next)
    (taking : session.calls[call]? = some (.close .taking))
    (held : session.slot.receiveTask = some id) : Justified next.tasks (.awaiting id) := by
  -- The task is still in its place when all tasks are cancelled
  obtain ⟨task, there, -⟩ := orderly.wired.held_generation held
  obtain ⟨later, found, -⟩ := (frame_cancelHeld session).tasks.old id task there
  rw [runSection_of_taking ran taking, takeSection_eq]
  exact ⟨later, found, cancelled_cancelHeld orderly.wired found⟩

theorem Orderly.step (orderly : Orderly session) (stepped : session.step action = some next) :
    Orderly next where
  wired := by
    cases step_effect stepped with
    | aside _ slot _ tasks =>
      rw [slot, tasks]
      exact orderly.wired
    | queue queue _ get => exact orderly.wired.set get rfl rfl
    | advance after get _ generation cancelled slot _ tasks =>
      rw [slot, tasks]
      exact orderly.wired.set get generation cancelled
    | @store id task status get _ _ =>
      have stored := orderly.wired.store task.generation status
      exact stored.set get rfl rfl
    | finish get _ _ => exact orderly.wired.set get rfl rfl
    | acquire _ _ => exact orderly.wired
    | inSection _ ran => exact orderly.runSection ran
  justified call stage get := by
    have continues := step_continues stepped
    cases step_closing stepped get with
    | same before => exact (orderly.justified call stage before).continues continues
    | start => trivial
    | take ran taking held =>
      subst ran
      exact orderly.taken stepped taking held
    | resume waiting _ => exact (orderly.justified call _ waiting).settling.continues continues
    | abandon before => exact (orderly.justified call _ before).givenUp.continues continues
    | finish => trivial

theorem Reachable.orderly (reachable : Reachable session) : Orderly session := by
  induction reachable with
  | fresh counter onSuccess onFailure =>
    exact { wired := .fresh, justified := fun _ _ get => by cases get }
  | step action _ stepped ih => exact ih.step stepped

/-- In every session that any calls, tasks and targets lead to, in whatever order they act, the
fields of the slot agree. -/
theorem slot_consistent (reachable : Reachable session) :
    session.slot.Consistent session.tasks :=
  reachable.orderly.wired.consistent

def admin : CallMetadata := { username := "admin", password := "secret" }

def refusedStream : List Action :=
  [.start (.registerStream admin {}), .acquire (.call 0), .runSection 0, .placeTask 0,
    .openTask 0 (.error ⟨.unavailable, "no target"⟩), .acquire (.task 0), .storeStatus 0,
    .finishTask 0]

theorem slot_consistent_refusedStream :
    ∃ session, (fresh {} none none).run refusedStream = some session ∧
      session.slot.receiveTask = some 0 ∧ session.slot.writer = none ∧
      session.slot.Consistent session.tasks := by
  have happens : ∃ session, (fresh {} none none).run refusedStream = some session ∧
      session.slot.receiveTask = some 0 ∧ session.slot.writer = none := ⟨_, rfl, rfl, rfl⟩
  obtain ⟨session, ran, held, closed⟩ := happens
  exact ⟨session, ran, held, closed, slot_consistent ((Reachable.fresh {} none none).run ran)⟩

end Session

end PbrTelemetry
