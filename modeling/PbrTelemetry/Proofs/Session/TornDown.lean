import PbrTelemetry.Proofs.Session.Lock

/-!
# Streams that are over

A stream that has ended stays in the slot until a close takes it: without a writer, with its
terminal status, and with a task that is over.  `TornDown` is that state of affairs.  No step but
that of such a close changes it (`step_tornDown`), and a registration that finds it gets the
terminal status (`registerSection_of_tornDown`).
-/

namespace PbrTelemetry

namespace Session

def stepTakings (before : Session) (action : Action) (_after : Session) : List Nat :=
  match action with
  | .runSection call =>
    match before.calls[call]? with
    | some (.close .taking) => [call]
    | _ => []
  | _ => []

/-- A task is over, and is in the slot with its terminal status. -/
structure TornDown (session : Session) (id : Nat) (status : Status) : Prop where
  held : session.slot.receiveTask = some id
  writer : session.slot.writer = none
  finalStatus : session.slot.finalStatus = some status
  finished : stageAt session.tasks id = some .finished

variable {session next final : Session} {action : Action} {id call : Nat} {status : Status}

theorem registerSection_of_ended (held : session.slot.receiveTask = some id)
    (writer : session.slot.writer = none) (stored : session.slot.finalStatus = some status)
    (metadata : CallMetadata) (request : SubscribeRequest) :
    session.registerSection call metadata request =
      session.setCall call (.register metadata request (some (.error (.rpcFailure status)))) := by
  simp [registerSection, ensureStream, writeRequest, held, writer, stored]

theorem registerSection_of_tornDown (torn : TornDown session id status) (metadata : CallMetadata)
    (request : SubscribeRequest) :
    session.registerSection call metadata request =
      session.setCall call (.register metadata request (some (.error (.rpcFailure status)))) :=
  registerSection_of_ended torn.held torn.writer torn.finalStatus metadata request

/-- The status of another task does not get into the slot, for it has another number. -/
theorem storedSlot_of_tornDown (orderly : Orderly session) (torn : TornDown session id status)
    {other : Nat} {task : ReceiveTask} {last : Status} (get : session.tasks[other]? = some task)
    (ending : task.stage = .ending last) :
    storedSlot session.slot task.generation last = session.slot := by
  -- With the number of the slot it would be the last task, which is over
  have different : session.slot.generation ≠ task.generation := by
    intro same
    have number := orderly.wired.task_generation other task get
    have count := orderly.wired.generation_eq
    have latest := orderly.wired.latest id torn.held
    have here : other = id := by omega
    subst here
    have finished := torn.finished
    rw [stageAt_of_get get, ending] at finished
    cases finished
  simp [storedSlot, different]

theorem runSection_slot_of_tornDown (torn : TornDown session id status)
    (ran : session.runSection call = some next)
    (kept : stepTakings session (.runSection call) next = []) : next.slot = session.slot := by
  obtain ⟨-, ⟨metadata, request, -, rfl⟩ | ⟨taking, -⟩ | ⟨-, rfl⟩ | ⟨-, rfl⟩⟩ := runSection_inv ran
  · rw [registerSection_of_tornDown torn]
    rfl
  · simp [stepTakings, taking] at kept
  · have held : session.slot.receiveTask.isNone = false := by simp [torn.held]
    simp only [settleSection, held]
    rfl
  · rfl

/-- Only a close changes the slot of a stream that is over. -/
theorem step_tornDown (orderly : Orderly session) (torn : TornDown session id status)
    (stepped : session.step action = some next) (kept : stepTakings session action next = []) :
    TornDown next id status := by
  have slot : next.slot = session.slot := by
    cases step_effect stepped with
    | aside _ slot _ _ => exact slot
    | queue _ _ _ => rfl
    | advance _ _ _ _ _ slot _ _ => exact slot
    | store get ending _ => exact storedSlot_of_tornDown orderly torn get ending
    | finish _ _ _ => rfl
    | acquire _ _ => rfl
    | inSection _ ran => exact runSection_slot_of_tornDown torn ran kept
  exact
    { held := by rw [slot, torn.held]
      writer := by rw [slot, torn.writer]
      finalStatus := by rw [slot, torn.finalStatus]
      finished := finished_stays stepped torn.finished }

theorem run_tornDown {actions : List Action} (orderly : Orderly session)
    (torn : TornDown session id status) (ran : session.run actions = some final)
    (kept : session.trace stepTakings actions = []) : TornDown final id status := by
  have both : Orderly final ∧ TornDown final id status :=
    run_unobserved (motive := fun session => Orderly session ∧ TornDown session id status)
      (fun _ _ _ before stepped kept =>
        ⟨before.1.step stepped, step_tornDown before.1 before.2 stepped kept⟩)
      ran kept ⟨orderly, torn⟩
  exact both.2

theorem tornDown_of_finishTask (attended : Attended session)
    (held : session.slot.receiveTask = some id)
    (reporting : stageAt session.tasks id = some (.reporting status))
    (finished : session.finishTask id = some next) : TornDown next id status := by
  obtain ⟨writer, stored⟩ := attended.stored id status reporting held
  have ended := finishTask_finished finished
  obtain ⟨task, last, -, -, -, rfl⟩ := finishTask_inv finished
  exact
    { held := held
      writer := writer
      finalStatus := stored
      finished := ended }

/-- A registration after the report, and before a close takes the stream, gets the terminal
status. -/
theorem register_after_finishTask {between : List Action} {metadata : CallMetadata}
    {request : SubscribeRequest} {here : Session} (reachable : Reachable session)
    (held : session.slot.receiveTask = some id)
    (reporting : stageAt session.tasks id = some (.reporting status))
    (ran : session.run (.finishTask id :: between) = some here)
    (kept : session.trace stepTakings (.finishTask id :: between) = [])
    (pending : here.calls[call]? = some (.register metadata request none))
    (entered : here.runSection call = some next) :
    next.calls[call]? = some (.register metadata request (some (.error (.rpcFailure status)))) ∧
      next.slot = here.slot := by
  obtain ⟨after, finished, ran⟩ := run_cons_inv ran
  rw [trace_cons finished, List.append_eq_nil_iff] at kept
  have torn := tornDown_of_finishTask reachable.attended held reporting finished
  have still := run_tornDown (reachable.orderly.step finished) torn ran kept.2
  have bound := (List.getElem?_eq_some_iff.mp pending).1
  rw [runSection_of_register entered pending, registerSection_of_tornDown still]
  exact ⟨List.getElem?_set_self bound, rfl⟩

end Session

end PbrTelemetry
