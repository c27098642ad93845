import PbrTelemetry.Proofs.Session.Orderly

/-!
# Sessions one after the other

A session that goes on after everything in it has come to an end behaves like one that starts afresh
and knows nothing of what was before.  `Session.after` puts the two together: the tasks, calls and
remote calls of the new session come after those of the old one (`past`), its streams are counted on
from the old ones, and where it would say that it is idle it says that it is closed.  Both read the
same clock.

Everything here is about one operation at a time: to put two sessions together and then to act comes
to the same as to act first (`step_after`).  No operation tells a task or a call from another by
anything but its place and its number, and these are shifted alike for all.  The one field that is
not shifted is the terminal status, which the old session leaves behind; it is of no account, since
a stream that starts clears it before a registration can read it.
-/

namespace PbrTelemetry

/-! ## The parts of a later session -/

/-- The phase that stands for a phase of a fresh session in one that was closed before. -/
def Phase.reopened : Phase → Phase
  | .idle => .closed
  | phase => phase

def Agent.after (past : Session) : Agent → Agent
  | .task id => .task (past.tasks.length + id)
  | .call id => .call (past.calls.length + id)

def ReceiveTask.after (past : Session) (task : ReceiveTask) : ReceiveTask :=
  { task with generation := past.slot.generation + task.generation }

def CloseStage.after (past : Session) : CloseStage → CloseStage
  | .awaiting task => .awaiting (past.tasks.length + task)
  | .abandoned task => .abandoned (task.map (past.tasks.length + ·))
  | stage => stage

def ClientCall.after (past : Session) : ClientCall → ClientCall
  | .refused fault => .refused fault
  | .register metadata request outcome => .register metadata request outcome
  | .once run => .once run
  | .close stage => .close (stage.after past)
  | .inspect phase => .inspect (phase.map Phase.reopened)
  | .withdrawn => .withdrawn

def RemoteCall.after (past : Session) (remote : RemoteCall) : RemoteCall :=
  { remote with caller := remote.caller.after past }

/-- A slot among the old tasks.  Until a stream has started, the old status is still in it. -/
def Slot.after (past : Session) (slot : Slot) : Slot where
  writer := slot.writer.map (past.tasks.length + ·)
  cancel := slot.cancel.map (past.tasks.length + ·)
  receiveTask := slot.receiveTask.map (past.tasks.length + ·)
  finalStatus := if slot.generation = 0 then past.slot.finalStatus else slot.finalStatus
  phase := slot.phase.reopened
  generation := past.slot.generation + slot.generation

/-- A session as it is when it comes after an old one. -/
def Session.after (session past : Session) : Session where
  counter := session.counter
  onSuccess := session.onSuccess
  onFailure := session.onFailure
  slot := session.slot.after past
  lock := session.lock.map (Agent.after past)
  tasks := past.tasks ++ session.tasks.map (ReceiveTask.after past)
  calls := past.calls ++ session.calls.map (ClientCall.after past)
  remote := past.remote ++ session.remote.map (RemoteCall.after past)
  handled := past.handled ++ session.handled
  dropped := session.dropped
  now := session.now

def Session.Action.after (past : Session) : Session.Action → Session.Action
  | .addKeys keys => .addKeys keys
  | .setSuccessHandler handler => .setSuccessHandler handler
  | .setFailureHandler handler => .setFailureHandler handler
  | .start demand => .start demand
  | .dropClient => .dropClient
  | .acquire agent => .acquire (agent.after past)
  | .runSection call => .runSection (past.calls.length + call)
  | .resume call => .resume (past.calls.length + call)
  | .abandon call => .abandon (past.calls.length + call)
  | .placeTask task => .placeTask (past.tasks.length + task)
  | .openTask task result => .openTask (past.tasks.length + task) result
  | .giveUpTask task => .giveUpTask (past.tasks.length + task)
  | .readTask task arrival => .readTask (past.tasks.length + task) arrival
  | .storeStatus task => .storeStatus (past.tasks.length + task)
  | .finishTask task => .finishTask (past.tasks.length + task)
  | .placeOnce call => .placeOnce (past.calls.length + call)
  | .openOnce call result => .openOnce (past.calls.length + call) result
  | .readOnce call arrival => .readOnce (past.calls.length + call) arrival
  | .receive remote => .receive (past.remote.length + remote)
  | .closeReceiver remote => .closeReceiver (past.remote.length + remote)
  | .pass time => .pass time

/-! ## Places after a list -/

section

variable {α : Type} {first second : List α} {entry : α} {place : Nat}

theorem getElem?_append_shift : (first ++ second)[first.length + place]? = second[place]? := by
  rw [List.getElem?_append_right (Nat.le_add_right _ _), Nat.add_sub_cancel_left]

theorem set_append_shift :
    (first ++ second).set (first.length + place) entry = first ++ second.set place entry := by
  rw [List.set_append_right _ _ (Nat.le_add_right _ _), Nat.add_sub_cancel_left]

end

section

variable {past : Session}

theorem Agent.after_injective {agent other : Agent} (same : agent.after past = other.after past) :
    agent = other := by
  cases agent <;> cases other <;> simp_all [Agent.after]

theorem ClientCall.inProgress_after (call : ClientCall) :
    (call.after past).inProgress = call.inProgress := by
  cases call with
  | refused _ | register _ _ _ | once _ | withdrawn => rfl
  | close stage => cases stage <;> rfl
  | inspect phase => cases phase <;> rfl

theorem ClientCall.outcome?_after (call : ClientCall) :
    (call.after past).outcome? = call.outcome? := by
  cases call with
  | refused _ | register _ _ _ | once _ | inspect _ | withdrawn => rfl
  | close stage => cases stage <;> rfl

theorem ClientCall.givenUp_after (call : ClientCall) :
    (call.after past).givenUp = call.givenUp.after past := by
  cases call with
  | refused _ | register _ _ _ | once _ | inspect _ | withdrawn => rfl
  | close stage => cases stage <;> rfl

end

namespace Session

variable {session past : Session} {id : Nat}

/-! ## Reading and changing a later session -/

theorem task_after :
    (session.after past).tasks[past.tasks.length + id]?
      = session.tasks[id]?.map (ReceiveTask.after past) := by
  simp only [after, getElem?_append_shift, List.getElem?_map]

theorem call_after :
    (session.after past).calls[past.calls.length + id]?
      = session.calls[id]?.map (ClientCall.after past) := by
  simp only [after, getElem?_append_shift, List.getElem?_map]

theorem setTask_after (session past : Session) (id : Nat) (task : ReceiveTask) :
    (session.after past).setTask (past.tasks.length + id) (task.after past)
      = (session.setTask id task).after past := by
  simp only [setTask, after, set_append_shift, List.map_set]

theorem setCall_after (session past : Session) (id : Nat) (call : ClientCall) :
    (session.after past).setCall (past.calls.length + id) (call.after past)
      = (session.setCall id call).after past := by
  simp only [setCall, after, set_append_shift, List.map_set]

theorem deadlineOf?_after : (session.after past).deadlineOf? = session.deadlineOf? := rfl

theorem isPossible_after : (session.after past).isPossible = session.isPossible := rfl

theorem placeCall_after (session past : Session) (caller : Agent) (metadata : CallMetadata) :
    (session.after past).placeCall (caller.after past) metadata
      = (session.placeCall caller metadata).after past := by
  simp only [placeCall, after, List.map_append, List.append_assoc]
  rfl

theorem needsLock_after (agent : Agent) :
    (session.after past).needsLock (agent.after past) = session.needsLock agent := by
  cases agent with
  | task id =>
    simp only [needsLock, Agent.after, task_after, Option.map_map]
    rfl
  | call id =>
    simp only [needsLock, Agent.after, call_after]
    cases session.calls[id]? with
    | none => rfl
    | some call =>
      cases call with
      | refused _ | once _ | withdrawn => rfl
      | register _ _ outcome => cases outcome <;> rfl
      | close stage => cases stage <;> rfl
      | inspect phase => cases phase <;> rfl

theorem lock_after (agent : Agent) :
    (session.after past).lock = some (agent.after past) ↔ session.lock = some agent := by
  simp only [after, Option.map_eq_some_iff]
  constructor
  · rintro ⟨holder, held, same⟩
    rw [held, Agent.after_injective same]
  · exact fun held => ⟨agent, held, rfl⟩

/-! ## The client -/

theorem newCall_after (demand : Demand) :
    (session.after past).newCall demand = (session.newCall demand).after past := by
  have prepared : (session.after past).prepare = session.prepare := rfl
  cases demand with
  | registerOnce metadata args | registerStream metadata args =>
    simp only [newCall, prepared]
    split <;> rfl
  | close | state => rfl

theorem start_after (demand : Demand) :
    (session.after past).start demand = (session.start demand).map (·.after past) := by
  have dropped : (session.after past).dropped = session.dropped := rfl
  simp only [start, dropped, newCall_after]
  split
  · rfl
  · simp only [Option.map_some, after, List.map_append, List.append_assoc]
    rfl

theorem dropClient_after (quiet : ∀ call ∈ past.calls, call.inProgress = false) :
    (session.after past).dropClient = session.dropClient.map (·.after past) := by
  have dropped : (session.after past).dropped = session.dropped := rfl
  have busy : (session.after past).calls.any ClientCall.inProgress
      = session.calls.any ClientCall.inProgress := by
    have none : past.calls.any ClientCall.inProgress = false := by
      simpa only [List.any_eq_false, Bool.not_eq_true] using quiet
    simp only [after, List.any_append, none, Bool.false_or, List.any_map, Function.comp_def,
      ClientCall.inProgress_after]
  simp only [dropClient, dropped, busy]
  split <;> rfl

theorem acquire_after (agent : Agent) :
    (session.after past).acquire (agent.after past)
      = (session.acquire agent).map (·.after past) := by
  have free : (session.after past).lock = none ↔ session.lock = none := by simp [after]
  simp only [acquire, free, needsLock_after]
  split <;> rfl

theorem resume_after :
    (session.after past).resume (past.calls.length + id)
      = (session.resume id).map (·.after past) := by
  simp only [resume, call_after]
  cases session.calls[id]? with
  | none => rfl
  | some call =>
    cases call with
    | refused _ | register _ _ _ | once _ | inspect _ | withdrawn => rfl
    | close stage =>
      cases stage with
      | taking | settling | returned | abandoned _ => rfl
      | awaiting task =>
        have ended : (session.after past).tasks[past.tasks.length + task]?.map ReceiveTask.stage
            = session.tasks[task]?.map ReceiveTask.stage := by
          rw [task_after, Option.map_map]
          rfl
        simp only [Option.map_some, ClientCall.after, CloseStage.after, ended]
        split
        · exact congrArg some (setCall_after session past _ (.close .settling))
        · rfl

theorem abandon_after :
    (session.after past).abandon (past.calls.length + id)
      = (session.abandon id).map (·.after past) := by
  have locked : (session.after past).lock = some (.call (past.calls.length + id)) ↔
      session.lock = some (.call id) := lock_after (.call id)
  simp only [abandon, call_after, ne_eq, locked]
  cases session.calls[id]? with
  | none => rfl
  | some call =>
    simp only [Option.map_some, ClientCall.inProgress_after, ClientCall.givenUp_after]
    split
    · exact congrArg some (setCall_after session past id call.givenUp)
    · rfl

/-! ## Sections -/

theorem ensureStream_after (metadata : CallMetadata) :
    (session.after past).ensureStream metadata = (session.ensureStream metadata).after past := by
  have held : (session.after past).slot.receiveTask.isNone = session.slot.receiveTask.isNone := by
    simp only [after, Slot.after, Option.isNone_map]
  simp only [ensureStream, held]
  split
  · simp [startStream, after, Slot.after, ReceiveTask.after, Phase.reopened, Nat.add_assoc]
  · rfl

/-- Once a stream has started, the old status is out of the slot. -/
theorem writeRequest_after (started : session.slot.generation ≠ 0) (request : SubscribeRequest) :
    (session.after past).writeRequest request
      = ((session.writeRequest request).1.after past, (session.writeRequest request).2) := by
  have status : (session.after past).slot.finalStatus = session.slot.finalStatus := if_neg started
  have writer : (session.after past).slot.writer
      = session.slot.writer.map (past.tasks.length + ·) := rfl
  simp only [writeRequest, status, writer]
  cases session.slot.writer with
  | none => rfl
  | some id =>
    simp only [Option.map_some, task_after]
    cases session.tasks[id]? with
    | none => rfl
    | some task =>
      have queue : (task.after past).queue = task.queue := rfl
      simp only [Option.map_some, queue]
      cases task.queue.push? request with
      | none => rfl
      | some pushed =>
        exact congrArg (·, _) (setTask_after session past id { task with queue := pushed })

theorem registerSection_after (wired : session.slot.Wired session.tasks) (metadata : CallMetadata)
    (request : SubscribeRequest) :
    (session.after past).registerSection (past.calls.length + id) metadata request
      = (session.registerSection id metadata request).after past := by
  have started : (session.ensureStream metadata).slot.generation ≠ 0 := by
    obtain ⟨-, new⟩ | ⟨held, same⟩ := ensureStream_inv session metadata
    · rw [new]
      exact Nat.succ_ne_zero _
    · obtain ⟨task, held⟩ := Option.isSome_iff_exists.mp held
      have latest := wired.latest task held
      rw [same, wired.generation_eq]
      omega
  simp only [registerSection, ensureStream_after, writeRequest_after started]
  exact setCall_after _ past id (.register metadata request _)

theorem cancelTask_after :
    (session.after past).cancelTask (past.tasks.length + id)
      = (session.cancelTask id).after past := by
  simp only [cancelTask, task_after]
  cases session.tasks[id]? with
  | none => rfl
  | some task => exact setTask_after session past id { task with cancelled := true }

theorem cancelHeld_after : (session.after past).cancelHeld = session.cancelHeld.after past := by
  have cancel : (session.after past).slot.cancel
      = session.slot.cancel.map (past.tasks.length + ·) := rfl
  simp only [cancelHeld, cancel]
  cases session.slot.cancel with
  | none => rfl
  | some id => exact cancelTask_after

theorem takeSection_after :
    (session.after past).takeSection (past.calls.length + id)
      = (session.takeSection id).after past := by
  have stage : ClientCall.close (takenStage (session.after past).slot.receiveTask)
      = (ClientCall.close (takenStage session.slot.receiveTask)).after past := by
    have held : (session.after past).slot.receiveTask
        = session.slot.receiveTask.map (past.tasks.length + ·) := rfl
    rw [held]
    cases session.slot.receiveTask <;> rfl
  simp only [takeSection_eq, cancelHeld_after, stage]
  simp only [after, set_append_shift, List.map_set]
  rfl

theorem settleSection_after :
    (session.after past).settleSection (past.calls.length + id)
      = (session.settleSection id).after past := by
  have settled :
      (if (session.after past).slot.receiveTask.isNone then Phase.closed
        else (session.after past).slot.phase)
      = (if session.slot.receiveTask.isNone then Phase.closed
        else session.slot.phase).reopened := by
    simp only [after, Slot.after, Option.isNone_map]
    split <;> rfl
  simp only [settleSection, settled]
  exact setCall_after
    { session with slot := { session.slot with
        phase := if session.slot.receiveTask.isNone then .closed else session.slot.phase } }
    past id (.close .returned)

theorem inspectSection_after :
    (session.after past).setCall (past.calls.length + id)
        (.inspect (some (session.after past).slot.phase))
      = (session.setCall id (.inspect (some session.slot.phase))).after past :=
  setCall_after session past _ (.inspect (some session.slot.phase))

theorem runSection_after (wired : session.slot.Wired session.tasks) :
    (session.after past).runSection (past.calls.length + id)
      = (session.runSection id).map (·.after past) := by
  have locked : (session.after past).lock = some (.call (past.calls.length + id)) ↔
      session.lock = some (.call id) := lock_after (.call id)
  simp only [runSection, locked, call_after]
  split
  · cases session.calls[id]? with
    | none => rfl
    | some call =>
      cases call with
      | refused _ | once _ | withdrawn => rfl
      | register metadata request outcome =>
        cases outcome with
        | none => exact congrArg (some ·.release) (registerSection_after wired metadata request)
        | some _ => rfl
      | close stage =>
        cases stage with
        | taking => exact congrArg (some ·.release) takeSection_after
        | settling => exact congrArg (some ·.release) settleSection_after
        | awaiting _ | returned | abandoned _ => rfl
      | inspect phase =>
        cases phase with
        | none => exact congrArg (some ·.release) inspectSection_after
        | some _ => rfl
  · rfl

/-! ## Receive tasks -/

theorem placeTask_after :
    (session.after past).placeTask (past.tasks.length + id)
      = (session.placeTask id).map (·.after past) := by
  simp only [placeTask, task_after]
  cases session.tasks[id]? with
  | none => rfl
  | some task =>
    have stage : (task.after past).stage = task.stage := rfl
    have metadata : (task.after past).metadata = task.metadata := rfl
    simp only [Option.map_some, stage, metadata, deadlineOf?_after]
    split
    · cases session.deadlineOf? task.metadata with
      | some deadline =>
        have moved := setTask_after session past id { task with stage := .opening, deadline }
        have placed := placeCall_after
          (session.setTask id { task with stage := .opening, deadline }) past (.task id)
          task.metadata
        rw [← moved] at placed
        exact congrArg some placed
      | none =>
        exact congrArg some (setTask_after session past id
          { task with stage := .finished, queue := task.queue.closeReceiver })
    · rfl

theorem openTask_after (result : Except Status Unit) :
    (session.after past).openTask (past.tasks.length + id) result
      = (session.openTask id result).map (·.after past) := by
  simp only [openTask, task_after]
  cases session.tasks[id]? with
  | none => rfl
  | some task =>
    have stage : (task.after past).stage = task.stage := rfl
    simp only [Option.map_some, stage]
    split
    · cases result with
      | ok _ => exact congrArg some (setTask_after session past id { task with stage := .reading })
      | error status =>
        exact congrArg some (setTask_after session past id { task with stage := .ending status })
    · rfl

theorem giveUpTask_after :
    (session.after past).giveUpTask (past.tasks.length + id)
      = (session.giveUpTask id).map (·.after past) := by
  simp only [giveUpTask, task_after]
  cases session.tasks[id]? with
  | none => rfl
  | some task =>
    have may : (session.after past).mayGiveUp (task.after past) = session.mayGiveUp task := rfl
    have cancelled : (session.after past).isCancelled (task.after past)
        = session.isCancelled task := rfl
    simp only [Option.map_some, may, cancelled]
    split
    · exact congrArg some
        (setTask_after session past id { task with stage := .ending .cancelledByClient })
    · rfl

theorem deliver_after (response : SubscribeResponse) :
    (session.after past).deliver response
      = ((session.deliver response).1.after past, (session.deliver response).2) := by
  have counter : (session.after past).counter = session.counter := rfl
  simp only [deliver, counter]
  cases session.counter.checkResponse response with
  | error _ => rfl
  | ok stat =>
    have installed : (session.after past).onSuccess = session.onSuccess := rfl
    simp only [reportRecord, installed]
    cases session.onSuccess with
    | none => rfl
    | some handler => simp only [after, List.append_assoc]

theorem readTask_after (arrival : Arrival) :
    (session.after past).readTask (past.tasks.length + id) arrival
      = (session.readTask id arrival).map (·.after past) := by
  simp only [readTask, task_after]
  cases session.tasks[id]? with
  | none => rfl
  | some task =>
    have stage : (task.after past).stage = task.stage := rfl
    have cancelled : (session.after past).isCancelled (task.after past)
        = session.isCancelled task := rfl
    have deadline : (task.after past).deadline = task.deadline := rfl
    simp only [Option.map_some, stage, cancelled, deadline, isPossible_after]
    split
    · cases arrival.result with
      | error status =>
        exact congrArg some (setTask_after session past id { task with stage := .ending status })
      | ok response =>
        simp only [deliver_after]
        split
        · rfl
        · exact congrArg some (setTask_after _ past id { task with stage := .finished })
    · rfl

/-- A task that ends belongs to a stream, so the status that it leaves is not the old one. -/
theorem storedSlot_after (past : Session) (slot : Slot) {generation : Nat}
    (positive : generation ≠ 0) (status : Status) :
    storedSlot (slot.after past) (past.slot.generation + generation) status
      = (storedSlot slot generation status).after past := by
  have same : (slot.after past).generation = past.slot.generation + generation ↔
      slot.generation = generation := Nat.add_left_cancel_iff
  simp only [storedSlot, same]
  split
  · next current =>
    have started : slot.generation ≠ 0 := current ▸ positive
    simp only [Slot.after, if_neg started, Option.map_none]
  · rfl

theorem storeStatus_after (wired : session.slot.Wired session.tasks) :
    (session.after past).storeStatus (past.tasks.length + id)
      = (session.storeStatus id).map (·.after past) := by
  have locked : (session.after past).lock = some (.task (past.tasks.length + id)) ↔
      session.lock = some (.task id) := lock_after (.task id)
  simp only [storeStatus, locked, task_after]
  cases get : session.tasks[id]? with
  | none => rfl
  | some task =>
    have stage : (task.after past).stage = task.stage := rfl
    have positive : task.generation ≠ 0 := by
      rw [wired.task_generation id task get]
      exact Nat.succ_ne_zero id
    simp only [Option.map_some, stage]
    cases task.stage with
    | spawned | opening | reading | reporting _ | finished => rfl
    | ending status =>
      simp only
      split
      · have moved := setTask_after session past id
          { task with stage := .reporting status }
        have stored := storedSlot_after past session.slot positive status
        refine congrArg some ?_
        show { (session.after past).setTask (past.tasks.length + id)
            (ReceiveTask.after past { task with stage := .reporting status }) with
              slot := storedSlot (session.slot.after past)
                (past.slot.generation + task.generation) status }
          = { (session.setTask id { task with stage := .reporting status }).after past with
              slot := (storedSlot session.slot task.generation status).after past }
        rw [moved, stored]
      · rfl

theorem finishTask_after :
    (session.after past).finishTask (past.tasks.length + id)
      = (session.finishTask id).map (·.after past) := by
  have locked : (session.after past).lock = some (.task (past.tasks.length + id)) ↔
      session.lock = some (.task id) := lock_after (.task id)
  simp only [finishTask, locked, task_after]
  cases session.tasks[id]? with
  | none => rfl
  | some task =>
    have stage : (task.after past).stage = task.stage := rfl
    simp only [Option.map_some, stage]
    cases task.stage with
    | spawned | opening | reading | ending _ | finished => rfl
    | reporting status =>
      simp only
      split
      · have told : (session.after past).reportStatus status
            = (session.reportStatus status).after past := by
          have reported : (session.after past).reported status = session.reported status := rfl
          simp only [reportStatus_eq, reported]
          simp only [after, List.append_assoc]
        rw [told]
        exact congrArg (some ·.release) (setTask_after _ past id { task with stage := .finished })
      · rfl

/-! ## Single subscriptions -/

theorem placeOnce_after :
    (session.after past).placeOnce (past.calls.length + id)
      = (session.placeOnce id).map (·.after past) := by
  simp only [placeOnce, call_after]
  cases session.calls[id]? with
  | none => rfl
  | some call =>
    cases call with
    | refused _ | register _ _ _ | close _ | inspect _ | withdrawn => rfl
    | once run =>
      simp only [Option.map_some, ClientCall.after, deadlineOf?_after]
      split
      · cases session.deadlineOf? run.metadata with
        | some deadline =>
          have moved := setCall_after session past id (.once
            { run with stage := .opening, deadline })
          have placed := placeCall_after (session.setCall id (.once
            { run with stage := .opening, deadline })) past (.call id) run.metadata
          rw [← moved] at placed
          exact congrArg some placed
        | none =>
          exact congrArg some (setCall_after session past id (.once { run with stage := .broken }))
      · rfl

theorem openOnce_after (result : Except Status Unit) :
    (session.after past).openOnce (past.calls.length + id) result
      = (session.openOnce id result).map (·.after past) := by
  simp only [openOnce, call_after]
  cases session.calls[id]? with
  | none => rfl
  | some call =>
    cases call with
    | refused _ | register _ _ _ | close _ | inspect _ | withdrawn => rfl
    | once run =>
      simp only [Option.map_some, ClientCall.after]
      split
      · cases result with
        | ok _ =>
          exact congrArg some (setCall_after session past id (.once { run with stage := .reading }))
        | error status =>
          exact congrArg some
            (setCall_after session past id (.once { run with stage := .ended status }))
      · rfl

theorem readOnce_after (arrival : Arrival) :
    (session.after past).readOnce (past.calls.length + id) arrival
      = (session.readOnce id arrival).map (·.after past) := by
  simp only [readOnce, call_after]
  cases session.calls[id]? with
  | none => rfl
  | some call =>
    cases call with
    | refused _ | register _ _ _ | close _ | inspect _ | withdrawn => rfl
    | once run =>
      have dropped : (session.after past).dropped = session.dropped := rfl
      simp only [Option.map_some, ClientCall.after, dropped, isPossible_after]
      split
      · cases arrival.result with
        | ok response => rfl
        | error status =>
          exact congrArg some
            (setCall_after session past id (.once { run with stage := .ended status }))
      · rfl

/-! ## The target -/

theorem queueOf?_after (agent : Agent) :
    (session.after past).queueOf? (agent.after past) = session.queueOf? agent := by
  cases agent with
  | task id =>
    simp only [queueOf?, Agent.after, task_after, Option.map_map]
    rfl
  | call id =>
    simp only [queueOf?, Agent.after, call_after]
    cases session.calls[id]? with
    | none => rfl
    | some call => cases call <;> rfl

theorem setQueue_after (queue : RequestQueue) (agent : Agent) :
    (session.after past).setQueue queue (agent.after past)
      = (session.setQueue queue agent).after past := by
  cases agent with
  | task id =>
    simp only [setQueue, Agent.after, task_after]
    cases session.tasks[id]? with
    | none => rfl
    | some task => exact setTask_after session past id { task with queue }
  | call id =>
    simp only [setQueue, Agent.after, call_after]
    cases session.calls[id]? with
    | none => rfl
    | some call =>
      cases call with
      | refused _ | register _ _ _ | close _ | inspect _ | withdrawn => rfl
      | once run => exact setCall_after session past _ (.once { run with queue })

theorem remote_after (call : Nat) :
    (session.after past).remote[past.remote.length + call]?
      = session.remote[call]?.map (RemoteCall.after past) := by
  simp only [after, getElem?_append_shift, List.getElem?_map]

theorem receive_after (call : Nat) :
    (session.after past).receive (past.remote.length + call)
      = (session.receive call).map (·.after past) := by
  simp only [receive, remote_after]
  cases session.remote[call]? with
  | none => rfl
  | some remote =>
    have caller : (remote.after past).caller = remote.caller.after past := rfl
    simp only [Option.map_some, Option.bind_eq_bind, Option.bind_some, caller, queueOf?_after]
    cases session.queueOf? remote.caller with
    | none => rfl
    | some queue =>
      simp only [Option.bind_some]
      cases queue.receive? with
      | none => rfl
      | some rest => exact congrArg some (setQueue_after rest remote.caller)

theorem closeReceiver_after (call : Nat) :
    (session.after past).closeReceiver (past.remote.length + call)
      = (session.closeReceiver call).map (·.after past) := by
  simp only [closeReceiver, remote_after]
  cases session.remote[call]? with
  | none => rfl
  | some remote =>
    have caller : (remote.after past).caller = remote.caller.after past := rfl
    simp only [Option.map_some, Option.bind_eq_bind, Option.bind_some, caller, queueOf?_after]
    cases session.queueOf? remote.caller with
    | none => rfl
    | some queue => exact congrArg some (setQueue_after queue.closeReceiver remote.caller)

/-- To put a session after an old one, in which no call is in progress, and then to act comes to the
same as to act first. -/
theorem step_after (wired : session.slot.Wired session.tasks)
    (quiet : ∀ call ∈ past.calls, call.inProgress = false) (action : Action) :
    (session.after past).step (action.after past) = (session.step action).map (·.after past) := by
  cases action with
  | addKeys keys | setSuccessHandler handler | setFailureHandler handler | pass time => rfl
  | start demand => exact start_after demand
  | dropClient => exact dropClient_after quiet
  | acquire agent => exact acquire_after agent
  | runSection call => exact runSection_after wired
  | resume call => exact resume_after
  | abandon call => exact abandon_after
  | placeTask task => exact placeTask_after
  | openTask task result => exact openTask_after result
  | giveUpTask task => exact giveUpTask_after
  | readTask task arrival => exact readTask_after arrival
  | storeStatus task => exact storeStatus_after wired
  | finishTask task => exact finishTask_after
  | placeOnce call => exact placeOnce_after
  | openOnce call result => exact openOnce_after result
  | readOnce call arrival => exact readOnce_after arrival
  | receive remote => exact receive_after remote
  | closeReceiver remote => exact closeReceiver_after remote

end Session

end PbrTelemetry
