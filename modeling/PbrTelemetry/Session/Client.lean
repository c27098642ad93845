import PbrTelemetry.Session.State

/-!
# The calls of a client

A call that asks for a subscription is checked first, and a call that fails the checks changes
nothing.  A call that concerns the lasting stream then waits for the lock, does its work on the slot
with the lock held, and gives the lock back.  A close does so twice, and waits for the task of the
stream in between without the lock, so that the task can end.
-/

namespace PbrTelemetry

/-- The status that stands for a stream which ended without one. -/
def Status.alreadyClosed : Status := ⟨.aborted, "subscribe stream already closed"⟩

def streamQueueCapacity : Nat := 16

namespace Session

variable (session : Session)

/-! ## Starting calls -/

def prepare (metadata : CallMetadata) (args : RpcArgs) (mode : StreamMode) :
    Except ClientFault SubscribeRequest :=
  if session.counter.tag ≠ pbrTag then .error (.wrongCounter session.counter.tag)
  else if !metadata.hasCredentials then .error .missingCredentials
  else
    match { args with mode }.request session.counter.subscriptionPaths with
    | .ok request => .ok request
    | .error error => .error (.unusableRequest error)

inductive Demand where
  | registerOnce (metadata : CallMetadata) (args : RpcArgs)
  | registerStream (metadata : CallMetadata) (args : RpcArgs)
  | close
  | state
  deriving Repr

def newCall : Demand → ClientCall
  | .registerOnce metadata args =>
    match session.prepare metadata args .once with
    | .error fault => .refused fault
    | .ok request => .once { metadata, queue := { capacity := 1, waiting := [request] } }
  | .registerStream metadata args =>
    match session.prepare metadata args .stream with
    | .error fault => .refused fault
    | .ok request => .register metadata request none
  | .close => .close .taking
  | .state => .inspect none

def start (demand : Demand) : Option Session :=
  if session.dropped then none
  else some { session with calls := session.calls ++ [session.newCall demand] }

/-- Drop the client, which no call may be in progress for. -/
def dropClient : Option Session :=
  if session.dropped ∨ session.calls.any ClientCall.inProgress then none
  else some { session with dropped := true }

/-- The caller gives a call up.  A call that has the lock runs its section without a pause, so it
cannot be given up before it has given the lock back. -/
def abandon (id : Nat) : Option Session :=
  match session.calls[id]? with
  | some call =>
    if call.inProgress ∧ session.lock ≠ some (.call id) then
      some (session.setCall id call.givenUp)
    else none
  | none => none

/-! ## Calls with the lock held -/

def startStream (metadata : CallMetadata) : Session :=
  let id := session.tasks.length
  let generation := session.slot.generation + 1
  { session with
    tasks := session.tasks ++
      [{ generation, metadata, queue := { capacity := streamQueueCapacity } }]
    slot := {
      writer := some id
      cancel := some id
      receiveTask := some id
      finalStatus := none
      phase := .streamActive
      generation } }

def ensureStream (metadata : CallMetadata) : Session :=
  if session.slot.receiveTask.isNone then session.startStream metadata else session

def writeRequest (request : SubscribeRequest) : Session × Outcome :=
  match session.slot.writer with
  | none =>
    (session, .error (.rpcFailure (session.slot.finalStatus.getD .alreadyClosed)))
  | some id =>
    match session.tasks[id]? with
    | none => (session, .error .writesFailed)
    | some task =>
      match task.queue.push? request with
      | none => (session, .error .writesFailed)
      | some queue => (session.setTask id { task with queue }, .ok ())

def registerSection (id : Nat) (metadata : CallMetadata) (request : SubscribeRequest) :
    Session :=
  let (written, outcome) := (session.ensureStream metadata).writeRequest request
  written.setCall id (.register metadata request (some outcome))

def cancelTask (id : Nat) : Session :=
  match session.tasks[id]? with
  | some task => session.setTask id { task with cancelled := true }
  | none => session

def takeSection (id : Nat) : Session :=
  let cancelled := match session.slot.cancel with
    | some task => session.cancelTask task
    | none => session
  let stage := match session.slot.receiveTask with
    | some task => CloseStage.awaiting task
    | none => .returned
  { cancelled with
    slot := { session.slot with writer := none, cancel := none, receiveTask := none } }.setCall id
      (.close stage)

/-- Change the phase after the task is over, unless a new stream was started. -/
def settleSection (id : Nat) : Session :=
  let phase := if session.slot.receiveTask.isNone then Phase.closed else session.slot.phase
  { session with slot := { session.slot with phase } }.setCall id (.close .returned)

/-- What a call does with the lock held, after which it gives the lock back. -/
def runSection (id : Nat) : Option Session :=
  if session.lock = some (.call id) then
    match session.calls[id]? with
    | some (.register metadata request none) =>
      some (session.registerSection id metadata request).release
    | some (.close .taking) => some (session.takeSection id).release
    | some (.close .settling) => some (session.settleSection id).release
    | some (.inspect none) =>
      some (session.setCall id (.inspect (some session.slot.phase))).release
    | _ => none
  else none

def resume (id : Nat) : Option Session :=
  match session.calls[id]? with
  | some (.close (.awaiting task)) =>
    if (session.tasks[task]?).map ReceiveTask.stage = some .finished then
      some (session.setCall id (.close .settling))
    else none
  | _ => none

end Session

end PbrTelemetry
