import PbrTelemetry.Session.State

/-!
# Receiving responses

A receive task and a single subscription place one remote call each and read what arrives on it
until a status ends it.  Every response that yields a record adds that record to the counter, and
every other response is skipped.

A task then takes the lock, leaves its status in the slot if the slot still belongs to its stream,
and reports a failure to the handler before it gives the lock back.
-/

namespace PbrTelemetry

inductive Arrival where
  | response (response : SubscribeResponse)
  | status (status : Status)
  | endOfStream
  | cancelled
  | expired
  deriving Repr

def Status.cancelledByClient : Status := ⟨.cancelled, "subscribe cancelled by client"⟩

def Status.deadlinePassed : Status := ⟨.deadlineExceeded, "subscribe deadline exceeded"⟩

/-- What a reader makes of an arrival: a response to take, or the end of the call. -/
def Arrival.result : Arrival → Except Status SubscribeResponse
  | response r => .ok r
  | status s => .error s
  | endOfStream => .error ⟨.ok, ""⟩
  | cancelled => .error .cancelledByClient
  | expired => .error .deadlinePassed

namespace Session

variable (session : Session)

/-! ## Receive tasks -/

def placeCall (caller : Agent) (metadata : CallMetadata) : Session :=
  { session with remote := session.remote ++ [{ caller, metadata }] }

/-- A task places its remote call, or breaks down over the deadline and lets go of its queue. -/
def placeTask (id : Nat) : Option Session :=
  match session.tasks[id]? with
  | some task =>
    if task.stage = .spawned then
      match session.deadlineOf? task.metadata with
      | some deadline =>
        some ((session.setTask id { task with stage := .opening, deadline }).placeCall
          (.task id) task.metadata)
      | none =>
        some (session.setTask id
          { task with stage := .finished, queue := task.queue.closeReceiver })
    else none
  | none => none

def openTask (id : Nat) (result : Except Status Unit) : Option Session :=
  match session.tasks[id]? with
  | some task =>
    if task.stage = .opening then
      let stage := match result with
        | .ok () => TaskStage.reading
        | .error status => .ending status
      some (session.setTask id { task with stage })
    else none
  | none => none

/-- Whether a task can give up: before its remote call is open, and once it has its deadline. -/
def mayGiveUp (task : ReceiveTask) : Bool :=
  match task.stage with
  | .spawned => (session.deadlineOf? task.metadata).isSome
  | .opening => true
  | _ => false

def giveUpTask (id : Nat) : Option Session :=
  match session.tasks[id]? with
  | some task =>
    if session.mayGiveUp task ∧ session.isCancelled task then
      some (session.setTask id { task with stage := .ending .cancelledByClient })
    else none
  | none => none

def isPossible (cancelled : Bool) (deadline : Option Nat) : Arrival → Bool
  | .cancelled => cancelled
  | .expired => session.hasExpired deadline
  | _ => true

/-- Show the counter to the handler for new records; the result says whether the handler
returned. -/
def reportRecord : Session × Bool :=
  match session.onSuccess with
  | none => (session, true)
  | some handler =>
    ({ session with
        handled := session.handled ++ [.success handler.name session.counter] },
      handler.breaksAt ≠ some session.counter.stats.length)

def deliver (response : SubscribeResponse) : Session × Bool :=
  match session.counter.checkResponse response with
  | .ok stat => { session with counter := session.counter.accumulate stat }.reportRecord
  | .error _ => (session, true)

def readTask (id : Nat) (arrival : Arrival) : Option Session :=
  match session.tasks[id]? with
  | some task =>
    if task.stage = .reading
        ∧ session.isPossible (session.isCancelled task) task.deadline arrival then
      match arrival.result with
      | .ok response =>
        let (delivered, returned) := session.deliver response
        if returned then some delivered
        else some (delivered.setTask id { task with stage := .finished })
      | .error status => some (session.setTask id { task with stage := .ending status })
    else none
  | none => none

/-- A receive task that holds the lock leaves its status in the slot, if the slot is still its
own. -/
def storeStatus (id : Nat) : Option Session :=
  match session.tasks[id]? with
  | some task =>
    match task.stage with
    | .ending status =>
      if session.lock = some (.task id) then
        let slot :=
          if session.slot.generation = task.generation then
            { session.slot with writer := none, finalStatus := some status }
          else session.slot
        some { session.setTask id { task with stage := .reporting status } with slot }
      else none
    | _ => none
  | none => none

/-- Whether a status is a failure of the stream: neither its end nor its cancellation. -/
def isFailure (status : Status) : Bool := status.code ≠ .ok ∧ status.code ≠ .cancelled

def reportStatus (status : Status) : Session :=
  match session.onFailure with
  | some handler =>
    if isFailure status then
      { session with handled := session.handled ++ [.failure handler.name status] }
    else session
  | none => session

def finishTask (id : Nat) : Option Session :=
  match session.tasks[id]? with
  | some task =>
    match task.stage with
    | .reporting status =>
      if session.lock = some (.task id) then
        some ((session.reportStatus status).setTask id { task with stage := .finished }).release
      else none
    | _ => none
  | none => none

/-! ## Single subscriptions -/

/-- A single subscription places its remote call, or breaks down over the deadline. -/
def placeOnce (id : Nat) : Option Session :=
  match session.calls[id]? with
  | some (.once run) =>
    if run.stage = .placing then
      match session.deadlineOf? run.metadata with
      | some deadline =>
        some ((session.setCall id (.once { run with stage := .opening, deadline })).placeCall
          (.call id) run.metadata)
      | none => some (session.setCall id (.once { run with stage := .broken }))
    else none
  | _ => none

def openOnce (id : Nat) (result : Except Status Unit) : Option Session :=
  match session.calls[id]? with
  | some (.once run) =>
    if run.stage = .opening then
      let stage := match result with
        | .ok () => OnceStage.reading
        | .error status => .ended status
      some (session.setCall id (.once { run with stage }))
    else none
  | _ => none

def readOnce (id : Nat) (arrival : Arrival) : Option Session :=
  match session.calls[id]? with
  | some (.once run) =>
    if run.stage = .reading ∧ session.isPossible session.dropped run.deadline arrival then
      match arrival.result with
      | .ok response => some { session with counter := session.counter.accept response }
      | .error status => some (session.setCall id (.once { run with stage := .ended status }))
    else none
  | _ => none

end Session

end PbrTelemetry
