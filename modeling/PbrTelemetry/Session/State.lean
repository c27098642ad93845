import PbrTelemetry.Call
import PbrTelemetry.Counter
import PbrTelemetry.Request
import PbrTelemetry.Session.Outcome
import PbrTelemetry.Session.Queue

/-!
# The state of a session

A session is bound to one counter and has at most one lasting stream.  Everything about the stream
stands in its *slot*, which is read and written only by the holder of the session's *lock*:

* the calls of the client, of which any number can be in progress at once;
* the receive tasks, one for every stream that was ever started, which need the lock only when they
  end.

A single subscription has no part in the slot: it has a remote call of its own.
-/

namespace PbrTelemetry

inductive Agent where
  /-- A receive task, by its place in the list of all tasks. -/
  | task (id : Nat)
  /-- A call of the client, by its place in the list of all calls. -/
  | call (id : Nat)
  deriving DecidableEq, Repr

/-! ## The slot -/

inductive Phase where
  | idle
  /-- A stream was started and not closed since.  It may have ended. -/
  | streamActive
  | closed
  deriving DecidableEq, Repr, Inhabited

def Phase.name : Phase → String
  | idle => "Idle"
  | streamActive => "StreamActive"
  | closed => "Closed"

/-- What the session knows about its lasting stream.  Tasks are named by their place in the list of
all tasks. -/
structure Slot where
  /-- The task to whose queue requests are written. -/
  writer : Option Nat := none
  cancel : Option Nat := none
  receiveTask : Option Nat := none
  finalStatus : Option Status := none
  phase : Phase := .idle
  /-- How many streams were started so far. -/
  generation : Nat := 0
  deriving DecidableEq, Repr, Inhabited

/-! ## Receive tasks -/

inductive TaskStage where
  | spawned
  | opening
  | reading
  /-- It has its terminal status and needs the lock. -/
  | ending (status : Status)
  /-- It holds the lock, has left its status in the slot, and reports it. -/
  | reporting (status : Status)
  | finished
  deriving DecidableEq, Repr, Inhabited

structure ReceiveTask where
  /-- Which stream of the session it belongs to, counted from one. -/
  generation : Nat
  metadata : CallMetadata
  queue : RequestQueue
  deadline : Option Nat := none
  cancelled : Bool := false
  stage : TaskStage := .spawned
  deriving DecidableEq, Repr, Inhabited

/-! ## Calls of the client -/

inductive OnceStage where
  | placing
  | opening
  | reading
  | ended (status : Status)
  | abandoned
  /-- It broke down before its remote call, for the clock has no time for its deadline. -/
  | broken
  deriving DecidableEq, Repr, Inhabited

structure OnceCall where
  metadata : CallMetadata
  queue : RequestQueue
  deadline : Option Nat := none
  stage : OnceStage := .placing
  deriving DecidableEq, Repr, Inhabited

inductive CloseStage where
  | taking
  | awaiting (task : Nat)
  /-- It needs the lock once more to change the phase. -/
  | settling
  | returned
  /-- Its caller gave it up, while it waited for this task if for any. -/
  | abandoned (task : Option Nat)
  deriving DecidableEq, Repr, Inhabited

inductive ClientCall where
  | refused (fault : ClientFault)
  /-- A subscription on the lasting stream, and its outcome once it has returned. -/
  | register (metadata : CallMetadata) (request : SubscribeRequest) (outcome : Option Outcome)
  | once (run : OnceCall)
  | close (stage : CloseStage)
  | inspect (phase : Option Phase)
  /-- A subscription on the lasting stream or a question that its caller gave up. -/
  | withdrawn
  deriving Repr

def ClientCall.outcome? : ClientCall → Option Outcome
  | refused fault => some (.error (.clientType fault))
  | register _ _ outcome => outcome
  | once run =>
    match run.stage with
    | .ended status => some (Outcome.ofStatus status)
    | _ => none
  | close stage => if stage = .returned then some (.ok ()) else none
  | inspect _ | withdrawn => none

def ClientCall.inProgress : ClientCall → Bool
  | refused _ => false
  | register _ _ outcome => outcome.isNone
  | once run =>
    match run.stage with
    | .ended _ | .abandoned | .broken => false
    | _ => true
  | close stage =>
    match stage with
    | .returned | .abandoned _ => false
    | _ => true
  | inspect phase => phase.isNone
  | withdrawn => false

def ClientCall.isBroken : ClientCall → Bool
  | once run => run.stage = .broken
  | _ => false

/-- The task that a close has taken and has not seen the end of. -/
def CloseStage.taken? : CloseStage → Option Nat
  | awaiting task => some task
  | abandoned task => task
  | _ => none

def ClientCall.givenUp : ClientCall → ClientCall
  | once run => once { run with stage := .abandoned }
  | close stage => close (.abandoned stage.taken?)
  | _ => withdrawn

/-! ## Handlers -/

structure SuccessHandler where
  name : String
  /-- At how many records it breaks down, if ever. -/
  breaksAt : Option Nat := none
  deriving DecidableEq, Repr, Inhabited

structure FailureHandler where
  name : String
  breaks : Bool := false
  deriving DecidableEq, Repr, Inhabited

inductive HandlerCall where
  | success (name : String) (counter : Counter)
  | failure (name : String) (status : Status)
  deriving DecidableEq, Repr

/-! ## The session -/

/-- The last reading of the clock, in nanoseconds: it counts seconds in a signed word of 64 bits. -/
def latestReading : Nat := Nat.pow 2 63 * Nat.pow 10 9 - 1

structure RemoteCall where
  caller : Agent
  metadata : CallMetadata
  deriving DecidableEq, Repr

structure Session where
  counter : Counter := {}
  onSuccess : Option SuccessHandler := none
  onFailure : Option FailureHandler := none
  slot : Slot := {}
  lock : Option Agent := none
  /-- All receive tasks, in the order of their start. -/
  tasks : List ReceiveTask := []
  calls : List ClientCall := []
  remote : List RemoteCall := []
  handled : List HandlerCall := []
  dropped : Bool := false
  /-- The reading of the clock, in nanoseconds. -/
  now : Nat := 0
  deriving Repr, Inhabited

namespace Session

/-- Whether a task is cancelled: by a close, or because the client was dropped. -/
def isCancelled (session : Session) (task : ReceiveTask) : Bool :=
  task.cancelled || session.dropped

def hasExpired (session : Session) (deadline : Option Nat) : Bool :=
  match deadline with
  | some time => time ≤ session.now
  | none => false

/-- When a call placed now has to be over, if ever.  There is no result if the clock cannot come to
that time. -/
def deadlineOf? (session : Session) (metadata : CallMetadata) : Option (Option Nat) :=
  match metadata.timeout with
  | none => some none
  | some timeout =>
    let time := session.now + timeout.nanos
    if time ≤ latestReading then some (some time) else none

def setTask (session : Session) (id : Nat) (task : ReceiveTask) : Session :=
  { session with tasks := session.tasks.set id task }

def setCall (session : Session) (id : Nat) (call : ClientCall) : Session :=
  { session with calls := session.calls.set id call }

/-- Whether an agent waits for the lock or holds it. -/
def needsLock (session : Session) : Agent → Bool
  | .task id =>
    match (session.tasks[id]?).map ReceiveTask.stage with
    | some (.ending _) | some (.reporting _) => true
    | _ => false
  | .call id =>
    match session.calls[id]? with
    | some (.register _ _ none) | some (.close .taking) | some (.close .settling)
    | some (.inspect none) => true
    | _ => false

/-- Whether requests can still come on the queue of an agent: a stream can be written to as long as
the slot has its writer, and the slot lives as long as the client or a task does. -/
def isWritable (session : Session) : Agent → Bool
  | .task id =>
    session.slot.writer = some id
      ∧ (!session.dropped ∨ session.tasks.any fun task => task.stage ≠ .finished)
  | .call id =>
    match session.calls[id]? with
    | some call => call.inProgress
    | none => false

/-! ## The lock -/

def acquire (session : Session) (agent : Agent) : Option Session :=
  if session.lock = none ∧ session.needsLock agent then some { session with lock := some agent }
  else none

def release (session : Session) : Session := { session with lock := none }

end Session

end PbrTelemetry
