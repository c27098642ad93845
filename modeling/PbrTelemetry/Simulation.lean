import PbrTelemetry.Session.Step

/-!
# Sessions with a scripted target

A simulation runs a session against a target whose behaviour is written down beforehand: what
becomes of each remote call, and what is sent on each stream.  Time passes only when it is told to,
or when a call waits and nothing else can happen; it then jumps to the next deadline.

The simulation chooses among the actions that are possible in a session, and nothing else: every
change of the session is a `Session.step`.  Tasks act in the order of their start, each until it has
to wait.
-/

namespace PbrTelemetry

inductive Opening where
  | stream (index : Nat)
  | failure (status : Status)
  | silence
  deriving DecidableEq, Repr

inductive StreamItem where
  | response (response : SubscribeResponse)
  | status (status : Status)
  deriving Repr

def StreamItem.arrival : StreamItem → Arrival
  | response r => .response r
  | status s => .status s

structure ScriptedStream where
  items : List StreamItem := []
  ended : Bool := false
  dropped : Bool := false
  deriving Repr, Inhabited

structure Simulation where
  session : Session
  /-- What becomes of the next remote calls. -/
  openings : List Opening := []
  streams : List ScriptedStream := []
  readers : List (Agent × Nat) := []
  deriving Repr, Inhabited

namespace Simulation

variable (sim : Simulation)

/-! ## Actions -/

def act (action : Session.Action) : Option Simulation :=
  (sim.session.step action).map fun session => { sim with session }

def attempt (action : Session.Action) : Simulation := (sim.act action).getD sim

def placing : Agent → Session.Action
  | .task id => .placeTask id
  | .call id => .placeOnce id

def opening (result : Except Status Unit) : Agent → Session.Action
  | .task id => .openTask id result
  | .call id => .openOnce id result

def reading (arrival : Arrival) : Agent → Session.Action
  | .task id => .readTask id arrival
  | .call id => .readOnce id arrival

/-! ## The target -/

def unscripted : Status := ⟨.unavailable, "no scripted stream"⟩

/-- Let the last remote call fail; the target then no longer listens to it. -/
def failCall (agent : Agent) (status : Status) : Option Simulation := do
  let failed ← sim.act (opening (.error status) agent)
  return failed.attempt (.closeReceiver (failed.session.remote.length - 1))

def answerCall (agent : Agent) : Option Simulation :=
  match sim.openings with
  | [] => sim.failCall agent unscripted
  | .failure status :: rest => { sim with openings := rest }.failCall agent status
  | .silence :: rest => some { sim with openings := rest }
  | .stream index :: rest =>
    { sim with openings := rest, readers := (agent, index) :: sim.readers }.act
      (opening (.ok ()) agent)

/-- Place a remote call and let the target answer it.  An agent that breaks down over its deadline
has no remote call. -/
def placeCall (agent : Agent) : Option Simulation := do
  let placed ← sim.act (placing agent)
  if placed.session.remote.length = sim.session.remote.length then return placed
  placed.answerCall agent

def streamOf? (agent : Agent) : Option Nat :=
  (sim.readers.find? fun reader => reader.1 = agent).map Prod.snd

def modifyStream (index : Nat) (change : ScriptedStream → ScriptedStream) : Simulation :=
  { sim with streams := sim.streams.modify index change }

def nextArrival? (agent : Agent) : Option (Arrival × Simulation) := do
  let index ← sim.streamOf? agent
  let stream ← sim.streams[index]?
  match stream.items with
  | item :: rest => return (item.arrival, sim.modifyStream index fun s => { s with items := rest })
  | [] => if stream.ended then return (.endOfStream, sim) else none

def isReading : Agent → Bool
  | .task id => (sim.session.tasks[id]?).map ReceiveTask.stage = some .reading
  | .call id =>
    match sim.session.calls[id]? with
    | some (.once run) => run.stage = .reading
    | _ => false

def dropUnread (agent : Agent) : Simulation :=
  if sim.isReading agent then sim
  else
    match sim.streamOf? agent with
    | some index => sim.modifyStream index fun stream => { stream with dropped := true }
    | none => sim

/-- What a reader sees: its cancellation comes first, its deadline next, and then its stream. -/
def seenBy? (agent : Agent) (cancelled : Bool) (deadline : Option Nat) :
    Option (Arrival × Simulation) :=
  if cancelled then some (.cancelled, sim)
  else if sim.session.hasExpired deadline then some (.expired, sim)
  else sim.nextArrival? agent

def readOn (agent : Agent) (cancelled : Bool) (deadline : Option Nat) : Option Simulation := do
  let (arrival, seen) ← sim.seenBy? agent cancelled deadline
  let read ← seen.act (reading arrival agent)
  return read.dropUnread agent

/-! ## Running -/

def stepTask (id : Nat) : Option Simulation := do
  let task ← sim.session.tasks[id]?
  match task.stage with
  | .spawned => (sim.act (.giveUpTask id)).or (sim.placeCall (.task id))
  | .opening => sim.act (.giveUpTask id)
  | .reading => sim.readOn (.task id) (sim.session.isCancelled task) task.deadline
  | .ending _ => do
    let locked ← sim.act (.acquire (.task id))
    locked.act (.storeStatus id)
  | .reporting _ => sim.act (.finishTask id)
  | .finished => none

def stepCall (id : Nat) : Option Simulation := do
  match ← sim.session.calls[id]? with
  | .close (.awaiting _) => sim.act (.resume id)
  | .once run =>
    match run.stage with
    | .placing => sim.placeCall (.call id)
    | .reading => sim.readOn (.call id) sim.session.dropped run.deadline
    | _ => none
  | _ => do
    let locked ← sim.act (.acquire (.call id))
    locked.act (.runSection id)

/-- The next action of the first task that can act. -/
def stepTasks : Option Simulation :=
  (List.range sim.session.tasks.length).findSome? sim.stepTask

/-- Repeat a step as long as it is possible, at most `fuel` times. -/
def exhaust (step : Simulation → Option Simulation) : Nat → Simulation → Simulation
  | 0, sim => sim
  | fuel + 1, sim =>
    match step sim with
    | some next => exhaust step fuel next
    | none => sim

def itemsLeft : Nat :=
  sim.streams.foldr (fun stream total => stream.items.length + total) 0

/-- More than the actions that are left to the tasks, or to a call, while time stands still. -/
def actionsLeft : Nat :=
  6 * (sim.session.tasks.length + sim.session.calls.length + 1) + sim.itemsLeft

/-- Let the tasks act until each has to wait. -/
def settle : Simulation := exhaust stepTasks sim.actionsLeft sim

/-- Let a call act until it has to wait. -/
def runCall (id : Nat) : Simulation := exhaust (·.stepCall id) sim.actionsLeft sim

/-! ## Waiting -/

def pass (time : Duration) : Simulation := sim.attempt (.pass time)

def deadlines : List Nat :=
  (sim.session.tasks.filterMap fun task =>
    if task.stage = .reading then task.deadline else none)
  ++ sim.session.calls.filterMap fun call =>
    match call with
    | .once run => if run.stage = .reading then run.deadline else none
    | _ => none

def isWaiting (id : Nat) : Bool := (sim.session.calls[id]?).any ClientCall.inProgress

def passUntil (moment : Nat) : Simulation := sim.pass ⟨moment - sim.session.now⟩

/-- Wait for a call up to a moment and then give it up.  Time jumps to the next deadline whenever
nothing else can happen, at most `fuel` times. -/
def awaitUntil (id moment : Nat) : Nat → Simulation → Simulation
  | 0, sim => sim
  | fuel + 1, sim =>
    let sim := ((sim.runCall id).settle).runCall id
    if !sim.isWaiting id then sim
    else
      match sim.deadlines.min? with
      | some deadline =>
        if deadline ≤ moment then awaitUntil id moment fuel (sim.passUntil deadline)
        else abandon sim
      | none => abandon sim
where
  abandon (sim : Simulation) : Simulation :=
    ((sim.passUntil moment).attempt (.abandon id)).dropUnread (.call id)

def patience : Duration := .ofSeconds 1000000

def await (id : Nat) : Simulation :=
  awaitUntil id (sim.session.now + patience.nanos)
    (sim.session.tasks.length + sim.session.calls.length + 1) sim

/-! ## What a client does -/

def startCall (demand : Session.Demand) : Option (Nat × Simulation) := do
  let started ← sim.act (.start demand)
  let id := sim.session.calls.length
  return (id, started.runCall id)

def outcome? (id : Nat) : Option Outcome := (sim.session.calls[id]?).bind ClientCall.outcome?

/-- Start a call and wait for it.  There is no outcome if it was given up. -/
def perform (demand : Session.Demand) : Option (Option Outcome × Simulation) := do
  let (id, started) ← sim.startCall demand
  let done := started.await id
  return (done.outcome? id, done)

/-- Start two calls, each of which acts until it has to wait before anything else happens, and wait
for both. -/
def performBoth (first second : Session.Demand) :
    Option ((Option Outcome × Option Outcome) × Simulation) := do
  let (firstId, started) ← sim.startCall first
  let (secondId, started) ← started.startCall second
  let done := (started.await firstId).await secondId
  return ((done.outcome? firstId, done.outcome? secondId), done)

/-! ## What a target does -/

def addStream : Simulation :=
  { sim with
    streams := sim.streams ++ [{}]
    openings := sim.openings ++ [.stream sim.streams.length] }

def script (opening : Opening) : Simulation := { sim with openings := sim.openings ++ [opening] }

/-- Send items on a stream, and say how many of them were accepted. -/
def send (index : Nat) (items : List StreamItem) : Nat × Simulation :=
  match sim.streams[index]? with
  | some stream =>
    if stream.ended ∨ stream.dropped then (0, sim)
    else (items.length, sim.modifyStream index fun s => { s with items := s.items ++ items })
  | none => (0, sim)

def endStream (index : Nat) : Simulation :=
  sim.modifyStream index fun stream => { stream with ended := true }

/-- Receive all waiting requests of a remote call.  The truth value says whether more can come. -/
def takeRequests (remote : Nat) : Option (List SubscribeRequest × Bool × Simulation) := do
  let call ← sim.session.remote[remote]?
  let queue ← sim.session.queueOf? call.caller
  let taken := queue.waiting.foldl (fun sim _ => sim.attempt (.receive remote)) sim
  return (queue.waiting, queue.receiverOpen && sim.session.isWritable call.caller, taken)

/-- The requests of all remote calls that were accepted and not lost, call by call. -/
def acceptedRequests : List (CallMetadata × List SubscribeRequest) :=
  sim.session.remote.map fun call =>
    (call.metadata, ((sim.session.queueOf? call.caller).map RequestQueue.accepted).getD [])

end Simulation

end PbrTelemetry
