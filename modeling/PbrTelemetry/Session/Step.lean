import PbrTelemetry.Session.Client
import PbrTelemetry.Session.Receive

/-!
# The steps of a session

`Session.step` says what a session does in one action of the client, of a receive task, of the
target, or of time; it has no result if the action is not possible.  Actions of different agents
come in any order.

Nothing here waits.  An agent that has to wait has no action until another one has acted.
-/

namespace PbrTelemetry

namespace Session

variable (session : Session)

/-! ## The target -/

def queueOf? : Agent → Option RequestQueue
  | .task id => (session.tasks[id]?).map ReceiveTask.queue
  | .call id =>
    match session.calls[id]? with
    | some (.once run) => some run.queue
    | _ => none

def setQueue (queue : RequestQueue) : Agent → Session
  | .task id =>
    match session.tasks[id]? with
    | some task => session.setTask id { task with queue }
    | none => session
  | .call id =>
    match session.calls[id]? with
    | some (.once run) => session.setCall id (.once { run with queue })
    | _ => session

def receive (call : Nat) : Option Session := do
  let remote ← session.remote[call]?
  let queue ← session.queueOf? remote.caller
  let queue ← queue.receive?
  return session.setQueue queue remote.caller

def closeReceiver (call : Nat) : Option Session := do
  let remote ← session.remote[call]?
  let queue ← session.queueOf? remote.caller
  return session.setQueue queue.closeReceiver remote.caller

/-! ## Actions -/

inductive Action where
  | addKeys (keys : List PbrKey)
  | setSuccessHandler (handler : SuccessHandler)
  | setFailureHandler (handler : FailureHandler)
  | start (demand : Demand)
  | dropClient
  | acquire (agent : Agent)
  /-- A call that holds the lock does its work and gives the lock back. -/
  | runSection (call : Nat)
  | resume (call : Nat)
  | abandon (call : Nat)
  | placeTask (task : Nat)
  | openTask (task : Nat) (result : Except Status Unit)
  | giveUpTask (task : Nat)
  | readTask (task : Nat) (arrival : Arrival)
  | storeStatus (task : Nat)
  | finishTask (task : Nat)
  | placeOnce (call : Nat)
  | openOnce (call : Nat) (result : Except Status Unit)
  | readOnce (call : Nat) (arrival : Arrival)
  | receive (remote : Nat)
  | closeReceiver (remote : Nat)
  | pass (time : Duration)
  deriving Repr

/-- The session after an action, if the action is possible. -/
def step : Action → Option Session
  | .addKeys keys => some { session with counter := session.counter.addKeys keys }
  | .setSuccessHandler handler => some { session with onSuccess := some handler }
  | .setFailureHandler handler => some { session with onFailure := some handler }
  | .start demand => session.start demand
  | .dropClient => session.dropClient
  | .acquire agent => session.acquire agent
  | .runSection call => session.runSection call
  | .resume call => session.resume call
  | .abandon call => session.abandon call
  | .placeTask task => session.placeTask task
  | .openTask task result => session.openTask task result
  | .giveUpTask task => session.giveUpTask task
  | .readTask task arrival => session.readTask task arrival
  | .storeStatus task => session.storeStatus task
  | .finishTask task => session.finishTask task
  | .placeOnce call => session.placeOnce call
  | .openOnce call result => session.openOnce call result
  | .readOnce call arrival => session.readOnce call arrival
  | .receive remote => session.receive remote
  | .closeReceiver remote => session.closeReceiver remote
  | .pass time => some { session with now := session.now + time.nanos }

end Session

end PbrTelemetry
