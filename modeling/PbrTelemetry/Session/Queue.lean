import PbrTelemetry.Message.Request

/-!
# Request queues

A request queue lies between the session and one remote call.  It holds a bounded number of requests
that the target has not received yet, and it refuses requests when it is full or when the target no
longer listens.
-/

namespace PbrTelemetry

structure RequestQueue where
  capacity : Nat
  /-- The requests that were accepted and not received yet, the oldest first. -/
  waiting : List SubscribeRequest := []
  received : List SubscribeRequest := []
  receiverOpen : Bool := true
  deriving DecidableEq, Repr, Inhabited

namespace RequestQueue

def push? (queue : RequestQueue) (request : SubscribeRequest) : Option RequestQueue :=
  if queue.receiverOpen ∧ queue.waiting.length < queue.capacity then
    some { queue with waiting := queue.waiting ++ [request] }
  else none

def receive? (queue : RequestQueue) : Option RequestQueue :=
  match queue.waiting with
  | [] => none
  | request :: rest =>
    some { queue with waiting := rest, received := queue.received ++ [request] }

/-- The target stops to listen, and the waiting requests are lost. -/
def closeReceiver (queue : RequestQueue) : RequestQueue :=
  { queue with waiting := [], receiverOpen := false }

/-- All requests that were accepted and not lost. -/
def accepted (queue : RequestQueue) : List SubscribeRequest := queue.received ++ queue.waiting

theorem accepted_push? {queue next : RequestQueue} {request : SubscribeRequest}
    (h : queue.push? request = some next) : next.accepted = queue.accepted ++ [request] := by
  unfold push? at h
  split at h
  · cases h
    simp [accepted]
  · cases h

theorem accepted_receive? {queue next : RequestQueue} (h : queue.receive? = some next) :
    next.accepted = queue.accepted := by
  unfold receive? at h
  split at h
  · cases h
  · rename_i hw
    cases h
    simp [accepted, hw]

end RequestQueue

end PbrTelemetry
