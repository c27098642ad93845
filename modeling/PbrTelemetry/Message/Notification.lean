import PbrTelemetry.Message.Value
import PbrTelemetry.Path

/-!
# Responses of a subscription

What a target sends on a subscription: notifications with updates, the marker that everything was
sent once, or an error of the older kind.
-/

namespace PbrTelemetry

structure Update where
  path : Option Path := none
  val : Option TypedValue := none
  /-- How many further updates of the node were folded into this one. -/
  duplicates : UInt32 := 0
  deriving Repr, Inhabited

structure Notification where
  /-- When the values were collected, in nanoseconds since the epoch. -/
  timestamp : Int64 := 0
  /-- The path that the paths of the updates continue. -/
  prefixPath : Option Path := none
  update : List Update := []
  delete : List Path := []
  atomic : Bool := false
  deriving Repr, Inhabited

structure TargetError where
  code : UInt32 := 0
  message : String := ""
  data : Option AnyMessage := none
  deriving DecidableEq, Repr, Inhabited

inductive SubscribeResponse where
  | empty
  | update (notification : Notification)
  /-- All values were sent at least once. -/
  | sync (value : Bool)
  | error (error : TargetError)
  deriving Repr, Inhabited

end PbrTelemetry
