import PbrTelemetry.Message.Enumeration
import PbrTelemetry.Path

/-!
# Requests for a subscription

What a client sends to open a subscription or to ask for its values.  Enumerations are plain
numbers here, since a message may hold a number without a name.
-/

namespace PbrTelemetry

structure Subscription where
  path : Option Path := none
  mode : Int32 := 0
  /-- The nanoseconds between two samples. -/
  sampleInterval : UInt64 := 0
  suppressRedundant : Bool := false
  /-- The longest silence allowed when they are, in nanoseconds. -/
  heartbeatInterval : UInt64 := 0
  deriving DecidableEq, Repr, Inhabited

structure QosMarking where
  marking : UInt32 := 0
  deriving DecidableEq, Repr, Inhabited

structure ModelData where
  name : String := ""
  organization : String := ""
  version : String := ""
  deriving DecidableEq, Repr, Inhabited

structure SubscriptionList where
  /-- The path that the paths of the subscriptions continue. -/
  prefixPath : Option Path := none
  subscription : List Subscription := []
  qos : Option QosMarking := none
  mode : Int32 := 0
  allowAggregation : Bool := false
  useModels : List ModelData := []
  encoding : Int32 := 0
  updatesOnly : Bool := false
  deriving DecidableEq, Repr, Inhabited

inductive SubscribeRequest where
  | empty
  | subscribe (list : SubscriptionList)
  | poll
  deriving DecidableEq, Repr, Inhabited

end PbrTelemetry
