import PbrTelemetry.Decode.Notification
import PbrTelemetry.Text.Blank
import PbrTelemetry.Text.Reader

/-!
# Counters

A counter knows the policy rules to watch and keeps the records about them in the order of their
arrival.  `Counter.checkResponse` turns a response into a record, and `Counter.accept` also keeps
it.
-/

namespace PbrTelemetry

structure PbrKey where
  policy : String
  rule : String
  deriving DecidableEq, Repr, Inhabited

structure PbrStat where
  policyName : String
  ruleName : String
  byteCount : UInt64
  packetCount : UInt64
  /-- When the numbers were collected, in seconds since the epoch. -/
  seconds : UInt64
  /-- The nanoseconds on top of these seconds. -/
  nanoseconds : UInt64
  pathGroup : String
  action : String
  deriving DecidableEq, Repr, Inhabited

/-! ## Records from flat maps -/

/-- The keys under which the leaves of a record stand. -/
structure PbrStat.Leaves where
  byteCount : String
  packetCount : String
  seconds : String
  nanoseconds : String
  pathGroup : String
  action : String

def PbrStat.leaves : PbrStat.Leaves where
  byteCount := "/fib-stats/byte-count"
  packetCount := "/fib-stats/packet-count"
  seconds := "/fib-stats/collection-timestamp/seconds"
  nanoseconds := "/fib-stats/collection-timestamp/nano-seconds"
  pathGroup := "/paction/policy-rule-action/act-un/path-grp-name"
  action := "/paction/policy-rule-action/act-un/type"

/-- A text field: empty if the key is absent. -/
def FlatMap.textField (map : FlatMap) (key : String) : String := (map.get? key).getD ""

/-- A number field: zero if the key is absent.  Blanks around the number do not count. -/
def FlatMap.wordField (map : FlatMap) (key : String) : Except DecodeError UInt64 :=
  match map.get? key with
  | none => .ok 0
  | some value =>
    match Text.word? (Text.trim value.toList) with
    | some word => .ok word
    | none => .error (.conversion key value)

def PbrStat.ofMap (map : FlatMap) : Except DecodeError PbrStat := do
  let byteCount ← FlatMap.wordField map leaves.byteCount
  let packetCount ← FlatMap.wordField map leaves.packetCount
  let seconds ← FlatMap.wordField map leaves.seconds
  let nanoseconds ← FlatMap.wordField map leaves.nanoseconds
  return {
    policyName := FlatMap.textField map policyNameKey
    ruleName := FlatMap.textField map ruleNameKey
    byteCount, packetCount, seconds, nanoseconds
    pathGroup := FlatMap.textField map leaves.pathGroup
    action := FlatMap.textField map leaves.action }

/-! ## The counter -/

def pbrTag : String := "pbr"

def pbrOrigin : String := "Cisco-IOS-XR-pbr-fwd-stats-oper"

structure Counter where
  tag : String := pbrTag
  /-- The data model that responses must belong to. -/
  origin : String := pbrOrigin
  keys : List PbrKey := []
  stats : List PbrStat := []
  deriving DecidableEq, Repr, Inhabited

def PbrKey.subscriptionPath (key : PbrKey) : String :=
  pbrOrigin ++ ":pbr-stats/policy-maps/policy-map[policy-name=" ++ key.policy
    ++ "]/rule-names/rule-name[rule-name=" ++ key.rule ++ "]/"

namespace Counter

def subscriptionPaths (counter : Counter) : List String :=
  counter.keys.map PbrKey.subscriptionPath

def addKeys (counter : Counter) (keys : List PbrKey) : Counter :=
  { counter with keys := counter.keys ++ keys }

def accumulate (counter : Counter) (stat : PbrStat) : Counter :=
  { counter with stats := counter.stats ++ [stat] }

/-- The record of a response.  Only notifications have one. -/
def checkResponse (counter : Counter) : SubscribeResponse → Except DecodeError PbrStat
  | .update notification => do
    let map ← notification.flatten counter.origin
    PbrStat.ofMap map
  | .sync _ | .error _ | .empty => .error .noNotification

def accept (counter : Counter) (response : SubscribeResponse) : Counter :=
  match counter.checkResponse response with
  | .ok stat => counter.accumulate stat
  | .error _ => counter

end Counter

end PbrTelemetry
