import PbrTelemetry.Decode.Error
import PbrTelemetry.Message.Request
import PbrTelemetry.Path.Text

/-!
# Building requests

A request asks for samples of a list of paths at one interval, in an encoding that can be decoded.
A path that cannot be read is asked for as the path without elements, so that the others keep their
places.
-/

namespace PbrTelemetry

inductive StreamMode where
  | stream
  | once
  deriving DecidableEq, Repr, Inhabited

def StreamMode.listMode : StreamMode → ListMode
  | stream => .stream
  | once => .once

def defaultSampleInterval : UInt64 := 1000000000

structure RpcArgs where
  sampleInterval : UInt64 := defaultSampleInterval
  encoding : Encoding := .proto
  mode : StreamMode := .stream
  deriving DecidableEq, Repr, Inhabited

def Subscription.sampled (interval : UInt64) (text : String) : Subscription where
  path := some ((Path.parse text).toOption.getD {})
  mode := SubscriptionMode.sample.number
  sampleInterval := interval

def RpcArgs.request (args : RpcArgs) (paths : List String) :
    Except DecodeError SubscribeRequest :=
  if args.encoding.isSupported then
    .ok (.subscribe
      { subscription := paths.map (Subscription.sampled args.sampleInterval)
        mode := args.mode.listMode.number
        encoding := args.encoding.number })
  else .error (.unsupportedEncoding args.encoding.number)

namespace SubscribeRequest

/-- The lines about the subscriptions from the given index on. -/
def describeSubscriptions (index : Nat) : List Subscription → String
  | [] => ""
  | s :: rest =>
    let path := match s.path with
      | some path => path.render
      | none => "Does not Exist"
    "Subscription[" ++ toString index ++ "]:\nPath: " ++ path ++ "\n"
      ++ describeSubscriptions (index + 1) rest

def describe (request : SubscribeRequest) : String :=
  "--------SubscribeRequest--------\n" ++
    match request with
    | .subscribe list =>
      (match list.prefixPath with
        | some path => "SubscriptionList Prefix: " ++ path.render ++ "\n"
        | none => "")
        ++ describeSubscriptions 0 list.subscription
    | _ => "No SubscriptionList\n"

end SubscribeRequest

end PbrTelemetry
