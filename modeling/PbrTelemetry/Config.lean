import PbrTelemetry.Connection
import PbrTelemetry.Duration
import PbrTelemetry.Request

/-!
# Configurations

A configuration names a target, the options of the subscription and the policy rules to watch.
Credentials are never part of it.  `TelemetryConfig.validate` checks it in a fixed order and reports
the first fault.
-/

namespace PbrTelemetry

structure SubscriptionConfig where
  /-- The nanoseconds between two samples. -/
  sampleInterval : UInt64 := defaultSampleInterval
  encoding : String := "proto"
  mode : StreamMode := .stream
  timeoutSecs : Option UInt64 := none
  connectRetries : UInt32 := 5
  retryIntervalSecs : UInt64 := 2
  deriving DecidableEq, Repr, Inhabited

structure TelemetryConfig where
  connection : ChannelArgs := {}
  subscription : SubscriptionConfig := {}
  policies : List PbrKey := []
  deriving DecidableEq, Repr, Inhabited

def Encoding.ofText? (text : String) : Option Encoding :=
  ofName? (String.ofList (text.toList.map Char.toUpper))

namespace TelemetryConfig

def timeout (config : TelemetryConfig) : Option Duration :=
  config.subscription.timeoutSecs.map fun n => .ofSeconds n.toNat

def retryInterval (config : TelemetryConfig) : Duration :=
  .ofSeconds config.subscription.retryIntervalSecs.toNat

/-- The options of requests.  An encoding without a meaning counts as `PROTO`. -/
def rpcArgs (config : TelemetryConfig) : RpcArgs where
  sampleInterval := config.subscription.sampleInterval
  encoding := (Encoding.ofText? config.subscription.encoding).getD .proto
  mode := config.subscription.mode

/-- Whether the name of an encoding is known, and notifications in it can be decoded. -/
def isUsableEncoding (name : String) : Bool :=
  match Encoding.ofText? name with
  | some encoding => encoding.isSupported
  | none => false

def isIncomplete (key : PbrKey) : Bool := key.policy = "" ∨ key.rule = ""

def fault? (config : TelemetryConfig) : Option ConfigFault :=
  if config.connection.serverAddress = "" then some .emptyAddress
  else if config.connection.tls ∧ config.connection.rootCertPath.isNone then
    some .missingRootCertificate
  else if config.subscription.sampleInterval = 0 then some .zeroInterval
  else if !isUsableEncoding config.subscription.encoding then
    some (.unsupportedEncoding config.subscription.encoding)
  else (config.policies.find? isIncomplete).map .incompletePolicy

def validate (config : TelemetryConfig) : Except SetupError Unit :=
  match config.fault? with
  | some fault => .error (.configuration fault)
  | none => .ok ()

end TelemetryConfig

end PbrTelemetry
