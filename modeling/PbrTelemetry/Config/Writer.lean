import PbrTelemetry.Config
import PbrTelemetry.Toml.Printer

/-!
# Writing configurations

The connection and the subscription have a table each, and so has every policy rule behind them; a
list without rules is written in front of all tables.  Options that are not set are left out.
-/

namespace PbrTelemetry

open Toml

def StreamMode.name : StreamMode → String
  | stream => "stream"
  | once => "once"

def renderOption {α : Type} (render : α → List Char) : Option α → List Char
  | none => []
  | some value => render value

namespace TelemetryConfig

def renderConnection (connection : ChannelArgs) : List Char :=
  renderHeader "connection"
    ++ renderTextPair "server_address" connection.serverAddress
    ++ renderFlagPair "tls" connection.tls
    ++ renderOption (renderTextPair "root_cert_path") connection.rootCertPath
    ++ renderOption (renderTextPair "private_key_path") connection.privateKeyPath
    ++ renderOption (renderTextPair "cert_chain_path") connection.certChainPath

def renderSubscription (subscription : SubscriptionConfig) : List Char :=
  renderHeader "subscription"
    ++ renderNaturalPair "sample_interval_nsec" subscription.sampleInterval.toNat
    ++ renderTextPair "encoding" subscription.encoding
    ++ renderTextPair "mode" subscription.mode.name
    ++ renderOption (fun n : UInt64 => renderNaturalPair "timeout_secs" n.toNat)
      subscription.timeoutSecs
    ++ renderNaturalPair "connect_retries" subscription.connectRetries.toNat
    ++ renderNaturalPair "retry_interval_secs" subscription.retryIntervalSecs.toNat

def renderPolicy (key : PbrKey) : List Char :=
  '\n' :: renderElementHeader "policies" ++ renderTextPair "policy" key.policy
    ++ renderTextPair "rule" key.rule

def render (config : TelemetryConfig) : List Char :=
  (if config.policies.isEmpty then renderPair "policies" ['[', ']'] ++ ['\n'] else [])
    ++ renderConnection config.connection ++ ['\n'] ++ renderSubscription config.subscription
    ++ config.policies.flatMap renderPolicy

/-- Whether every number of a configuration fits 64 bits with a sign, as written numbers must. -/
def isWritable (config : TelemetryConfig) : Bool :=
  config.subscription.sampleInterval.toNat < Nat.pow 2 63
    ∧ config.subscription.retryIntervalSecs.toNat < Nat.pow 2 63
    ∧ config.subscription.timeoutSecs.all fun n => n.toNat < Nat.pow 2 63

end TelemetryConfig

end PbrTelemetry
