import PbrTelemetry.Config
import PbrTelemetry.Config.Setting
import PbrTelemetry.TextMap
import PbrTelemetry.Toml.Parser

/-!
# Reading configurations

A record is a group with its fields by name, or a list with its fields in their order.  Fields that
are missing take their defaults, and names that are not known do not count.  Nothing is converted:
a number is no text, and an integer has to fit its field.
-/

namespace PbrTelemetry

/-- What depends on where settings come from. -/
structure Dialect where
  /-- Whether a list may hold more than the fields of a record. -/
  allowsSurplus : Bool
  /-- Whether a setting can stand behind the name of a choice without content. -/
  isUnit : Setting → Bool

/-- The dialect of configuration texts: the content of a choice is empty. -/
def Dialect.toml : Dialect where
  allowsSurplus := true
  isUnit
    | .group entries => entries.isEmpty
    | .list items => items.isEmpty
    | _ => false

/-- The dialect of JSON trees: the content of a choice is null. -/
def Dialect.json : Dialect where
  allowsSurplus := false
  isUnit
    | .absent => true
    | _ => false

namespace Setting

/-! ## Simple settings -/

def text? : Setting → Option String
  | .text value => some value
  | _ => none

def flag? : Setting → Option Bool
  | .flag value => some value
  | _ => none

/-- The natural number below a bound that a setting holds. -/
def natural? (bound : Nat) : Setting → Option Nat
  | .integer value => if 0 ≤ value ∧ value < bound then some value.toNat else none
  | _ => none

def word64? (setting : Setting) : Option UInt64 :=
  (setting.natural? (Nat.pow 2 64)).map UInt64.ofNat

def word32? (setting : Setting) : Option UInt32 :=
  (setting.natural? (Nat.pow 2 32)).map UInt32.ofNat

def optional? {α : Type} (read : Setting → Option α) : Setting → Option (Option α)
  | .absent => some none
  | setting => (read setting).map some

def list? {α : Type} (read : Setting → Option α) : Setting → Option (List α)
  | .list items => items.mapM read
  | _ => none

def modeOfName? (name : String) : Option StreamMode :=
  if name = "stream" then some .stream
  else if name = "once" then some .once
  else none

/-- A mode: its name, or a group of one entry with that name. -/
def mode? (dialect : Dialect) : Setting → Option StreamMode
  | .text name => modeOfName? name
  | .group [(name, content)] => do
    let mode ← modeOfName? name
    if dialect.isUnit content then some mode else none
  | _ => none

/-! ## Records -/

def fields? (dialect : Dialect) (names : List String) :
    Setting → Option (List (String × Setting))
  | .group entries => some entries
  | .list items =>
    if dialect.allowsSurplus ∨ items.length ≤ names.length then some (names.zip items) else none
  | _ => none

def field {α : Type} (fields : List (String × Setting)) (name : String)
    (read : Setting → Option α) (default : α) : Option α :=
  match findEntry name fields with
  | some setting => read setting
  | none => some default

def requiredField {α : Type} (fields : List (String × Setting)) (name : String)
    (read : Setting → Option α) : Option α :=
  (findEntry name fields).bind read

def connectionFields : List String :=
  ["server_address", "tls", "root_cert_path", "private_key_path", "cert_chain_path"]

def channelArgs? (dialect : Dialect) (setting : Setting) : Option ChannelArgs := do
  let fields ← setting.fields? dialect connectionFields
  return {
    serverAddress := ← field fields "server_address" text? defaultServerAddress
    tls := ← field fields "tls" flag? false
    rootCertPath := ← field fields "root_cert_path" (optional? text?) none
    privateKeyPath := ← field fields "private_key_path" (optional? text?) none
    certChainPath := ← field fields "cert_chain_path" (optional? text?) none }

def subscriptionFields : List String :=
  ["sample_interval_nsec", "encoding", "mode", "timeout_secs", "connect_retries",
    "retry_interval_secs"]

def subscriptionConfig? (dialect : Dialect) (setting : Setting) :
    Option SubscriptionConfig := do
  let fields ← setting.fields? dialect subscriptionFields
  let standard : SubscriptionConfig := {}
  return {
    sampleInterval := ← field fields "sample_interval_nsec" word64? standard.sampleInterval
    encoding := ← field fields "encoding" text? standard.encoding
    mode := ← field fields "mode" (mode? dialect) standard.mode
    timeoutSecs := ← field fields "timeout_secs" (optional? word64?) standard.timeoutSecs
    connectRetries := ← field fields "connect_retries" word32? standard.connectRetries
    retryIntervalSecs :=
      ← field fields "retry_interval_secs" word64? standard.retryIntervalSecs }

def pbrKey? (dialect : Dialect) (setting : Setting) : Option PbrKey := do
  let fields ← setting.fields? dialect ["policy", "rule"]
  return {
    policy := ← requiredField fields "policy" text?
    rule := ← requiredField fields "rule" text? }

def telemetryConfig? (dialect : Dialect) (setting : Setting) : Option TelemetryConfig := do
  let fields ← setting.fields? dialect ["connection", "subscription", "policies"]
  return {
    connection := ← field fields "connection" (channelArgs? dialect) {}
    subscription := ← field fields "subscription" (subscriptionConfig? dialect) {}
    policies := ← field fields "policies" (list? (pbrKey? dialect)) [] }

end Setting

namespace TelemetryConfig

def ofText? (text : List Char) : Option TelemetryConfig := do
  let entries ← Toml.parse? text
  Setting.telemetryConfig? .toml (.group (Toml.settingsOfEntries entries))

def ofJson? (tree : Json) : Option TelemetryConfig :=
  Setting.telemetryConfig? .json tree.setting

end TelemetryConfig

def ChannelArgs.ofJson? (tree : Json) : Option ChannelArgs :=
  Setting.channelArgs? .json tree.setting

end PbrTelemetry
