import PbrTelemetry.Config.Reader
import PbrTelemetry.Config.Writer

/-!
# Configuration files

`loadOrDefault` reads a configuration from a file, and `save` writes one.  A file that does not
exist holds the default configuration.  A configuration that cannot be written leaves the file as
it was.
-/

namespace PbrTelemetry

abbrev FileWriter (m : Type → Type) := String → List UInt8 → m (Except FileFault Unit)

namespace TelemetryConfig

variable {m : Type → Type} [Monad m]

def defaultPath : String := "/etc/sonic/gnmi-telemetry.toml"

def ofBytes (content : List UInt8) : Except SetupError TelemetryConfig :=
  match String.fromUTF8? ⟨content.toArray⟩ with
  | none => .error (.file .notText)
  | some text =>
    match ofText? text.toList with
    | none => .error (.configuration .unreadable)
    | some config => .ok config

/-- The configuration in a file, or the default one if there is no such file. -/
def loadOrDefault (read : FileReader m) (path : String) :
    ExceptT SetupError m TelemetryConfig := do
  match ← read path with
  | .ok content => ofBytes content
  | .error .notFound => return {}
  | .error fault => throw (.file fault)

def save (write : FileWriter m) (config : TelemetryConfig) (path : String) :
    ExceptT SetupError m Unit := do
  if !config.isWritable then throw (.configuration .unwritable)
  match ← write path (String.ofList config.render).toUTF8.data.toList with
  | .ok () => return ()
  | .error fault => throw (.file fault)

end TelemetryConfig

end PbrTelemetry
