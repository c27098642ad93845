import PbrTelemetry.Decode.Error
import PbrTelemetry.Decode.Flatten
import PbrTelemetry.Json.Parser
import PbrTelemetry.Message.Notification
import PbrTelemetry.Path.Text

/-!
# Decoding one update

An update with a JSON payload yields the leaves of the payload.  Any other update yields one leaf:
its own path with its value as text.
-/

namespace PbrTelemetry

/-- Scalar doubles are written in full, without exponent, and whole ones without a point; of two
equally near decimals the larger one. -/
def TypedValue.doubleLayout : Binary64.Layout where
  tie := .up
  positional := none
  keepsFraction := false

def TypedValue.unsupportedText : String := "unsupported_type"

def TypedValue.scalarText : TypedValue → String
  | .uint value => String.ofList (Nat.toDigits 10 value.toNat)
  | .int value => Json.renderInteger value.toInt
  | .string text => text
  | .bool true => "true"
  | .bool false => "false"
  | .double value => String.ofList (value.render doubleLayout)
  | _ => unsupportedText

def TypedValue.jsonIetf? : TypedValue → Option (List UInt8)
  | .jsonIetf payload => some payload
  | _ => none

def decodePayload (payload : List UInt8) : Except DecodeError FlatMap :=
  match Json.parseBytes? payload with
  | some tree => .ok tree.flatten
  | none => .error .syntaxFault

/-- The flat map of an update's JSON payload; without one the update has an empty payload. -/
def Update.decodeJson (update : Update) : Except DecodeError FlatMap :=
  decodePayload ((update.val.bind TypedValue.jsonIetf?).getD [])

/-- The leaf of an update with a scalar value.  Without a path its key is empty. -/
def Update.decodeScalar (update : Update) : String × String :=
  ((update.path.map Path.render).getD "",
    (update.val.map TypedValue.scalarText).getD TypedValue.unsupportedText)

end PbrTelemetry
