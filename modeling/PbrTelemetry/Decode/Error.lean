import PbrTelemetry.Text.Quoted

/-!
# Decode errors

Why a response yields no record, or a request cannot be built.  Most causes have a code; the two
that come from the content of a payload have none.
-/

namespace PbrTelemetry

inductive DecodeError where
  | noNotification
  | noPrefix
  | noUpdate
  | noPolicyName
  | noRuleName
  | unsupportedEncoding (number : Int32)
  | unexpected (reason : String)
  | syntaxFault
  /-- The value of a number field is not a number. -/
  | conversion (key value : String)
  deriving DecidableEq, Repr

/-- What became of a response, without details. -/
inductive DecodeCode where
  | success
  | noNotification
  | noPrefix
  | noUpdate
  | noPolicyName
  | noRuleName
  | unsupportedEncoding
  | unknownError
  deriving DecidableEq, Repr

def DecodeCode.name : DecodeCode → String
  | success => "SUCCESS"
  | noNotification => "NO_NOTIFICATION"
  | noPrefix => "NO_PREFIX_IN_RESPONSE"
  | noUpdate => "NO_UPDATE_IN_NOTIFICATION"
  | noPolicyName => "NO_POLICY_NAME_IN_RESPONSE"
  | noRuleName => "NO_RULE_NAME_IN_RESPONSE"
  | unsupportedEncoding => "UNSUPPORTED_ENCODING"
  | unknownError => "UNKNOWN_ERROR"

namespace DecodeError

/-- The code of an error; faults of a payload have none. -/
def code? : DecodeError → Option DecodeCode
  | noNotification => some .noNotification
  | noPrefix => some .noPrefix
  | noUpdate => some .noUpdate
  | noPolicyName => some .noPolicyName
  | noRuleName => some .noRuleName
  | unsupportedEncoding _ => some .unsupportedEncoding
  | unexpected _ => some .unknownError
  | syntaxFault => none
  | conversion _ _ => none

/-- Whether the content of a payload is at fault. -/
def isFault (e : DecodeError) : Bool := e.code?.isNone

/-- The error in words.  For a fault in the syntax of a payload, the words in which a JSON library
says what and where it is, behind a colon, are left out. -/
def message : DecodeError → String
  | noNotification => "Response carried no notification"
  | noPrefix => "Response contained no prefix"
  | noUpdate => "Notification contained no update"
  | noPolicyName => "Could not find policy name on return path"
  | noRuleName => "Could not find rule name on return path"
  | unsupportedEncoding number => "Unsupported encoding: " ++ toString number.toInt
  | unexpected reason => "Unexpected response: " ++ reason
  | syntaxFault => "Malformed JSON IETF payload"
  | conversion key value =>
    "Field '" ++ key ++ "' is not an unsigned integer: " ++ Text.quoted value

end DecodeError

end PbrTelemetry
