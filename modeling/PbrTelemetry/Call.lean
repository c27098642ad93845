import PbrTelemetry.Duration
import PbrTelemetry.Status
import PbrTelemetry.Text.Quoted

/-!
# Calls

What goes with every call to a target: who calls, and how long the call may take.
-/

namespace PbrTelemetry

structure CallMetadata where
  username : String
  password : String
  timeout : Option Duration := none
  deriving DecidableEq, Repr, Inhabited

namespace CallMetadata

def hasCredentials (call : CallMetadata) : Bool := call.username ≠ "" ∧ call.password ≠ ""

/-- The context for readers, without the password. -/
def describe (call : CallMetadata) : String :=
  let timeout := match call.timeout with
    | none => "None"
    | some t => "Some(" ++ t.render ++ ")"
  "CallMetadata \x7b username: " ++ Text.quoted call.username
    ++ ", password: \"<redacted>\", timeout: " ++ timeout ++ " \x7d"

/-- Whether a text can be sent as the value of a header: printable ASCII and tabs. -/
def isHeaderText (text : String) : Bool :=
  text.toList.all fun c => (' ' ≤ c && c ≤ '~') || c = '\t'

def headerFault? (call : CallMetadata) : Option Status :=
  if !isHeaderText call.username then
    some ⟨.invalidArgument, "username is not valid ASCII metadata"⟩
  else if !isHeaderText call.password then
    some ⟨.invalidArgument, "password is not valid ASCII metadata"⟩
  else none

end CallMetadata

end PbrTelemetry
