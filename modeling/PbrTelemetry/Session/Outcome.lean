import PbrTelemetry.Decode.Error
import PbrTelemetry.Status

/-!
# Outcomes of session calls

A call of a session succeeds, or it fails in one of three ways: it was refused before anything was
sent, its request could not be written, or the remote call ended with a status.
-/

namespace PbrTelemetry

inductive ClientFault where
  /-- The session is bound to a counter of another family. -/
  | wrongCounter (tag : String)
  | missingCredentials
  /-- There is no request with these options. -/
  | unusableRequest (error : DecodeError)
  | other (reason : String)
  deriving DecidableEq, Repr

def ClientFault.reason : ClientFault → String
  | wrongCounter tag => "unsupported counter tag '" ++ tag ++ "'"
  | missingCredentials => "missing username or password"
  | unusableRequest error => "cannot build subscribe request: " ++ error.message
  | other reason => reason

inductive SessionError where
  | clientType (fault : ClientFault)
  | writesFailed
  | rpcFailure (status : Status)
  deriving DecidableEq, Repr

namespace SessionError

def message : SessionError → String
  | clientType fault => "Client type failure: " ++ fault.reason
  | writesFailed => "Subscribe request write failed"
  | rpcFailure status => "Subscribe rpc failed: " ++ status.message

def status? : SessionError → Option Status
  | rpcFailure status => some status
  | _ => none

end SessionError

abbrev Outcome := Except SessionError Unit

def Outcome.ofStatus (status : Status) : Outcome :=
  if status.code = .ok then .ok () else .error (.rpcFailure status)

end PbrTelemetry
