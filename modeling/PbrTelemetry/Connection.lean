import PbrTelemetry.Connection.Address
import PbrTelemetry.Counter

/-!
# Connections

The arguments of a connection to a target, and the checks before it is used.  Certificates are read
when the connection is made; the network is not touched before the first attempt to connect.
-/

namespace PbrTelemetry

/-! ## What can fail -/

inductive FileFault where
  | notFound
  | isDirectory
  | notText
  | other (reason : String)
  deriving DecidableEq, Repr

def FileFault.message : FileFault → String
  | notFound => "No such file or directory (os error 2)"
  | isDirectory => "Is a directory (os error 21)"
  | notText => "stream did not contain valid UTF-8"
  | other reason => reason

inductive ConfigFault where
  | emptyAddress
  /-- Encryption is asked for without a root certificate. -/
  | missingRootCertificate
  | zeroInterval
  | unsupportedEncoding (name : String)
  | incompletePolicy (key : PbrKey)
  /-- Encryption is switched on without a root certificate. -/
  | noRootCertificate
  /-- A private key without its certificates, or the other way round. -/
  | unpairedIdentity
  | invalidAddress (address : String)
  | unreadable
  | unwritable
  | other (reason : String)
  deriving DecidableEq, Repr

def ConfigFault.reason : ConfigFault → String
  | emptyAddress => "server_address must not be empty"
  | missingRootCertificate => "root_cert_path is required when tls is enabled"
  | zeroInterval => "sample_interval_nsec must be > 0"
  | unsupportedEncoding name =>
    "unsupported encoding '" ++ name ++ "', expected proto or json_ietf"
  | incompletePolicy key =>
    "policy entry PbrKey \x7b policy: " ++ Text.quoted key.policy ++ ", rule: "
      ++ Text.quoted key.rule ++ " \x7d needs both policy and rule"
  | noRootCertificate => "TLS enabled but no root certificate path given"
  | unpairedIdentity => "private key and certificate chain must be given together"
  | invalidAddress address => "invalid server address '" ++ address ++ "'"
  | unreadable => "Failed to parse config file"
  | unwritable => "Failed to serialize config"
  | other reason => reason

inductive SetupError where
  | configuration (fault : ConfigFault)
  | certificateRead (path : String) (fault : FileFault)
  | transport
  | file (fault : FileFault)
  deriving DecidableEq, Repr

def SetupError.message : SetupError → String
  | configuration fault => "Configuration error: " ++ fault.reason
  | certificateRead path fault => "Failed to read " ++ path ++ ": " ++ fault.message
  | transport => "Transport error: transport error"
  | file fault => "IO error: " ++ fault.message

/-- The error in words, with its cause behind it. -/
def SetupError.report : SetupError → String
  | certificateRead path fault =>
    (certificateRead path fault).message ++ ": " ++ fault.message
  | file fault => (file fault).message ++ ": " ++ fault.message
  | transport => transport.message ++ ": transport error"
  | configuration fault => (configuration fault).message

/-! ## Connecting -/

def defaultServerAddress : String := "127.0.0.1:57400"

structure ChannelArgs where
  serverAddress : String := defaultServerAddress
  tls : Bool := false
  rootCertPath : Option String := none
  privateKeyPath : Option String := none
  certChainPath : Option String := none
  deriving DecidableEq, Repr, Inhabited

abbrev FileReader (m : Type → Type) := String → m (Except FileFault (List UInt8))

def occurrences (mark : List UInt8) : List UInt8 → Nat
  | [] => 0
  | byte :: rest =>
    (if mark.isPrefixOf (byte :: rest) then 1 else 0) + occurrences mark rest

/-- Whether every section of a certificate file is closed; one that is not cannot be used. -/
def certificatesClosed (content : List UInt8) : Bool :=
  occurrences "-----BEGIN ".toUTF8.data.toList content
    == occurrences "-----END ".toUTF8.data.toList content

namespace ChannelArgs

variable {m : Type → Type} [Monad m]

def scheme (args : ChannelArgs) : String := if args.tls then "https" else "http"

def readCertificate (read : FileReader m) (path : String) :
    ExceptT SetupError m (List UInt8) := do
  match ← read path with
  | .ok content => return content
  | .error fault => throw (.certificateRead path fault)

def readCertificates (read : FileReader m) (args : ChannelArgs) :
    ExceptT SetupError m (List (List UInt8)) := do
  let some root := args.rootCertPath | throw (.configuration .noRootCertificate)
  let root ← readCertificate read root
  match args.privateKeyPath, args.certChainPath with
  | some key, some chain => do
    let chain ← readCertificate read chain
    let key ← readCertificate read key
    return [root, chain, key]
  | none, none => return [root]
  | _, _ => throw (.configuration .unpairedIdentity)

def check (read : FileReader m) (args : ChannelArgs) : ExceptT SetupError m Unit := do
  if !Address.isValid args.scheme args.serverAddress then
    throw (.configuration (.invalidAddress args.serverAddress))
  if args.tls then
    let certificates ← readCertificates read args
    if !certificates.all certificatesClosed then throw .transport

/-- Try to connect, at most `retries` times, until an attempt succeeds. -/
def waitForReady (attempt : m Bool) : Nat → m Bool
  | 0 => return false
  | retries + 1 => do
    if ← attempt then return true
    waitForReady attempt retries

end ChannelArgs

end PbrTelemetry
