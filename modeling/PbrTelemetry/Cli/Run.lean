import PbrTelemetry.Cli.Arguments
import PbrTelemetry.Cli.LogFilter
import PbrTelemetry.Cli.Record
import PbrTelemetry.Simulation

/-!
# Running the program

The program loads its configuration, checks it, connects, and subscribes.  With the mode `once` it
prints all records when the call is over; with the mode `stream` it prints every record as it comes,
until the stream fails or its time is over.

Everything the program needs from outside stands in an `Environment`: files, connections, and the
server behind a connection.  A program that would wait forever is interrupted; that ends a stream
like the end of its time.
-/

namespace PbrTelemetry.Cli

structure Environment (m : Type → Type) where
  /-- The log filter that the surroundings set, which goes before the one of the command line. -/
  logFilter : Option String := none
  read : FileReader m
  connect : ChannelArgs → m Bool
  /-- What the server does, once there is a connection, and the reading of the clock by then. -/
  server : Simulation

structure Report where
  exit : Nat
  lines : List String := []
  error : Option String := none
  /-- The server after the run, if there was a connection. -/
  server : Option Simulation := none
  deriving Repr

structure Served where
  lines : List String := []
  failure : Option String := none
  /-- Whether the program broke down in the call, which has no time for its deadline. -/
  broken : Bool := false
  server : Simulation

/-! ## Setting up -/

/-- The policy rule of an argument: two names with a colon in between, neither of them empty. -/
def policy? (text : String) : Option PbrKey :=
  match Text.cut ':' text.toList with
  | some (policy, rule) =>
    if policy.isEmpty ∨ rule.isEmpty then none
    else some ⟨String.ofList policy, String.ofList rule⟩
  | none => none

def readPolicies : List String → Except String (List PbrKey)
  | [] => .ok []
  | text :: rest =>
    match policy? text with
    | some key => do
      let keys ← readPolicies rest
      return key :: keys
    | none => .error ("invalid policy '" ++ text ++ "', expected POLICY:RULE")

def configure (config : TelemetryConfig) (arguments : Arguments) :
    Except String TelemetryConfig := do
  let keys ← readPolicies arguments.policies
  let config : TelemetryConfig := {
    config with
    subscription :=
      { config.subscription with mode := arguments.mode.getD config.subscription.mode }
    policies := config.policies ++ keys }
  match config.validate with
  | .error error => throw error.report
  | .ok () =>
    if config.policies.isEmpty then throw "no policies configured"
    return config

def reported {m : Type → Type} [Monad m] {α : Type} (action : ExceptT SetupError m α) :
    ExceptT String m α := do
  match ← action.run with
  | .ok a => return a
  | .error error => throw error.report

/-! ## Subscribing -/

/-- A session with a server that refuses a call whose context cannot be sent. -/
def openSession (server : Simulation) (config : TelemetryConfig) (metadata : CallMetadata) :
    Simulation :=
  let openings := match metadata.headerFault? with
    | some status => .failure status :: server.openings
    | none => server.openings
  { server with
    openings
    session := { counter := { keys := config.policies }, now := server.session.now } }

def serveOnce (sim : Simulation) (metadata : CallMetadata) (rpcArgs : RpcArgs) (json : Bool) :
    Served :=
  match sim.perform (.registerOnce metadata rpcArgs) with
  | some (some (.ok ()), done) =>
    { lines := done.session.counter.stats.map (PbrStat.lineAs json), server := done }
  | some (some (.error error), done) =>
    { failure := some ("subscribe once failed: " ++ error.message), server := done }
  | some (none, done) =>
    if done.session.calls.any ClientCall.isBroken then { broken := true, server := done }
    else { failure := some "interrupted", server := done }
  | none => { failure := some "interrupted", server := sim }

def streamFailure? (sim : Simulation) : Option Status :=
  sim.session.handled.findSome? fun
    | .failure _ status => some status
    | .success _ _ => none

/-- Wait until the stream fails or its time is over: what happens first in at most `fuel` jumps to
the next deadline. -/
def watchStream (closing : Option Nat) : Nat → Simulation → Simulation
  | 0, sim => sim
  | fuel + 1, sim =>
    let sim := sim.settle
    if (streamFailure? sim).isSome then sim
    else
      match sim.deadlines.min?, closing with
      | some deadline, some moment =>
        if deadline ≤ moment then watchStream closing fuel (sim.passUntil deadline)
        else sim.passUntil moment
      | some deadline, none => watchStream closing fuel (sim.passUntil deadline)
      | none, some moment => sim.passUntil moment
      | none, none => sim

/-- Have records printed and failures noted. -/
def install (sim : Simulation) : Simulation :=
  (sim.attempt (.setFailureHandler { name := "failed" })).attempt
    (.setSuccessHandler { name := "print" })

/-- Watch a stream for the time that it may take. -/
def watch (started : Simulation) (duration : Option Duration) : Simulation :=
  watchStream (duration.map fun time => started.session.now + time.nanos)
    (started.session.tasks.length + 1) started

def closeStream (watched : Simulation) : Simulation :=
  match watched.perform .close with
  | some (_, closed) => closed
  | none => watched

/-- What came of a stream: a line for every record, and its first failure until it was closed. -/
def streamServed (watched : Simulation) (json : Bool) : Served :=
  let closed := closeStream watched
  { lines := closed.session.handled.filterMap fun
      | .success _ counter => counter.stats.getLast?.map (PbrStat.lineAs json)
      | .failure _ _ => none
    failure := (streamFailure? watched).map fun status =>
      "subscription stream failed: " ++ status.message ++ " (" ++ status.code.name ++ ")"
    server := closed }

def serveStream (sim : Simulation) (metadata : CallMetadata) (rpcArgs : RpcArgs)
    (arguments : Arguments) : Served :=
  match (install sim).startCall (.registerStream metadata rpcArgs) with
  | none => { failure := some "interrupted", server := install sim }
  | some (id, started) =>
    match started.outcome? id with
    | some (.error error) =>
      { failure := some ("failed to start subscription stream: " ++ error.message),
        server := started }
    | _ =>
      let duration := arguments.durationSecs.map fun n => Duration.ofSeconds n.toNat
      streamServed (watch started duration) arguments.json

def serve (server : Simulation) (config : TelemetryConfig) (arguments : Arguments) : Served :=
  let metadata : CallMetadata := {
    username := arguments.username, password := arguments.password, timeout := config.timeout }
  let sim := openSession server config metadata
  match config.rpcArgs.mode with
  | .once => serveOnce sim metadata config.rpcArgs arguments.json
  | .stream => serveStream sim metadata config.rpcArgs arguments

/-! ## The program -/

variable {m : Type → Type} [Monad m]

def runWith (environment : Environment m) (arguments : Arguments) : ExceptT String m Served := do
  let loaded ← reported (TelemetryConfig.loadOrDefault environment.read arguments.config)
  let config ← ExceptT.mk (pure (configure loaded arguments))
  reported (config.connection.check environment.read)
  let isReady ← ChannelArgs.waitForReady (environment.connect config.connection)
    config.subscription.connectRetries.toNat
  if !isReady then throw ("gNMI server " ++ config.connection.serverAddress ++ " not reachable")
  return serve environment.server config arguments

def run (environment : Environment m) (words : List String) : m Report := do
  match Command.ofWords words with
  | .misuse => return { exit := 2 }
  | .showVersion => return { exit := 0, lines := [versionLine] }
  | .showHelp => return { exit := 0, lines := helpLines }
  | .run arguments =>
    match LogFilter.choose? environment.logFilter arguments.logLevel with
    | none => return { exit := 1 }
    | some filter =>
      let shown (error : String) := if filter.showsErrors then some error else none
      match ← (runWith environment arguments).run with
      | .error error => return { exit := 1, error := shown error }
      | .ok served =>
        return {
          exit := if served.broken then 101 else if served.failure.isSome then 1 else 0
          lines := served.lines
          error := served.failure.bind shown
          server := some served.server }

end PbrTelemetry.Cli
