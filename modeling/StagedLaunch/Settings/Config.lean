import StagedLaunch.Plan.Spec

/-!
# What a configuration file can set

Every field may be absent. How the server shows that it is ready is given without the port, which comes from elsewhere.
-/

namespace StagedLaunch

/-- How the server shows that it is ready. -/
inductive ServerReady where
  /-- Its UDP port is bound. -/
  | udpBound
  /-- It accepts TCP connections. -/
  | tcp
  /-- A line of its standard output matches a pattern. -/
  | log (pattern : String)
  /-- A number of milliseconds has passed. -/
  | delay (ms : UInt64)
deriving DecidableEq, Repr

/-- The check for a server on a port. -/
def ServerReady.check (ready : ServerReady) (port : UInt16) : ReadyCheck :=
  match ready with
  | .udpBound => .udpBound port
  | .tcp => .tcp port
  | .log pattern => .log pattern
  | .delay ms => .delay ms.toNat

/-- The build settings of a configuration file. -/
structure BuildConfig where
  /-- The command that configures. -/
  configure : Option String
  /-- The command that compiles. -/
  compile : Option String
  /-- Whether to leave the build out. -/
  skip : Option Bool
deriving DecidableEq, Repr, Inhabited

/-- The settings of a configuration file. -/
structure Config where
  /-- The build directory. -/
  buildDir : Option String
  /-- The directory of the project's sources. -/
  projectRoot : Option String
  /-- The directory of output files. -/
  logDir : Option String
  /-- The host that clients are told. -/
  host : Option String
  /-- The port of the server. -/
  port : Option UInt16
  /-- The length of the run window, in seconds. -/
  runSecs : Option UInt64
  /-- How long groups settle, in milliseconds. -/
  settleMs : Option UInt64
  /-- How long to wait for readiness, in milliseconds. -/
  readyTimeoutMs : Option UInt64
  /-- Whether to wait for readiness. -/
  readiness : Option Bool
  /-- How the server shows that it is ready. -/
  serverReady : Option ServerReady
  /-- The time to react to an interrupt, in milliseconds. -/
  interruptMs : Option UInt64
  /-- The time to react to the signal to terminate, in milliseconds. -/
  terminateMs : Option UInt64
  /-- The build settings. -/
  build : Option BuildConfig
deriving DecidableEq, Repr

/-- The configuration that sets nothing. -/
def Config.empty : Config :=
  ⟨none, none, none, none, none, none, none, none, none, none, none, none, none⟩

end StagedLaunch
