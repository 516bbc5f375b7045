import StagedLaunch.Plan.Basic
import StagedLaunch.Plan.BuildStep
import StagedLaunch.Settings.CommandLine
import StagedLaunch.Settings.Config
import StagedLaunch.Shutdown

/-!
# Settings of a run

The command line goes before the configuration file, and that before the defaults, field by field. The two build steps can be
overridden by commands from the configuration file.
-/

namespace StagedLaunch

/-- Everything that a run depends on. -/
structure Settings where
  /-- The case. -/
  case : RunCase
  /-- The port of the server. -/
  port : UInt16
  /-- The host that clients are told. -/
  host : String
  /-- The build directory. -/
  buildDir : String
  /-- The directory of output files. -/
  logDir : String
  /-- The length of the run window, in seconds. -/
  runSecs : UInt64
  /-- How long groups settle, in milliseconds. -/
  settleMs : UInt64
  /-- How long to wait for readiness, in milliseconds. -/
  readyTimeoutMs : UInt64
  /-- How the server shows that it is ready; absent if nobody waits for that. -/
  serverReady : Option ServerReady
  /-- How processes are stopped. -/
  shutdown : Shutdown
  /-- Leave the build out. -/
  skipBuild : Bool
  /-- The build steps, which are not run if the build is left out. -/
  buildSteps : List BuildStep
deriving DecidableEq, Repr

namespace Settings

/-- A build step: the one that a command stands for, if there is a command. -/
def overriddenStep (command : Option String) (standard : BuildStep) : Except BuildCommandError BuildStep :=
  match command with
  | some command => BuildStep.parse command
  | none => .ok standard

/-- The settings that a command line and a configuration give together. -/
def resolve (c : CommandLine) (k : Config) : Except BuildCommandError Settings := do
  let buildDir := (c.buildDir <|> k.buildDir).getD "build"
  let projectRoot := (c.projectRoot <|> k.projectRoot).getD "."
  let build := k.build.getD ⟨none, none, none⟩
  let configure ← overriddenStep build.configure (BuildStep.configure projectRoot buildDir)
  let compile ← overriddenStep build.compile (BuildStep.compile buildDir)
  let readiness := !c.noReadiness && k.readiness.getD true
  return {
    case := c.case
    port := (c.port <|> k.port).getD 12345
    host := (c.host <|> k.host).getD "127.0.0.1"
    buildDir := buildDir
    logDir := (c.logDir <|> k.logDir).getD "."
    runSecs := (c.runSecs <|> k.runSecs).getD 40
    settleMs := (c.settleMs <|> k.settleMs).getD 1000
    readyTimeoutMs := (c.readyTimeoutMs <|> k.readyTimeoutMs).getD 10000
    serverReady := if readiness then some (k.serverReady.getD .udpBound) else none
    shutdown :=
      ⟨(c.interruptMs <|> k.interruptMs).getD Shutdown.standard.interruptMs,
       (c.terminateMs <|> k.terminateMs).getD Shutdown.standard.terminateMs⟩
    skipBuild := c.skipBuild || build.skip.getD false
    buildSteps := [configure, compile] }

/-- What the plan depends on besides the case. -/
def planParameters (s : Settings) : Plan.Parameters where
  layout := ⟨s.buildDir, s.logDir⟩
  host := s.host
  port := s.port
  settle := s.settleMs.toNat
  serverReady := s.serverReady.map fun ready => ready.check s.port

/-- The plan of a run. -/
def plan (s : Settings) : Plan := Plan.ofCase s.case s.planParameters

/-- How the executables come about. -/
def buildStage (s : Settings) : BuildStage := if s.skipBuild then .prebuilt else .commands s.buildSteps

end Settings

end StagedLaunch
