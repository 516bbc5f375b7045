import StagedLaunch.Machine.Launching
import StagedLaunch.Settings.DryRun
import StagedLaunch.Settings.Load
import StagedLaunch.Supervisor.Interrupt

/-!
# The program

What the program does with its arguments on a machine: it rejects them, shows what it would do, or supervises a run. It
follows the signals that are delivered to it, from the end of the build on; before that a signal ends it.
-/

namespace StagedLaunch

/-- What a run of the settings is to be like. -/
def Settings.runOptions (s : Settings) : RunOptions :=
  ⟨1000 * s.runSecs.toNat, s.readyTimeoutMs.toNat, s.shutdown⟩

namespace Program

/-- How the program is called. -/
structure Call where
  /-- The arguments. -/
  args : List String
  /-- The level that the environment asks for. -/
  level : Option String
  /-- The signals that are delivered to the program. -/
  deliveries : List Interrupt.Delivery

/-- What has become of the program. -/
structure Outcome (σ : Type) where
  /-- The exit status, absent if a signal ended the program. -/
  status : Option Nat
  /-- The standard output with its instants, in order. -/
  output : List (Nat × List UInt8)
  /-- The log. -/
  records : List Record
  /-- The error that is shown at the end. -/
  error : Option String
  /-- What a run has told, in order. -/
  notices : List (Nat × Notice MachineNotice)
  /-- The machine after it. -/
  machine : σ

variable {σ : Type}

/-- The lines on the standard error: the log, and then the error that ended the program, if one did. -/
def Outcome.errorLines (o : Outcome σ) : List String :=
  o.records.map Record.line ++ (o.error.map fun e => s!"greenhouse error: {e}").toList

/-- The program ends without a run. -/
def Outcome.atOnce (status : Nat) (output : String) (error : Option String) (s : σ) : Outcome σ :=
  ⟨some status, [(0, output.toUTF8.toList)], [], error, [], s⟩

/-- The line that gives the version. -/
def versionLine : String := "greenhouse 0.1.0\n"

/-- The text that helps with the arguments. -/
def helpText : String :=
  String.join ((["Build the simulation, launch every role in order, stop them after the run window", "",
    "Usage: greenhouse [OPTIONS] <RUN_CASE>", "", "Options:"] ++
    CommandLine.longNames.map fun e => "      --" ++ e.1 ++ if e.2.takesValue then " <VALUE>" else "").map (· ++ "\n"))

/-- What the program writes when it does not accept its arguments. -/
def rejectionText : CommandLine.Rejection → String
  | .version => versionLine
  | .help => helpText
  | _ => ""

/-- The log record of a run that begins. -/
def startRecord (s : Settings) : Record :=
  ⟨.info, "starting run", [("case", .text s.case.name), ("port", .number s.port.toNat)]⟩

/-- The instant from which a run listens for signals. -/
def listensFrom? (notices : List (Nat × Notice MachineNotice)) : Option Nat :=
  notices.findSome? fun n =>
    match n.2 with
    | .built (.ok ()) => some n.1
    | _ => none

/-- The delivery that ends the program, because nobody listens yet. -/
def fatal? (deliveries : List Interrupt.Delivery) (listens : Nat) : Option Interrupt.Delivery :=
  deliveries.find? fun d => d.1 < listens

/-- The records of notices. -/
def recordsOf (notices : List (Nat × Notice MachineNotice)) : List Record :=
  notices.filterMap fun n => n.2.record? MachineNotice.record?

/-- The standard output of notices. -/
def outputOf (notices : List (Nat × Notice MachineNotice)) : List (Nat × List UInt8) :=
  notices.map fun n => (n.1, n.2.output MachineNotice.output)

/-- The machine at an instant at which the program ends while it builds. -/
def machineWhileBuilding (m : Machine σ) (settings : Settings) (instant : Nat) (s : σ) : σ :=
  ((settings.buildStage.build m settings.plan).yielding.run m.elapseWatched (some instant) 0 (.fresh s)).state.machine

/-- Supervises a run of the settings. -/
def supervise (m : Machine σ) (call : Call) (level : Level) (settings : Settings) (s : σ) : Outcome σ :=
  let f := Supervisor.run (m.environment settings.buildStage) settings.runOptions settings.plan
    (Interrupt.ofDeliveries true call.deliveries) 0 (Watched.fresh s)
  let written (records : List Record) : List Record := records.filter fun r => r.level.isWritten level
  match fatal? call.deliveries ((listensFrom? f.events).getD f.now) with
  | some d =>
    let notices := f.events.takeWhile fun n => n.1 ≤ d.1
    { status := none
      output := outputOf notices
      records := written (startRecord settings :: recordsOf notices)
      error := none
      notices
      machine := machineWhileBuilding m settings d.1 s }
  | none =>
    { status := some (if f.failure.isSome then 1 else 0)
      output := outputOf f.events
      records := written (startRecord settings :: f.records MachineNotice.record?)
      error := f.failure.map LaunchError.chain
      notices := f.events
      machine := f.world.machine }

/-- Runs the program. -/
def run (m : Machine σ) (call : Call) (s : σ) : Outcome σ :=
  match Settings.load (m.files s) call.args with
  | .error (.commandLine r) => .atOnce r.exitStatus (rejectionText r) none s
  | .error (.config e) => .atOnce 1 "" (some e.message) s
  | .error (.build e) => .atOnce 1 "" (some e.message) s
  | .ok (c, settings) =>
    if c.dryRun then .atOnce 0 (DryRun.text settings) none s
    else supervise m call (Level.resolve c.logLevel call.level) settings s

end Program

end StagedLaunch
