import StagedLaunch.LaunchError
import StagedLaunch.Log
import StagedLaunch.Plan.Basic
import StagedLaunch.Shutdown
import StagedLaunch.Text.Binary64

/-!
# What a run tells

A run gives notices: changes of its state, calls of what builds, launches, waits and stops, their answers, and what is said
on the way. The log, the progress lines and the trace of calls are views of one sequence of notices.
-/

namespace StagedLaunch

/-- Where a run stands. -/
inductive RunState where
  /-- Before the start. -/
  | idle
  /-- The build runs. -/
  | building
  /-- A group is launched. -/
  | launching (group : Nat)
  /-- Everything runs. -/
  | running
  /-- Processes are stopped. -/
  | terminating
  /-- The end. -/
  | done
deriving DecidableEq, Repr

/-- The text of a state. -/
def RunState.render : RunState → String
  | .idle => "Idle"
  | .building => "Building"
  | .launching group => "Launching \x7b group: " ++ toString group ++ " \x7d"
  | .running => "Running"
  | .terminating => "Terminating"
  | .done => "Done"

/-- Something that a run tells; `ε` is what the surroundings tell. -/
inductive Notice (ε : Type) where
  /-- The state changes. -/
  | state (old new : RunState)
  /-- The build is called. -/
  | building
  /-- The build has answered. -/
  | built (result : Except LaunchError Unit)
  /-- A group is announced. -/
  | announced (label : String)
  /-- A launch is called. -/
  | launching (spec : LaunchSpec)
  /-- A launch has answered with the name and the number of the process. -/
  | launched (spec : LaunchSpec) (result : Except LaunchError (String × Option Nat))
  /-- A readiness check is called. -/
  | awaiting (spec : LaunchSpec) (check : ReadyCheck) (timeout : Nat)
  /-- A readiness check has answered. -/
  | ready (spec : LaunchSpec) (result : Except LaunchError Unit)
  /-- A group settles. -/
  | settling (label : String) (ms : Nat)
  /-- The run window begins. -/
  | running (processes ms : Nat)
  /-- The run window is over. -/
  | windowOver
  /-- A signal has interrupted the run. -/
  | signalled (signal : StopSignal)
  /-- The run window was interrupted. -/
  | stoppedEarly
  /-- The run has failed. -/
  | failed (e : LaunchError)
  /-- A process is stopped. -/
  | terminating (name : String) (shutdown : Shutdown)
  /-- Stopping a process has come to an end. -/
  | terminated (name : String) (outcome : StopOutcome)
  /-- The surroundings tell something. -/
  | told (e : ε)

/-- A length of time as seconds: whole seconds and the rest are rounded one after the other. -/
def renderSeconds (ms : Nat) : String :=
  let value := do
    let whole ← Binary64.ofQuotient? (ms / 1000) 1
    let part ← Binary64.ofQuotient? (ms % 1000) 1000
    Binary64.ofQuotient?
      (whole.numerator * part.denominator + part.numerator * whole.denominator) (whole.denominator * part.denominator)
  (value.map Binary64.display).getD ""

namespace Notice

variable {ε : Type}

/-- The log record of a notice, if it has one. -/
def record? (inner : ε → Option Record) : Notice ε → Option Record
  | .state old new => some ⟨.debug, "run state", [("from", .text old.render), ("to", .text new.render)]⟩
  | .awaiting spec check _ =>
    some ⟨.debug, "waiting for readiness", [("process", .text spec.name), ("check", .text check.render)]⟩
  | .settling label ms => some ⟨.debug, "settling", [("group", .quoted label), ("ms", .number ms)]⟩
  | .running processes ms =>
    some ⟨.info, "all processes launched; running",
      [("processes", .number processes), ("seconds", .text (renderSeconds ms))]⟩
  | .windowOver => some ⟨.info, "run window elapsed", []⟩
  | .signalled signal => some ⟨.info, s!"received {signal.label}", []⟩
  | .stoppedEarly => some ⟨.warn, "interrupted; stopping early", []⟩
  | .failed e => some ⟨.warn, "run failed; stopping launched processes", [("error", .text e.message)]⟩
  | .terminated name (.failed error) =>
    some ⟨.warn, "failed to stop process", [("process", .quoted name), ("error", .text error)]⟩
  | .terminated name outcome =>
    some ⟨.debug, "process stopped", [("process", .quoted name), ("outcome", .text outcome.render)]⟩
  | .told e => inner e
  | _ => none

/-- The text that a notice adds to the standard output. -/
def output (inner : ε → List UInt8) : Notice ε → List UInt8
  | .announced label => (s!"Launching {label}\n").toUTF8.toList
  | .told e => inner e
  | _ => []

/-- The call that a notice tells of, with the name of the process it is about; for the build, with that of the case. -/
def call? (case : RunCase) : Notice ε → Option (String × String)
  | .building => some ("build", case.name)
  | .launching spec => some (s!"launch {spec.commandLine}", spec.name)
  | .awaiting spec check timeout => some (s!"wait_ready {check.render} {timeout}ms", spec.name)
  | .ready spec (.ok _) => some ("ready", spec.name)
  | .terminating name shutdown => some (s!"terminate {shutdown.interruptMs}/{shutdown.terminateMs}", name)
  | _ => none

end Notice

end StagedLaunch
