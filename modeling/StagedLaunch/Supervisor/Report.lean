import StagedLaunch.Supervisor.Notice

/-!
# The report of a run

Which processes were launched and when, and how each of them ended.
-/

namespace StagedLaunch

/-- A process that was launched. -/
structure LaunchRecord where
  /-- Its name. -/
  name : String
  /-- Its number, if it had one. -/
  pid : Option Nat
  /-- When it was launched, in milliseconds from the start of the run. -/
  offset : Nat
deriving DecidableEq, Repr

/-- A process that was stopped. -/
structure StopRecord where
  /-- Its name. -/
  name : String
  /-- How it ended. -/
  outcome : StopOutcome
deriving DecidableEq, Repr

/-- The report of a run. -/
structure Report where
  /-- The case. -/
  case : RunCase
  /-- The processes that were launched, in order. -/
  launched : List LaunchRecord
  /-- The processes that were stopped, in order. -/
  terminated : List StopRecord
  /-- The run was interrupted. -/
  interrupted : Bool
  /-- Where the run stands. -/
  state : RunState
deriving DecidableEq, Repr

/-- The log record of a launch. Its time is kept in 64 bits. -/
def LaunchRecord.record (r : LaunchRecord) : Record :=
  ⟨.info, "launched",
    [("process", .text r.name), ("pid", .number (r.pid.getD 0)), ("at_ms", .number (r.offset % UInt64.size))]⟩

/-- The log record of a stop. -/
def StopRecord.record (r : StopRecord) : Record :=
  match r.outcome with
  | .alreadyExited code => ⟨.warn, "had already exited", [("process", .text r.name), ("code", .text (renderCode code))]⟩
  | .stopped signal => ⟨.info, "stopped", [("process", .text r.name), ("signal", .quoted signal.label)]⟩
  | .killed => ⟨.warn, "killed", [("process", .text r.name)]⟩
  | .failed error => ⟨.warn, "could not be stopped", [("process", .text r.name), ("error", .text error)]⟩

/-- The log records of a report: the launches, the stops, and a summary. -/
def Report.records (r : Report) : List Record :=
  r.launched.map LaunchRecord.record ++ r.terminated.map StopRecord.record ++
    [⟨.info, "run finished",
      [("case", .text r.case.name), ("processes", .number r.terminated.length), ("interrupted", .truth r.interrupted),
       ("state", .text r.state.render)]⟩]

end StagedLaunch
