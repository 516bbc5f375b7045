import StagedLaunch.Machine.Child
import StagedLaunch.Plan.Basic

/-!
# Building

The build steps are run one after the other up to the first that fails; then every executable of the plan must be there.
-/

namespace StagedLaunch

/-- Every executable of a plan is a file; if not, the first one that is missing is named. -/
def FileTree.verify (t : FileTree) (plan : Plan) : Except LaunchError Unit :=
  match plan.specs.find? fun spec => !t.isFile spec.program with
  | some spec => .error (.missingExecutable spec.name spec.program)
  | none => .ok ()

namespace BuildStage

variable {σ : Type}

/-- Lets the output of a build command appear, and gives its end. -/
def follow (r : CommandRun σ) : List (Nat × List UInt8) → MachineAct σ (Except OsError ExitStatus)
  | [] => do
    Activity.busy r.rest
    return r.result
  | (ms, bytes) :: more => do
    Activity.busy ms
    Activity.tell (.printed bytes)
    follow r more

/-- Runs one build step. -/
def runStep (m : Machine σ) (step : BuildStep) : MachineAct σ (Except LaunchError Unit) := do
  logRecord ⟨.info, "running build step", [("step", .text step.commandLine)]⟩
  Activity.tell (.running step)
  let r ← Activity.act fun _ w =>
    let r := m.command step w.machine
    (r, { w with machine := r.state })
  match ← follow r r.output with
  | .error e => return .error (.buildSpawn step.commandLine e)
  | .ok status =>
    if status.success then
      logRecord ⟨.debug, "build step finished", [("step", .text step.commandLine)]⟩
      return .ok ()
    else return .error (.buildFailed step.commandLine status.code?)

/-- Runs build steps up to the first that fails. -/
def runSteps (m : Machine σ) : List BuildStep → MachineAct σ (Except LaunchError Unit)
  | [] => return .ok ()
  | step :: rest => do
    match ← runStep m step with
    | .error e => return .error e
    | .ok () => runSteps m rest

/-- Looks for the executables of a plan. -/
def verify (m : Machine σ) (plan : Plan) : MachineAct σ (Except LaunchError Unit) :=
  Activity.look fun _ w => (m.files w.machine).verify plan

/-- Builds what a plan needs. -/
def build (m : Machine σ) (stage : BuildStage) (plan : Plan) : MachineAct σ (Except LaunchError Unit) :=
  match stage with
  | .prebuilt => verify m plan
  | .commands steps => do
    match ← runSteps m steps with
    | .error e => return .error e
    | .ok () => verify m plan

end BuildStage

end StagedLaunch
