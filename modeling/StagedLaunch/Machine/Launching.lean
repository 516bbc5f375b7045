import StagedLaunch.Machine.Build
import StagedLaunch.Machine.Output
import StagedLaunch.Machine.Readiness
import StagedLaunch.Machine.Termination
import StagedLaunch.Supervisor.Basic

/-!
# Runs on a machine

To launch a process its output files are opened and its program is started. `Machine.environment` is a machine as the
surroundings of a run.
-/

namespace StagedLaunch.Machine

variable {σ : Type}

/-- Launches a process. -/
def launch (m : Machine σ) (spec : LaunchSpec) (w : Watched σ) : Launch MachineNotice (Watched σ) Child :=
  match spec.output.open (m.files w.machine) with
  | (.error e, t) => ⟨[.opening spec.output], 0, { w with machine := m.withFiles t w.machine }, .error e⟩
  | (.ok places, t) =>
    match m.spawn spec.program spec.args places (m.withFiles t w.machine) with
    | (.error e, s) =>
      ⟨[.opening spec.output], 0, { w with machine := s }, .error (.spawn spec.name spec.program e)⟩
    | (.ok pid, s) =>
      ⟨[.opening spec.output, .started spec pid,
          .logged ⟨.info, "process started",
            [("process", .text spec.name), ("role", .quoted spec.role.binary), ("pid", .number pid),
             ("cmd", .text spec.commandLine)]⟩],
        0, { w with machine := s, launches := w.launches + 1 }, .ok ⟨spec, w.launches, pid⟩⟩

/-- Moves a machine on. -/
def elapseWatched (m : Machine σ) (now later : Nat) (w : Watched σ) : Watched σ :=
  { w with machine := m.elapse now later w.machine }

/-- A machine as the surroundings of a run. -/
def environment (m : Machine σ) (stage : BuildStage) : Environment MachineNotice (Watched σ) Child where
  elapse := m.elapseWatched
  build := stage.build m
  launch := fun spec _ w => m.launch spec w
  name := fun c => c.spec.name
  pid := Child.pid?
  waitReady := Child.waitReady m
  terminate := Child.terminate m

end StagedLaunch.Machine
