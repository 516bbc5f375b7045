import StagedLaunch.Machine.Child

/-!
# Stopping a launched process

A process that has exited is left alone. Otherwise it gets one signal after another, each sent to its group and then to
itself, and is killed when no stage has ended it.
-/

namespace StagedLaunch

/-- How long to wait for a process that was killed, in milliseconds. -/
def killWait : Nat := 500

namespace Child

variable {σ : Type}

/-- Sends a signal to the group of a process, unless its exit has been seen. -/
def signalGroup (m : Machine σ) (c : Child) (signal : Signal) : MachineAct σ Unit :=
  .read fun _ w =>
    match c.pid? w with
    | some pid => do
      Activity.tell (.signalledGroup pid signal)
      Activity.change fun _ w => { w with machine := m.signalGroup pid signal w.machine }
    | none => return ()

/-- Sends a signal to a process, unless its exit has been seen. -/
def signal (m : Machine σ) (c : Child) (signal : Signal) : MachineAct σ (Except OsError Unit) :=
  .read fun _ w =>
    match c.pid? w with
    | some pid => do
      Activity.tell (.signalled pid signal)
      Activity.act fun _ w =>
        let (r, s) := m.signal pid signal w.machine
        (r, { w with machine := s })
    | none => return .error (.refused "invalid argument: can't kill an exited process")

/-- Says that a signal is sent, unless the exit of the process has been seen. -/
def announce (c : Child) (signal : StopSignal) : MachineAct σ Unit :=
  .read fun _ w =>
    match c.pid? w with
    | some pid =>
      logRecord ⟨.debug, "sending signal",
        [("process", .text c.spec.name), ("pid", .number pid), ("signal", .quoted signal.label)]⟩
    | none => return ()

/-- One stage of a shutdown: the outcome, if the process ended or cannot be waited for. -/
def stopStage (m : Machine σ) (c : Child) (signal : StopSignal) (ms : Nat) : MachineAct σ (Option StopOutcome) := do
  c.announce signal
  c.signalGroup m signal.signal
  let _ ← c.signal m signal.signal
  match ← c.awaitExit m ms with
  | .ok (some _) => return some (.stopped signal)
  | .ok none => return none
  | .error e => return some (.failed e.message)

/-- The stages of a shutdown, one after the other, up to the one that has an outcome. -/
def stopStages (m : Machine σ) (c : Child) : List (StopSignal × Nat) → MachineAct σ (Option StopOutcome)
  | [] => return none
  | (signal, ms) :: rest => do
    match ← c.stopStage m signal ms with
    | some outcome => return some outcome
    | none => stopStages m c rest

/-- Kills a process with its group. -/
def kill (m : Machine σ) (c : Child) : MachineAct σ StopOutcome := do
  c.signalGroup m .kill
  match ← c.signal m .kill with
  | .error e => return .failed e.message
  | .ok () =>
    match ← c.awaitExit m killWait with
    | .ok (some _) => return .killed
    | .ok none => return .failed s!"still running {killWait}ms after kill"
    | .error e => return .failed e.message

/-- Stops a process. -/
def terminate (m : Machine σ) (c : Child) (shutdown : Shutdown) : MachineAct σ StopOutcome := do
  match ← c.exit? m with
  | some status => return .alreadyExited status.code?
  | none =>
    match ← c.stopStages m shutdown.stages with
    | some outcome => return outcome
    | none => c.kill m

end Child

end StagedLaunch
