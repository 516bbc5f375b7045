import StagedLaunch.Activity
import StagedLaunch.LaunchError
import StagedLaunch.Machine.Basic

/-!
# Launched processes

A launched process is watched through its handle. Once its exit has been seen it is kept, the process has no number any more,
and the machine is not asked again.
-/

namespace StagedLaunch

/-- A process that was launched. -/
structure Child where
  /-- What was launched. -/
  spec : LaunchSpec
  /-- How many processes were launched before it. -/
  index : Nat
  /-- The number that the machine gave it. -/
  pid : Nat
deriving DecidableEq, Repr

/-- A machine with what was seen of the processes launched on it. -/
structure Watched (σ : Type) where
  /-- The machine. -/
  machine : σ
  /-- How many processes were launched. -/
  launches : Nat
  /-- The exits that were seen, by the index of the process. -/
  exits : List (Nat × ExitStatus)

/-- A machine on which nothing was launched. -/
def Watched.fresh {σ : Type} (s : σ) : Watched σ := ⟨s, 0, []⟩

/-- Something done with launched processes. -/
abbrev MachineAct (σ α : Type) := Activity MachineNotice (Watched σ) α

/-- Logs a record. -/
def logRecord {σ : Type} (r : Record) : MachineAct σ Unit := Activity.tell (.logged r)

namespace Child

variable {σ : Type}

/-- The exit of a process, if it has been seen. -/
def seenExit? (c : Child) (w : Watched σ) : Option ExitStatus := w.exits.lookup c.index

/-- The number of a process, unless its exit has been seen. -/
def pid? (c : Child) (w : Watched σ) : Option Nat :=
  match c.seenExit? w with
  | some _ => none
  | none => some c.pid

/-- Asks for the exit of a process. -/
def poll (m : Machine σ) (c : Child) (w : Watched σ) : Except OsError (Option ExitStatus) × Watched σ :=
  match c.seenExit? w with
  | some status => (.ok (some status), w)
  | none =>
    match m.poll c.pid w.machine with
    | (.ok (some status), s) => (.ok (some status), { w with machine := s, exits := (c.index, status) :: w.exits })
    | (r, s) => (r, { w with machine := s })

/-- There is something to learn about the exit of a process: it has ended, or asking fails. -/
def isSettled (m : Machine σ) (c : Child) (w : Watched σ) : Bool :=
  match (c.poll m w).1 with
  | .ok none => false
  | _ => true

/-- The exit of a process that has ended. A process that cannot be asked is taken to run. -/
def exit? (m : Machine σ) (c : Child) : MachineAct σ (Option ExitStatus) := do
  match ← Activity.act fun _ w => c.poll m w with
  | .ok status => return status
  | .error e =>
    logRecord ⟨.warn, "failed to poll process status", [("process", .text c.spec.name), ("error", .text e.message)]⟩
    return none

/-- Fails if a process has ended. -/
def ensureRunning (m : Machine σ) (c : Child) : MachineAct σ (Except LaunchError Unit) := do
  match ← c.exit? m with
  | some status => return .error (.exitedEarly c.spec.name status.code?)
  | none => return .ok ()

/-- Waits for the exit of a process, for some time at most; without time nobody looks. -/
def awaitExit (m : Machine σ) (c : Child) (ms : Nat) : MachineAct σ (Except OsError (Option ExitStatus)) :=
  if ms = 0 then return .ok none
  else do
    let _ ← Activity.waitFor ms fun _ w => c.isSettled m w
    Activity.act fun _ w => c.poll m w

end Child

end StagedLaunch
