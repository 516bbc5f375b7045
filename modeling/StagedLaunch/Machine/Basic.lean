import StagedLaunch.Log
import StagedLaunch.Machine.FileTree
import StagedLaunch.Machine.Signal
import StagedLaunch.Plan.BuildStep
import StagedLaunch.Plan.Spec

/-!
# Machines

A machine has files and sockets, runs build commands, and starts processes, each in a group of its own. A process is known by
its number until its exit has been taken. What a run does on a machine is told in notices.
-/

namespace StagedLaunch

/-- A build command from its start to its end. The machine comes to the end of the command as time passes. -/
structure CommandRun (σ : Type) where
  /-- What it writes to the standard output, piece by piece; with each piece the milliseconds since the one before it. -/
  output : List (Nat × List UInt8)
  /-- The milliseconds from the last piece of output to the end. -/
  rest : Nat
  /-- The machine at the start. -/
  state : σ
  /-- How it ended, or why it could not be started. -/
  result : Except OsError ExitStatus

/-- A machine with states `σ`. -/
structure Machine (σ : Type) where
  /-- Moves the machine on from one instant to a later one. -/
  elapse : Nat → Nat → σ → σ
  /-- The files. -/
  files : σ → FileTree
  /-- Puts other files in place. -/
  withFiles : FileTree → σ → σ
  /-- The tables of local sockets that can be read. -/
  sockets : σ → List String
  /-- A connection to a port is accepted. -/
  accepts : UInt16 → σ → Bool
  /-- Starts a build command and tells what will become of it. -/
  command : BuildStep → σ → CommandRun σ
  /-- Starts a program with arguments in a group of its own, which has the number of the process. Its standard output and its
  standard error go to two files, and its standard input is empty. -/
  spawn : String → List String → Place × Place → σ → Except OsError Nat × σ
  /-- Takes the exit of a process, if it has ended. -/
  poll : Nat → σ → Except OsError (Option ExitStatus) × σ
  /-- Sends a signal to every process of a group. -/
  signalGroup : Nat → Signal → σ → σ
  /-- Sends a signal to a process. -/
  signal : Nat → Signal → σ → Except OsError Unit × σ

/-- What a run does on a machine. -/
inductive MachineNotice where
  /-- Something is logged. -/
  | logged (r : Record)
  /-- A build command is run. -/
  | running (step : BuildStep)
  /-- A build command has written to the standard output. -/
  | printed (bytes : List UInt8)
  /-- The output files of a process are opened. -/
  | opening (files : OutputFiles)
  /-- A process was started. -/
  | started (spec : LaunchSpec) (pid : Nat)
  /-- A signal is sent to a group. -/
  | signalledGroup (pid : Nat) (signal : Signal)
  /-- A signal is sent to a process. -/
  | signalled (pid : Nat) (signal : Signal)
deriving DecidableEq, Repr

namespace MachineNotice

/-- The log record of a notice, if it has one. -/
def record? : MachineNotice → Option Record
  | .logged r => some r
  | _ => none

/-- The text that a notice adds to the standard output. -/
def output : MachineNotice → List UInt8
  | .printed bytes => bytes
  | _ => []

end MachineNotice

end StagedLaunch
