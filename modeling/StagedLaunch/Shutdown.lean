import StagedLaunch.Text.Quoted

/-!
# Stopping a process

A process is asked to stop by one signal after another, each with a time to react, and is killed when none has worked. A
stage without time is left out.
-/

namespace StagedLaunch

/-- A signal that asks a process to stop. -/
inductive StopSignal where
  /-- The signal of an interrupt from the keyboard. -/
  | interrupt
  /-- The signal to terminate. -/
  | terminate
deriving DecidableEq, Repr

namespace StopSignal

/-- The name in log fields and answers. -/
def label : StopSignal → String
  | .interrupt => "SIGINT"
  | .terminate => "SIGTERM"

/-- The name inside an outcome. -/
def title : StopSignal → String
  | .interrupt => "SigInt"
  | .terminate => "SigTerm"

end StopSignal

/-- How long each stage of a shutdown waits, in milliseconds. -/
structure Shutdown where
  /-- The time to react to an interrupt. -/
  interruptMs : UInt64
  /-- The time to react to the signal to terminate. -/
  terminateMs : UInt64
deriving DecidableEq, Repr

namespace Shutdown

/-- Two seconds to terminate, without an interrupt before. -/
def standard : Shutdown := ⟨0, 2000⟩

/-- The stages of a shutdown: the signals that are sent and how long each may take. -/
def stages (s : Shutdown) : List (StopSignal × Nat) :=
  [(.interrupt, s.interruptMs.toNat), (.terminate, s.terminateMs.toNat)].filter fun stage => stage.2 > 0

end Shutdown

/-- How a process came to its end. -/
inductive StopOutcome where
  /-- It had exited before it was asked to; the code is absent if a signal ended it. -/
  | alreadyExited (code : Option Int)
  /-- It exited after a signal. -/
  | stopped (signal : StopSignal)
  /-- It had to be killed. -/
  | killed
  /-- It could not be stopped. -/
  | failed (error : String)
deriving DecidableEq, Repr

/-- An exit code that may be absent. -/
def renderCode : Option Int → String
  | some code => s!"Some({code})"
  | none => "None"

/-- The text of an outcome in log records. -/
def StopOutcome.render : StopOutcome → String
  | .alreadyExited code => "AlreadyExited \x7b code: " ++ renderCode code ++ " \x7d"
  | .stopped signal => "Stopped \x7b signal: " ++ signal.title ++ " \x7d"
  | .killed => "Killed"
  | .failed error => "Failed \x7b error: " ++ quoted error ++ " \x7d"

end StagedLaunch
