import StagedLaunch.Shutdown

/-!
# Signals and exits

Signals by their numbers and names, and the ways in which a process can have ended.
-/

namespace StagedLaunch

/-- A signal, by its number. -/
structure Signal where
  /-- The number. -/
  number : Nat
deriving DecidableEq, Repr

namespace Signal

/-- An interrupt from the keyboard. -/
def interrupt : Signal := ⟨2⟩
/-- The request to quit from the keyboard. -/
def quit : Signal := ⟨3⟩
/-- The end that no process can avoid. -/
def kill : Signal := ⟨9⟩
/-- The request to terminate. -/
def terminate : Signal := ⟨15⟩
/-- A child has ended. -/
def child : Signal := ⟨17⟩
/-- A stopped process goes on. -/
def resume : Signal := ⟨18⟩
/-- The halt that no process can avoid. -/
def halt : Signal := ⟨19⟩

/-- The names of signals with their numbers. -/
def names : List (String × Nat) :=
  [("HUP", 1), ("INT", 2), ("QUIT", 3), ("ILL", 4), ("TRAP", 5), ("ABRT", 6), ("BUS", 7), ("FPE", 8), ("KILL", 9),
   ("USR1", 10), ("SEGV", 11), ("USR2", 12), ("PIPE", 13), ("ALRM", 14), ("TERM", 15), ("STKFLT", 16), ("CHLD", 17),
   ("CONT", 18), ("STOP", 19), ("TSTP", 20), ("TTIN", 21), ("TTOU", 22), ("URG", 23), ("XCPU", 24), ("XFSZ", 25),
   ("VTALRM", 26), ("PROF", 27), ("WINCH", 28), ("IO", 29), ("PWR", 30), ("SYS", 31)]

/-- The signal with a name. -/
def ofName? (name : String) : Option Signal := (names.lookup name).map Signal.mk

/-- A process that does not provide for the signal is left as it is. -/
def isHarmless (s : Signal) : Bool := [17, 18, 23, 28].contains s.number

/-- A process that does not provide for the signal is halted. -/
def isHalt (s : Signal) : Bool := [19, 20, 21, 22].contains s.number

/-- No process can provide for the signal. -/
def isFinal (s : Signal) : Bool := s == kill || s == halt

end Signal

/-- The signal that a stage of a shutdown sends. -/
def StopSignal.signal : StopSignal → Signal
  | .interrupt => .interrupt
  | .terminate => .terminate

/-- How a process ended. -/
inductive ExitStatus where
  /-- It exited with a code. -/
  | exited (code : UInt8)
  /-- A signal ended it. -/
  | killed (signal : Signal)
deriving DecidableEq, Repr

namespace ExitStatus

/-- The exit code, which is absent where a signal ended the process. -/
def code? : ExitStatus → Option Int
  | .exited code => some code.toNat
  | .killed _ => none

/-- The process exited with code zero. -/
def success (status : ExitStatus) : Bool := status == .exited 0

end ExitStatus

end StagedLaunch
