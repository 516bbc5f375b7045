import StagedLaunch.Host.Signalling
import StagedLaunch.Host.Utility
import StagedLaunch.Script.Reader

/-!
# Shells on a host

A shell keeps what it is about to do as a list of frames. Commands in parentheses, in the background and in substitutions run
in processes of their own.
-/

namespace StagedLaunch.Host

open Script

/-- The shell of a process that goes on as given. -/
def putShell (h : Host) (pid : Nat) (s : ShellState) : Host := h.update pid fun p => { p with task := .shell s }

/-- A shell with a status. -/
def withStatus (s : ShellState) (status : Nat) : ShellState := { s with vars := { s.vars with status := status } }

/-- A shell with more to do first. -/
def withFrames (s : ShellState) (frames : List Frame) : ShellState := { s with frames := frames ++ s.frames }

/-- The status of an exit for a shell. -/
def shellStatus : ExitStatus → Nat
  | .exited code => code.toNat
  | .killed signal => 128 + signal.number

/-- A shell that complains on its standard error. -/
def complain (h : Host) (p : Process) (s : ShellState) (line : Nat) (text : String) : Host :=
  h.writeTo p.fds 2 (Utf8.encode s!"{s.vars.zero}: {line}: {text}\n")

/-- A shell that ends with a status, after what it does at its exit. -/
def leaving (s : ShellState) (status : Nat) : ShellState := { withStatus s status with frames := [], waiting := .nothing }

/-- A new shell that runs a program. -/
def freshShell (pid : Nat) (zero : String) (args : List String) (environment : List (String × String)) : ShellState where
  frames := []
  vars := ⟨environment, environment.map Prod.fst, zero, args, 0, pid, none⟩
  functions := []
  traps := []
  caught := []
  interrupted := false
  waiting := .nothing
  stopsOnError := false

/-- The frames that run a program, and end the shell with status two if it cannot be read. -/
def programFrames (program : Reading) : List Frame :=
  program.body.map .run

/-- A process like another one, with a number of its own and another task. -/
def spawnFrom (h : Host) (p : Process) (name : String) (fds : List (Nat × Stream)) (task : Nat → Task) : Nat × Host :=
  h.add fun pid =>
    { p with pid := pid, keeper := .process p.pid, name := name, halted := false, pending := [], fds := fds,
             task := task pid, status := none }

/-- A descriptor that leads to a stream. -/
def setFd (fds : List (Nat × Stream)) (fd : Nat) (stream : Option Stream) : List (Nat × Stream) :=
  stream.toList.map (fd, ·) ++ fds.filter (·.1 != fd)

/-- The shell that a subshell begins as. -/
def childShell (s : ShellState) (body : Command) : ShellState :=
  { s with frames := [.run body], traps := [], caught := [], interrupted := false, waiting := .nothing }

/-- A subshell for a command. -/
def fork (h : Host) (p : Process) (s : ShellState) (fds : List (Nat × Stream)) (body : Command) : Nat × Host :=
  h.spawnFrom p p.name fds fun _ => .shell (childShell s body)

end StagedLaunch.Host
