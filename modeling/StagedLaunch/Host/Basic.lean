import StagedLaunch.Machine.FileTree
import StagedLaunch.Machine.Signal
import StagedLaunch.Script.Command
import StagedLaunch.Script.Variables

/-!
# A host

A host is a machine in memory: files, sockets, and processes that sleep, run a program of the system, or interpret a shell
script. Time is counted in milliseconds. Everything but sleeping takes no time, as long as it does not take too many steps.
-/

namespace StagedLaunch

open Script

/-- Where a descriptor of a process leads. -/
inductive Stream where
  /-- Nowhere: it is empty and swallows everything. -/
  | null
  /-- To whoever started the host's processes. -/
  | terminal
  /-- To a file. -/
  | file (p : Place)
  /-- To bytes that are kept until they are read. -/
  | buffer (n : Nat)
deriving DecidableEq, Repr

/-- What a shell is about to do. -/
inductive Frame where
  /-- Run a command. -/
  | run (c : Command)
  /-- Run a command if the last one has succeeded. -/
  | andThen (c : Command)
  /-- Run a command if the last one has failed. -/
  | orElse (c : Command)
  /-- Turn success into failure and failure into success. -/
  | negate
  /-- Choose between two commands by the last one. -/
  | branch (yes no : Command)
  /-- Look at the condition of a loop. -/
  | loop (negated : Bool) (condition body : Command)
  /-- Go on with a loop by its condition; `last` is the status of its body. -/
  | test (negated : Bool) (condition body : Command) (last : Nat)
  /-- Go on with a loop over words. -/
  | each (name : String) (words : List String) (body : Command)
  /-- Go on with a pipeline, whose next command reads from a stream. -/
  | pipeline (parts : List Command) (input : Stream)
  /-- Put the output of a command in its place. -/
  | collect (buffer : Nat) (next : List Char → Command)
  /-- Put descriptors back. -/
  | restore (fds : List (Nat × Stream))
  /-- Put variables back. -/
  | undo (values : List (String × Option String))
  /-- Leave a function: put the arguments back. -/
  | leave (args : List String)
  /-- Put the status back. -/
  | resume (status : Nat)

/-- What a shell waits for. -/
inductive Waiting where
  /-- Nothing. -/
  | nothing
  /-- A process in the foreground. -/
  | child (pid : Nat)
  /-- Processes in the background. -/
  | jobs (pids : List Nat)
deriving DecidableEq, Repr

/-- A shell. -/
structure ShellState where
  /-- What it is about to do, the next thing first. -/
  frames : List Frame
  /-- What its parameters stand for. -/
  vars : Variables
  /-- The functions with their bodies. -/
  functions : List (String × Command)
  /-- The actions for signals by number, zero standing for the exit. -/
  traps : List (Nat × String)
  /-- The signals whose actions are due. -/
  caught : List Signal
  /-- An interrupt waits for the process in the foreground. -/
  interrupted : Bool
  /-- What it waits for. -/
  waiting : Waiting
  /-- A command that fails ends the shell. -/
  stopsOnError : Bool

/-- What a process does. -/
inductive Task where
  /-- It sleeps up to an instant, or forever. -/
  | sleep (wake : Option Nat)
  /-- It runs a program of the system. -/
  | program (name : String) (args : List String) (environment : List (String × String))
  /-- It interprets a script. -/
  | shell (s : ShellState)

/-- Who takes the exit of a process. -/
inductive Keeper where
  /-- Whoever uses the host. -/
  | outside
  /-- Another process. -/
  | process (pid : Nat)
  /-- Nobody. -/
  | nobody
deriving DecidableEq, Repr

/-- A process. -/
structure Process where
  /-- Its number. -/
  pid : Nat
  /-- Who takes its exit. -/
  keeper : Keeper
  /-- The number of its group. -/
  group : Nat
  /-- The name of what it runs. -/
  name : String
  /-- The signals that it ignores. -/
  ignored : List Signal
  /-- It is halted. -/
  halted : Bool
  /-- The signals that came while it was halted. -/
  pending : List Signal
  /-- Where its descriptors lead. -/
  fds : List (Nat × Stream)
  /-- Its working directory. -/
  cwd : Place
  /-- What it does. -/
  task : Task
  /-- How it ended, once it has. -/
  status : Option ExitStatus

/-- A host. -/
structure Host where
  /-- The instant. -/
  now : Nat
  /-- The files. -/
  files : FileTree
  /-- The processes, those that have ended included until somebody takes their exit. -/
  processes : List Process
  /-- The number of the next process. -/
  nextPid : Nat
  /-- The buffers with what can be read from them. -/
  buffers : List (Nat × List UInt8)
  /-- The number of the next buffer. -/
  nextBuffer : Nat
  /-- What was written to the terminal with its instant, the last piece first. -/
  terminal : List (Nat × List UInt8)
  /-- The ports to which UDP sockets are bound. -/
  udpPorts : List UInt16
  /-- The ports on which TCP connections are listened for. -/
  tcpPorts : List UInt16
  /-- Connections within the host get through. -/
  connected : Bool
  /-- The variables that processes get. -/
  environment : List (String × String)

namespace Host

/-- The group of the build commands, which is that of whoever uses the host. -/
def ownGroup : Nat := 1

/-- The process with a number. -/
def find? (h : Host) (pid : Nat) : Option Process := h.processes.find? fun p => p.pid == pid

/-- Changes the process with a number. -/
def update (h : Host) (pid : Nat) (f : Process → Process) : Host :=
  { h with processes := h.processes.map fun p => if p.pid == pid then f p else p }

/-- Takes away the process with a number. -/
def remove (h : Host) (pid : Nat) : Host :=
  { h with processes := h.processes.filter fun p => p.pid != pid }

/-- Adds a process with the next number. -/
def add (h : Host) (p : Nat → Process) : Nat × Host :=
  (h.nextPid, { h with processes := h.processes ++ [p h.nextPid], nextPid := h.nextPid + 1 })

/-- The files as a process with a working directory sees them. -/
def filesFrom (h : Host) (cwd : Place) : FileTree := { h.files with cwd := cwd }

/-- Puts files in place; the working directory of the host stays. -/
def putFiles (h : Host) (t : FileTree) : Host := { h with files := { t with cwd := h.files.cwd } }

/-- Adds an empty buffer. -/
def addBuffer (h : Host) (bytes : List UInt8) : Nat × Host :=
  (h.nextBuffer, { h with buffers := (h.nextBuffer, bytes) :: h.buffers, nextBuffer := h.nextBuffer + 1 })

/-- Puts other bytes into a buffer. -/
def setBuffer (h : Host) (n : Nat) (bytes : List UInt8) : Host :=
  { h with buffers := h.buffers.map fun b => if b.1 == n then (n, bytes) else b }

/-- Writes to a stream. -/
def write (h : Host) (stream : Stream) (bytes : List UInt8) : Host :=
  if bytes.isEmpty then h
  else
    match stream with
    | .null => h
    | .terminal => { h with terminal := (h.now, bytes) :: h.terminal }
    | .file p => { h with files := h.files.append p bytes }
    | .buffer n => h.setBuffer n ((h.buffers.lookup n).getD [] ++ bytes)

/-- Writes to a descriptor of a process. -/
def writeTo (h : Host) (fds : List (Nat × Stream)) (fd : Nat) (bytes : List UInt8) : Host :=
  match fds.lookup fd with
  | some stream => h.write stream bytes
  | none => h

/-- What can be read from a stream. -/
def input (h : Host) : Option Stream → List UInt8
  | some (.buffer n) => (h.buffers.lookup n).getD []
  | _ => []

/-- Leaves so much to be read from a stream. -/
def setInput (h : Host) (stream : Option Stream) (rest : List UInt8) : Host :=
  match stream with
  | some (.buffer n) => h.setBuffer n rest
  | _ => h

/-- Ends a process. Nobody takes the exits of its children any more. -/
def finish (h : Host) (pid : Nat) (status : ExitStatus) : Host :=
  let ended := h.processes.map fun p =>
    let p := if p.pid == pid && p.status.isNone then { p with status := some status, halted := false } else p
    if p.keeper == .process pid then { p with keeper := .nobody } else p
  { h with processes := ended.filter fun p => p.status.isNone || p.keeper != .nobody }

/-- Takes the exit of a process that has ended. -/
def take (h : Host) (pid : Nat) : Option ExitStatus × Host :=
  match (h.find? pid).bind Process.status with
  | some status => (some status, h.remove pid)
  | none => (none, h)

end Host

end StagedLaunch
