import StagedLaunch.Machine.Child
import StagedLaunch.Machine.SocketTable
import StagedLaunch.Pattern.Compile

/-!
# Waiting until a process is ready

A process is ready when its check passes and it is still there a moment later: a port that is held by somebody else passes
too, but a server that could not have it exits right after. The check is tried every now and then until the time is over.
-/

namespace StagedLaunch

/-- The time between two tries of a check, in milliseconds. -/
def pollInterval : Nat := 100

/-- How long a process must stay after its check has passed, in milliseconds. -/
def readyGrace : Nat := 250

/-- A check that can be tried. -/
inductive Probe where
  /-- A local UDP socket is bound to a port. -/
  | udpBound (port : UInt16)
  /-- A TCP connection to a port is accepted. -/
  | tcp (port : UInt16)
  /-- A line of the standard output matches a pattern. -/
  | log (pattern : Pattern)

/-- A check passes for a process with its output in a file. -/
def Probe.passes {σ : Type} (m : Machine σ) (stdout : String) (s : σ) : Probe → Bool
  | .udpBound port => (m.sockets s).any fun table => SocketTable.hasLocalPort table port
  | .tcp port => m.accepts port s
  | .log pattern =>
    match (m.files s).read stdout with
    | .ok bytes => pattern.matchesLine bytes
    | .error _ => false

namespace Child

variable {σ : Type}

/-- A process whose check has passed is ready if it stays. -/
def grace (m : Machine σ) (c : Child) (check : ReadyCheck) : MachineAct σ (Except LaunchError Unit) := do
  Activity.pause readyGrace
  match ← c.ensureRunning m with
  | .error e => return .error e
  | .ok () =>
    logRecord ⟨.debug, "readiness check passed", [("process", .text c.spec.name), ("check", .text check.render)]⟩
    return .ok ()

/-- Tries a check until a deadline, at most so many times. -/
def tryUntil (m : Machine σ) (c : Child) (check : ReadyCheck) (probe : Probe) (timeout deadline : Nat) :
    Nat → MachineAct σ (Except LaunchError Unit)
  | 0 => return .error (.notReady c.spec.name timeout)
  | tries + 1 => do
    match ← c.ensureRunning m with
    | .error e => return .error e
    | .ok () =>
      let (now, passed) ← Activity.look fun now w => (now, probe.passes m c.spec.output.stdout w.machine)
      if passed then c.grace m check
      else if deadline ≤ now then return .error (.notReady c.spec.name timeout)
      else
        Activity.pause pollInterval
        tryUntil m c check probe timeout deadline tries

/-- Waits for a check that can be tried. -/
def awaitProbe (m : Machine σ) (c : Child) (check : ReadyCheck) (probe : Probe) (timeout : Nat) :
    MachineAct σ (Except LaunchError Unit) :=
  .read fun now _ => c.tryUntil m check probe timeout (now + timeout) (timeout / pollInterval + 2)

/-- Waits until a process is ready. A delay takes its own time and has no deadline. -/
def waitReady (m : Machine σ) (c : Child) (check : ReadyCheck) (timeout : Nat) : MachineAct σ (Except LaunchError Unit) :=
  match check with
  | .delay ms => do
    Activity.pause ms
    c.ensureRunning m
  | .udpBound port => c.awaitProbe m check (.udpBound port) timeout
  | .tcp port => c.awaitProbe m check (.tcp port) timeout
  | .log pattern =>
    match Pattern.compile pattern with
    | .ok p => c.awaitProbe m check (.log p) timeout
    | .error e => return .error (.readinessPattern c.spec.name e)

end Child

end StagedLaunch
