import StagedLaunch.Host.Startup

/-!
# Time on a host

At every instant the processes that can go on do so in turns, each for so many steps at most; what is left waits for the next
millisecond. Between two instants nothing happens as long as every process waits, so time goes on to the next one at which
something is due.
-/

namespace StagedLaunch.Host

/-- A process can go on at the instant of the host. -/
def canGoOn (h : Host) (p : Process) : Bool :=
  p.status.isNone && !p.halted &&
    match p.task with
    | .program .. => true
    | .sleep (some wake) => wake ≤ h.now
    | .sleep none => false
    | .shell s =>
      match s.waiting with
      | .nothing => true
      | .child pid => h.hasEnded pid
      | .jobs pids => !s.caught.isEmpty || pids.all h.hasEnded

/-- One step of a process. -/
def stepProcess (h : Host) (p : Process) : Host :=
  match p.task with
  | .program name args environment => h.runProgram p name args environment
  | .sleep _ => h.finish p.pid (.exited 0)
  | .shell s => h.stepWaiting p s

/-- A turn of a process: so many steps at most. -/
def turn (pid : Nat) : Nat → Host → Host
  | 0, h => h
  | steps + 1, h =>
    match h.find? pid with
    | none => h
    | some p => if h.canGoOn p then turn pid steps (h.stepProcess p) else h

/-- The number of steps in a turn. -/
def turnSteps : Nat := 64

/-- The number of turns that a process has at an instant. -/
def turnsAtOnce : Nat := 16

/-- Lets the processes go on at the instant of the host, so many times at most. -/
def settleFor : Nat → Host → Host
  | 0, h => h
  | turns + 1, h =>
    if h.processes.any h.canGoOn then
      settleFor turns ((h.processes.map Process.pid).foldl (fun h pid => turn pid turnSteps h) h)
    else h

/-- Lets the processes go on at the instant of the host. -/
def settle (h : Host) : Host := settleFor turnsAtOnce h

/-- The next instant at which something is due, a given one at the latest. -/
def nextInstant (h : Host) (latest : Nat) : Nat :=
  h.processes.foldl (fun t p =>
    if p.status.isSome || p.halted then t
    else
      match p.task with
      | .sleep (some wake) => min t (max wake (h.now + 1))
      | .sleep none => t
      | _ => if h.canGoOn p then min t (h.now + 1) else t) latest

/-- Lets time pass up to an instant, in at most `fuel` leaps. -/
def passTo (latest : Nat) : Nat → Host → Host
  | 0, h => h
  | fuel + 1, h =>
    if latest ≤ h.now then h
    else passTo latest fuel (settle { h with now := h.nextInstant latest })

/-- Lets some time pass. -/
def pass (h : Host) (ms : Nat) : Host := passTo (h.now + ms) ms h

/-- Lets time pass until a process has ended, in at most `fuel` leaps. -/
def passUntilEnd (pid : Nat) : Nat → Host → Host
  | 0, h => h
  | fuel + 1, h =>
    if h.hasEnded pid then h
    else
      let next := h.nextInstant (h.now + 86400000)
      passUntilEnd pid fuel (settle { h with now := next })

end StagedLaunch.Host
