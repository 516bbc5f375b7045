import StagedLaunch.Supervisor.Basic

/-!
# Surroundings that follow a script

An environment in which everything that the build and each process do is laid down beforehand, by the name of the process.
Process numbers count up from a first one.
-/

namespace StagedLaunch

/-- What the build does. -/
structure BuildScript where
  /-- How long it takes, if it waits at all. -/
  after : Option Nat
  /-- Why it fails, if it does. -/
  error : Option LaunchError

/-- What a process does. -/
structure ProcessScript where
  /-- Why it cannot be launched. -/
  launchError : Option LaunchError
  /-- It has no number. -/
  noPid : Bool
  /-- It is never ready. -/
  neverReady : Bool
  /-- How long it takes to answer a readiness check. -/
  readyAfter : Option Nat
  /-- Why a readiness check fails. -/
  readyError : Option LaunchError
  /-- How long it takes to stop. -/
  stopAfter : Option Nat
  /-- How it ends. -/
  outcome : StopOutcome

/-- A process that does all it is asked to at once. -/
def ProcessScript.prompt : ProcessScript := ⟨none, false, false, none, none, none, .stopped .terminate⟩

/-- A process that follows a script. -/
structure ScriptedProcess where
  /-- Its name. -/
  name : String
  /-- Its number. -/
  pid : Option Nat
  /-- What it does. -/
  script : ProcessScript

namespace Scripted

/-- Waits, if there is something to wait for. -/
def wait (ms : Option Nat) : Activity Empty Nat Unit :=
  match ms with
  | some ms => Activity.pause ms
  | none => pure ()

/-- Fails, if there is a reason to. -/
def failWith (error : Option LaunchError) : Except LaunchError Unit :=
  match error with
  | some e => .error e
  | none => .ok ()

/-- Launches a process; the state is the number that the next one gets. -/
def launch (scripts : List (String × ProcessScript)) (spec : LaunchSpec) (next : Nat) :
    Launch Empty Nat ScriptedProcess :=
  let script := (scripts.lookup spec.name).getD ProcessScript.prompt
  match script.launchError with
  | some e => ⟨[], 0, next, .error e⟩
  | none => ⟨[], 0, next + 1, .ok ⟨spec.name, if script.noPid then none else some next, script⟩⟩

/-- Answers a readiness check. -/
def waitReady (p : ScriptedProcess) (timeout : Nat) : Activity Empty Nat (Except LaunchError Unit) := do
  if p.script.neverReady then
    Activity.pause timeout
    return .error (.notReady p.name timeout)
  else
    wait p.script.readyAfter
    return failWith p.script.readyError

/-- The environment that follows scripts. -/
def environment (build : BuildScript) (scripts : List (String × ProcessScript)) :
    Environment Empty Nat ScriptedProcess where
  elapse := fun _ _ next => next
  build := fun _ => do
    wait build.after
    return failWith build.error
  launch := fun spec _ next => launch scripts spec next
  name := ScriptedProcess.name
  pid := fun p _ => p.pid
  waitReady := fun p _ timeout => waitReady p timeout
  terminate := fun p _ => do
    wait p.script.stopAfter
    return p.script.outcome

end Scripted

/-- The same surroundings, in which every launch takes some time. -/
def Environment.launchingIn {ε σ η : Type} (env : Environment ε σ η) (ms : Nat) : Environment ε σ η :=
  { env with launch := fun spec now s => { env.launch spec now s with took := ms } }

end StagedLaunch
