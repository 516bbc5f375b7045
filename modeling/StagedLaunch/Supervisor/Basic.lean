import StagedLaunch.Activity
import StagedLaunch.Supervisor.Report

/-!
# Supervising a run

A run builds, launches the groups of a plan one after the other, lets them run for a while, and stops every process it has
launched, whatever happened before. It can be interrupted while it launches, which fails the run, and while everything runs,
which ends the run window; the interrupt is first listened to when the build has ended.

What builds, launches, waits and stops is an `Environment`, so a run can be studied apart from any machine.
-/

namespace StagedLaunch

/-- What a launch has brought about. A launch goes on without a pause. -/
structure Launch (ε σ η : Type) where
  /-- What it tells. -/
  events : List ε
  /-- How long it takes, in milliseconds. -/
  took : Nat
  /-- The state after it. -/
  state : σ
  /-- The process, or why there is none. -/
  result : Except LaunchError η

/-- What a run works with: a state `σ`, processes `η` and what they tell `ε`. -/
structure Environment (ε σ η : Type) where
  /-- Moves the state on from one instant to a later one. -/
  elapse : Nat → Nat → σ → σ
  /-- Builds what a plan needs. -/
  build : Plan → Activity ε σ (Except LaunchError Unit)
  /-- Launches a process. -/
  launch : LaunchSpec → Nat → σ → Launch ε σ η
  /-- The name of a process. -/
  name : η → String
  /-- The number of a process, if it has one. -/
  pid : η → σ → Option Nat
  /-- Waits until a process is ready. -/
  waitReady : η → ReadyCheck → Nat → Activity ε σ (Except LaunchError Unit)
  /-- Stops a process. -/
  terminate : η → Shutdown → Activity ε σ StopOutcome

/-- How a run is to go. -/
structure RunOptions where
  /-- The length of the run window, in milliseconds. -/
  runFor : Nat
  /-- How long to wait for readiness, in milliseconds. -/
  readyTimeout : Nat
  /-- How processes are stopped. -/
  shutdown : Shutdown
deriving DecidableEq, Repr

/-- An interrupt: its instant, and the signal that brought it, if it was one. -/
structure Interruption where
  /-- The instant. -/
  instant : Nat
  /-- The signal. -/
  signal : Option StopSignal
deriving DecidableEq, Repr

/-- A process that a run has launched. -/
structure Started (η : Type) where
  /-- The process. -/
  handle : η
  /-- What the report says about its launch. -/
  record : LaunchRecord

/-- What a run keeps while it goes on. -/
structure Session (σ η : Type) where
  /-- The state of what it works with. -/
  world : σ
  /-- Where the run stands. -/
  state : RunState
  /-- The processes it has launched, in order. -/
  started : List (Started η)

namespace Supervisor

variable {ε σ η : Type}

/-- An activity of a run. -/
abbrev Act (ε σ η α : Type) := Activity (Notice ε) (Session σ η) α

/-- An activity of what the run works with. -/
def onWorld {α : Type} (m : Activity ε σ α) : Act ε σ η α :=
  m.onPart Session.world (fun w s => { s with world := w }) Notice.told

/-- Changes where the run stands. -/
def setState (new : RunState) : Act ε σ η Unit :=
  .read fun _ s => .emit (.state s.state new) (.write { s with state := new } (.done ()))

/-- Moves on what a run works with; what the run keeps of its own stays. -/
def elapse (env : Environment ε σ η) (now later : Nat) (s : Session σ η) : Session σ η :=
  { s with world := env.elapse now later s.world }

/-- Builds. -/
def build (env : Environment ε σ η) (plan : Plan) : Act ε σ η (Except LaunchError Unit) := do
  setState .building
  Activity.tell .building
  let r ← onWorld (env.build plan)
  Activity.tell (.built r)
  return r

/-- Launches one process. -/
def launchOne (env : Environment ε σ η) (start : Nat) (spec : LaunchSpec) : Act ε σ η (Except LaunchError η) :=
  .emit (.launching spec) <| .read fun now s =>
    let l := env.launch spec now s.world
    .write { s with world := l.state } <| do
      Activity.tellAll (l.events.map Notice.told)
      Activity.busy l.took
      match l.result with
      | .error e =>
        Activity.tell (.launched spec (.error e))
        return .error e
      | .ok h =>
        let record ← Activity.look fun now s => ⟨env.name h, env.pid h s.world, now - start⟩
        Activity.change fun _ s => { s with started := s.started ++ [⟨h, record⟩] }
        Activity.tell (.launched spec (.ok (record.name, record.pid)))
        return .ok h

/-- Launches the processes of a group, and gives each with its specification. -/
def launchAll (env : Environment ε σ η) (start : Nat) :
    List LaunchSpec → Act ε σ η (Except LaunchError (List (LaunchSpec × η)))
  | [] => return .ok []
  | spec :: rest => do
    match ← launchOne env start spec with
    | .error e => return .error e
    | .ok h =>
      match ← launchAll env start rest with
      | .error e => return .error e
      | .ok more => return .ok ((spec, h) :: more)

/-- Waits until the processes of a group are ready, one after the other. -/
def awaitAll (env : Environment ε σ η) (timeout : Nat) :
    List (LaunchSpec × η) → Act ε σ η (Except LaunchError Unit)
  | [] => return .ok ()
  | (spec, h) :: rest =>
    match spec.ready with
    | none => awaitAll env timeout rest
    | some check => do
      Activity.tell (.awaiting spec check timeout)
      let r ← onWorld (env.waitReady h check timeout)
      Activity.tell (.ready spec r)
      match r with
      | .error e => return .error e
      | .ok () => awaitAll env timeout rest

/-- Waits for what is left of the time in which a group settles. -/
def settle (group : Group) (spawned : Nat) : Act ε σ η Unit :=
  .read fun now _ =>
    let remaining := group.settle - (now - spawned)
    if remaining = 0 then .done ()
    else .emit (.settling group.label remaining) (Activity.pause remaining)

/-- Launches a group. -/
def launchGroup (env : Environment ε σ η) (options : RunOptions) (start index : Nat) (group : Group) :
    Act ε σ η (Except LaunchError Unit) := do
  setState (.launching index)
  Activity.tell (.announced group.label)
  match ← launchAll env start group.specs with
  | .error e => return .error e
  | .ok launched =>
    let spawned ← Activity.look fun now _ => now
    match ← awaitAll env options.readyTimeout launched with
    | .error e => return .error e
    | .ok () =>
      settle group spawned
      return .ok ()

/-- Launches groups one after the other, the first of which has a given index. -/
def launchGroups (env : Environment ε σ η) (options : RunOptions) (start index : Nat) :
    List Group → Act ε σ η (Except LaunchError Unit)
  | [] => return .ok ()
  | group :: rest => do
    match ← launchGroup env options start index group with
    | .error e => return .error e
    | .ok () => launchGroups env options start (index + 1) rest

/-- Begins the run window. -/
def openWindow (options : RunOptions) (plan : Plan) : Act ε σ η Unit := do
  setState .running
  Activity.tell (.running plan.size options.runFor)

/-- The run window. -/
def window (options : RunOptions) (plan : Plan) : Act ε σ η Unit := do
  openWindow options plan
  Activity.pause options.runFor
  Activity.tell .windowOver

/-- Stops processes one after the other, and gives how each of them ended. -/
def stopAll (env : Environment ε σ η) (shutdown : Shutdown) : List (Started η) → Act ε σ η (List StopRecord)
  | [] => return []
  | p :: rest => do
    Activity.tell (.terminating (env.name p.handle) shutdown)
    let outcome ← onWorld (env.terminate p.handle shutdown)
    Activity.tell (.terminated (env.name p.handle) outcome)
    let more ← stopAll env shutdown rest
    return ⟨env.name p.handle, outcome⟩ :: more

/-- Stops every process that was launched. -/
def teardown (env : Environment ε σ η) (shutdown : Shutdown) : Act ε σ η (List StopRecord) :=
  .read fun _ s => do
    setState .terminating
    stopAll env shutdown s.started

/-- The group in which a run was interrupted while it launched. -/
def groupLabel (plan : Plan) (state : RunState) : String :=
  match state with
  | .launching group => (plan.groups[group]?.map Group.label).getD ""
  | _ => "processes"

/-- What has become of a run before its processes are stopped. -/
structure Drive (ε σ η : Type) where
  /-- Why it has failed, if it has. -/
  failure : Option LaunchError
  /-- It was interrupted. -/
  interrupted : Bool
  /-- The instant. -/
  now : Nat
  /-- What the run keeps. -/
  session : Session σ η
  /-- What it has told. -/
  events : List (Nat × Notice ε)

/-- What an interrupt tells. -/
def interruptEvents (now : Nat) (i : Option Interruption) : List (Nat × Notice ε) :=
  match i.bind Interruption.signal with
  | some signal => [(now, .signalled signal)]
  | none => []

/-- The run window, which an interrupt may end. -/
def driveWindow (env : Environment ε σ η) (options : RunOptions) (plan : Plan) (i : Option Interruption) (now : Nat)
    (s : Session σ η) : Drive ε σ η :=
  let r := (window options plan).run (elapse env) (i.map Interruption.instant) now s
  match r.result with
  | some () => ⟨none, false, r.now, r.state, r.events⟩
  | none => ⟨none, true, r.now, r.state, r.events ++ interruptEvents r.now i ++ [(r.now, .stoppedEarly)]⟩

/-- The launch of all groups and the run window after it. -/
def driveLaunch (env : Environment ε σ η) (options : RunOptions) (plan : Plan) (i : Option Interruption)
    (start now : Nat) (s : Session σ η) : Drive ε σ η :=
  let r := (launchGroups env options start 0 plan.groups).run (elapse env) (i.map Interruption.instant) now s
  match r.result with
  | none =>
    ⟨some (.interrupted (groupLabel plan r.state.state)), true, r.now, r.state, r.events ++ interruptEvents r.now i⟩
  | some (.error e) => ⟨some e, false, r.now, r.state, r.events⟩
  | some (.ok ()) =>
    let d := driveWindow env options plan i r.now r.state
    { d with events := r.events ++ d.events }

/-- A run up to where its processes are stopped. `interrupt` gives the interrupt that comes first after listening starts. -/
def drive (env : Environment ε σ η) (options : RunOptions) (plan : Plan) (interrupt : Nat → Option Interruption)
    (start : Nat) (world : σ) : Drive ε σ η :=
  let r := (build env plan).run (elapse env) none start ⟨world, .idle, []⟩
  match r.result with
  | none => ⟨none, false, r.now, r.state, r.events⟩
  | some (.error e) => ⟨some e, false, r.now, r.state, r.events⟩
  | some (.ok ()) =>
    let d := driveLaunch env options plan (interrupt r.now) start r.now r.state
    { d with events := r.events ++ d.events }

/-- What has become of a run. -/
structure Finished (ε σ : Type) where
  /-- The report. -/
  report : Report
  /-- Why the run has failed, if it has. -/
  failure : Option LaunchError
  /-- What it has told, in order. -/
  events : List (Nat × Notice ε)
  /-- The instant at which it ended. -/
  now : Nat
  /-- The state of what it worked with. -/
  world : σ

/-- What ends a run: a failure is told, every process is stopped, and the state changes for the last time. -/
def finish (env : Environment ε σ η) (options : RunOptions) (failure : Option LaunchError) :
    Act ε σ η (List StopRecord) := do
  match failure with
  | some e => Activity.tell (.failed e)
  | none => pure ()
  let stopped ← teardown env options.shutdown
  setState .done
  return stopped

/-- Runs a plan. -/
def run (env : Environment ε σ η) (options : RunOptions) (plan : Plan) (interrupt : Nat → Option Interruption)
    (start : Nat) (world : σ) : Finished ε σ :=
  let d := drive env options plan interrupt start world
  let r := (finish env options d.failure).run (elapse env) none d.now d.session
  { report :=
      { case := plan.case
        launched := r.state.started.map Started.record
        terminated := r.result.getD []
        interrupted := d.interrupted
        state := r.state.state }
    failure := d.failure
    events := d.events ++ r.events
    now := r.now
    world := r.state.world }

/-- The log of a run, followed by that of its report. -/
def Finished.records (inner : ε → Option Record) (f : Finished ε σ) : List Record :=
  f.events.filterMap (fun e => e.2.record? inner) ++ f.report.records

/-- The standard output of a run. -/
def Finished.output (inner : ε → List UInt8) (f : Finished ε σ) : List UInt8 :=
  f.events.flatMap fun e => e.2.output inner

/-- The calls of a run with their instants, and its end. -/
def Finished.calls (f : Finished ε σ) : List (Nat × String × String) :=
  f.events.filterMap (fun e => (e.2.call? f.report.case).map fun c => (e.1, c)) ++ [(f.now, "end", "")]

end Supervisor

end StagedLaunch
