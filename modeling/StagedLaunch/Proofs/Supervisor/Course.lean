import StagedLaunch.Proofs.Supervisor.Calls

/-!
# The course of a run

What a run in the recording environment tells, without the states of the environment: relations that follow the parts of a
run, each with what is told, the instants between which that happens, and how the part ends. `Spawning` is the launch of a
list of specifications, `Awaiting` that of readiness checks one after the other, `Launching` the launch of groups, `Driving`
everything before the processes are stopped and `Stopping` the stop of processes. Every run has a course (`run_course`), so
what is shown for every course by induction holds of every run.
-/

namespace StagedLaunch.Supervisor

variable {ε σ η : Type}

/-- What a run in the recording environment tells, with the instants. -/
abbrev Events (η : Type) := List (Nat × Notice (Call η))

/-! ## Launches -/

/-- What a launch tells. -/
def launchEvents (spec : LaunchSpec) (before after : Nat) (result : Except LaunchError η)
    (answer : Except LaunchError (String × Option Nat)) : Events η :=
  [(before, .launching spec), (before, .told (.launch spec result)), (after, .launched spec answer)]

@[simp] theorem told_launchEvents (spec : LaunchSpec) (before after : Nat) (result : Except LaunchError η)
    (answer : Except LaunchError (String × Option Nat)) :
    told (launchEvents spec before after result answer) = [.launch spec result] := rfl

/-- The launch of specifications one after the other. It stops at the first that cannot be launched. -/
inductive Spawning (env : Environment ε σ η) (start : Nat) :
    List LaunchSpec → Nat → Events η → List (Started η) → Nat → Option LaunchError → Prop where
  | done (now : Nat) : Spawning env start [] now [] [] now none
  | failed {spec : LaunchSpec} (rest : List LaunchSpec) {now took : Nat} {w w' : σ} {told : List ε} {e : LaunchError}
      (answer : env.launch spec now w = ⟨told, took, w', .error e⟩) :
      Spawning env start (spec :: rest) now (launchEvents spec now (now + took) (.error e) (.error e)) [] (now + took)
        (some e)
  | launched {spec : LaunchSpec} {rest : List LaunchSpec} {now took later : Nat} {w w' : σ} {told : List ε} {h : η}
      (pid : Option Nat) {events : Events η} {started : List (Started η)} {failure : Option LaunchError}
      (answer : env.launch spec now w = ⟨told, took, w', .ok h⟩)
      (more : Spawning env start rest (now + took) events started later failure) :
      Spawning env start (spec :: rest) now
        (launchEvents spec now (now + took) (.ok h) (.ok (env.name h, pid)) ++ events)
        (⟨h, ⟨env.name h, pid, now + took - start⟩⟩ :: started) later failure

theorem Spawning.le {env : Environment ε σ η} {start now later : Nat} {specs : List LaunchSpec} {events : Events η}
    {started : List (Started η)} {failure : Option LaunchError}
    (h : Spawning env start specs now events started later failure) : now ≤ later := by
  induction h with
  | done now => exact Nat.le_refl _
  | failed rest answer => exact Nat.le_add_right _ _
  | launched pid answer more ih => exact Nat.le_trans (Nat.le_add_right _ _) ih

section Runs

variable (env : Environment ε σ η) (cut : Option Nat) (start : Nat)

/-- A launch that fails leaves the list of processes as it is. -/
theorem run_launchOne_error {spec : LaunchSpec} {now took : Nat} {s : Session σ η} {told : List ε} {w : σ}
    {e : LaunchError} (h : env.launch spec now s.world = ⟨told, took, w, .error e⟩) :
    (launchOne env.recording start spec).run (elapse env) cut now s =
      ⟨some (.error e), now + took, { s with world := env.elapse now (now + took) w },
        launchEvents spec now (now + took) (.error e) (.error e)⟩ := by
  simp only [launchOne, Activity.run, Environment.recording, h]
  rfl

/-- A launch that succeeds adds the process to the list, with its name and the time since the start of the run. -/
theorem run_launchOne_ok {spec : LaunchSpec} {now took : Nat} {s : Session σ η} {told : List ε} {w : σ} {h : η}
    (hl : env.launch spec now s.world = ⟨told, took, w, .ok h⟩) :
    (launchOne env.recording start spec).run (elapse env) cut now s =
      ⟨some (.ok h), now + took,
        { s with
          world := env.elapse now (now + took) w
          started := s.started ++ [⟨h, ⟨env.name h, env.pid h (env.elapse now (now + took) w), now + took - start⟩⟩] },
        launchEvents spec now (now + took) (.ok h) (.ok (env.name h, env.pid h (env.elapse now (now + took) w)))⟩ := by
  simp only [launchOne, Activity.run, Environment.recording, hl]
  rfl

/-- What the launch of specifications ends with. -/
def spawnResult (specs : List LaunchSpec) (started : List (Started η)) :
    Option LaunchError → Except LaunchError (List (LaunchSpec × η))
  | some e => .error e
  | none => .ok (specs.zip (started.map Started.handle))

theorem run_launchAll (specs : List LaunchSpec) (now : Nat) (s : Session σ η) :
    ∃ events started later failure world,
      (launchAll env.recording start specs).run (elapse env) cut now s =
          ⟨some (spawnResult specs started failure), later,
            { s with world := world, started := s.started ++ started }, events⟩ ∧
        Spawning env start specs now events started later failure := by
  induction specs generalizing now s with
  | nil => exact ⟨[], [], now, none, s.world, by rw [List.append_nil]; rfl, .done now⟩
  | cons spec specs ih =>
    rcases hl : env.launch spec now s.world with ⟨told, took, w, e | h⟩
    · refine ⟨_, [], _, some e, env.elapse now (now + took) w, ?_, .failed specs hl⟩
      rw [launchAll, Activity.run_bind_some (run_launchOne_error env cut start hl), List.append_nil]
      rfl
    · have hone := run_launchOne_ok env cut start hl
      generalize env.pid h (env.elapse now (now + took) w) = pid at hone
      generalize env.elapse now (now + took) w = world at hone
      obtain ⟨events, started, later, failure, world', hrest, hs⟩ := ih (now + took)
        { s with world := world, started := s.started ++ [⟨h, ⟨env.name h, pid, now + took - start⟩⟩] }
      refine ⟨_, _, later, failure, world', ?_, .launched pid hl hs⟩
      rw [launchAll, Activity.run_bind_some hone]
      simp only
      rw [Activity.run_bind_some hrest, List.append_cons]
      cases failure with
      | some e => simp [Activity.run, pure, Run.after, spawnResult]
      | none => simp [Activity.run, pure, Run.after, spawnResult]

end Runs

/-! ## Readiness -/

/-- A readiness check that is due. -/
structure Due (η : Type) where
  /-- The specification that asks for it. -/
  spec : LaunchSpec
  /-- The process. -/
  process : η
  /-- The check. -/
  check : ReadyCheck

/-- The readiness checks that are due after a launch, in order. -/
def dueOf (launched : List (LaunchSpec × η)) : List (Due η) :=
  launched.filterMap fun p => p.1.ready.map fun check => ⟨p.1, p.2, check⟩

/-- What the call of a readiness check tells. -/
def awaitEvents (timeout : Nat) (d : Due η) (before : Nat) : Events η :=
  [(before, .awaiting d.spec d.check timeout), (before, .told (.await d.process d.check timeout))]

@[simp] theorem told_awaitEvents (timeout : Nat) (d : Due η) (before : Nat) :
    told (awaitEvents timeout d before) = [.await d.process d.check timeout] := rfl

/-- What the answer to a readiness check tells. -/
def readyEvents (d : Due η) (after : Nat) (result : Except LaunchError Unit) : Events η :=
  [(after, .told (.awaited d.process result)), (after, .ready d.spec result)]

@[simp] theorem told_readyEvents (d : Due η) (after : Nat) (result : Except LaunchError Unit) :
    told (readyEvents d after result) = [.awaited d.process result] := rfl

/-- A readiness check of a process can have an answer. -/
def Answers (env : Environment ε σ η) (timeout : Nat) (d : Due η) (answer : Except LaunchError Unit) : Prop :=
  ∃ cut now w, ((env.waitReady d.process d.check timeout).run env.elapse cut now w).result = some answer

/-- Readiness checks one after the other, up to the first that fails or is cut off. -/
inductive Awaiting (env : Environment ε σ η) (timeout : Nat) :
    List (Due η) → Nat → Events η → Nat → Option (Except LaunchError Unit) → Prop where
  | done (now : Nat) : Awaiting env timeout [] now [] now (some (.ok ()))
  | ready {d : Due η} {rest : List (Due η)} {before after later : Nat} {events : Events η}
      {outcome : Option (Except LaunchError Unit)} (passed : before ≤ after)
      (more : Awaiting env timeout rest after events later outcome) :
      Awaiting env timeout (d :: rest) before (awaitEvents timeout d before ++ readyEvents d after (.ok ()) ++ events)
        later outcome
  | failed {d : Due η} (rest : List (Due η)) {before after : Nat} {e : LaunchError} (passed : before ≤ after)
      (answer : Answers env timeout d (.error e)) :
      Awaiting env timeout (d :: rest) before (awaitEvents timeout d before ++ readyEvents d after (.error e)) after
        (some (.error e))
  | cut (d : Due η) (rest : List (Due η)) {before later : Nat} (passed : before ≤ later) :
      Awaiting env timeout (d :: rest) before (awaitEvents timeout d before) later none

theorem Awaiting.le {env : Environment ε σ η} {timeout now later : Nat} {due : List (Due η)} {events : Events η}
    {outcome : Option (Except LaunchError Unit)} (h : Awaiting env timeout due now events later outcome) : now ≤ later := by
  induction h with
  | done now => exact Nat.le_refl _
  | ready passed more ih => exact Nat.le_trans passed ih
  | failed rest passed answer => exact passed
  | cut d rest passed => exact passed

theorem run_awaitAll (env : Environment ε σ η) (cut : Option Nat) (timeout : Nat) (launched : List (LaunchSpec × η))
    (now : Nat) (s : Session σ η) :
    ∃ outcome later world events,
      (awaitAll env.recording timeout launched).run (elapse env) cut now s =
          ⟨outcome, later, { s with world := world }, events⟩ ∧
        Awaiting env timeout (dueOf launched) now events later outcome := by
  induction launched generalizing now s with
  | nil => exact ⟨some (.ok ()), now, s.world, [], rfl, .done now⟩
  | cons p launched ih =>
    obtain ⟨spec, h⟩ := p
    cases hc : spec.ready with
    | none =>
      have hdue : dueOf ((spec, h) :: launched) = dueOf launched := by simp [dueOf, hc]
      simp only [awaitAll, hc, hdue]
      exact ih now s
    | some check =>
      have hdue : dueOf ((spec, h) :: launched) = ⟨spec, h, check⟩ :: dueOf launched := by simp [dueOf, hc]
      simp only [awaitAll, hc, hdue]
      rw [Activity.run_bind_some (Activity.run_tell _ now s)]
      have hle := Activity.le_run_now env.elapse cut (env.waitReady h check timeout) now s.world
      rcases hr : (env.waitReady h check timeout).run env.elapse cut now s.world with ⟨r, later, world, told⟩
      have hcall : (onWorld (env.recording.waitReady h check timeout)).run (elapse env) cut now s = _ :=
        run_onWorld_recorded _ _ hr
      rw [hr] at hle
      rcases r with _ | e | u
      · exact ⟨none, later, world, awaitEvents timeout ⟨spec, h, check⟩ now, by
          rw [Activity.run_bind_none hcall]; rfl, .cut _ _ hle⟩
      · refine ⟨_, _, world, _, ?_, .failed _ hle ⟨cut, now, s.world, by rw [hr]⟩⟩
        rw [Activity.run_bind_some hcall]
        rfl
      · obtain ⟨outcome, later', world', events, hrest, hs⟩ := ih later { s with world := world }
        refine ⟨outcome, later', world', _, ?_, .ready hle hs⟩
        rw [Activity.run_bind_some hcall, Activity.run_bind_some (Activity.run_tell _ later _), hrest]
        rfl

/-! ## Groups -/

/-- What a group tells when it settles. -/
def settleEvents (group : Group) (spawned ready : Nat) : Events η :=
  if group.settle - (ready - spawned) = 0 then [] else [(ready, .settling group.label (group.settle - (ready - spawned)))]

@[simp] theorem told_settleEvents (group : Group) (spawned ready : Nat) :
    told (settleEvents group spawned ready : Events η) = [] := by
  unfold settleEvents
  split
  · rfl
  · rfl

/-- The readiness checks that are due in a group. -/
def groupDue (group : Group) (started : List (Started η)) : List (Due η) :=
  dueOf (group.specs.zip (started.map Started.handle))

/-- The launch of a group: its processes, their readiness, and the rest of its time to settle. -/
inductive GroupLaunch (env : Environment ε σ η) (timeout start : Nat) (group : Group) :
    Nat → Events η → List (Started η) → Nat → Option (Except LaunchError Unit) → Prop where
  | notSpawned {now later : Nat} {events : Events η} {started : List (Started η)} {e : LaunchError}
      (spawn : Spawning env start group.specs now events started later (some e)) :
      GroupLaunch env timeout start group now events started later (some (.error e))
  | notReady {now spawned later : Nat} {events events' : Events η} {started : List (Started η)}
      {outcome : Option (Except LaunchError Unit)}
      (spawn : Spawning env start group.specs now events started spawned none)
      (await : Awaiting env timeout (groupDue group started) spawned events' later outcome)
      (stopped : outcome ≠ some (.ok ())) :
      GroupLaunch env timeout start group now (events ++ events') started later outcome
  | notSettled {now spawned ready later : Nat} {events events' : Events η} {started : List (Started η)}
      (spawn : Spawning env start group.specs now events started spawned none)
      (await : Awaiting env timeout (groupDue group started) spawned events' ready (some (.ok ())))
      (passed : ready ≤ later) :
      GroupLaunch env timeout start group now (events ++ events' ++ settleEvents group spawned ready) started later none
  | settled {now spawned ready : Nat} {events events' : Events η} {started : List (Started η)}
      (spawn : Spawning env start group.specs now events started spawned none)
      (await : Awaiting env timeout (groupDue group started) spawned events' ready (some (.ok ()))) :
      GroupLaunch env timeout start group now (events ++ events' ++ settleEvents group spawned ready) started
        (ready + (group.settle - (ready - spawned))) (some (.ok ()))

theorem GroupLaunch.le {env : Environment ε σ η} {timeout start now later : Nat} {group : Group} {events : Events η}
    {started : List (Started η)} {outcome : Option (Except LaunchError Unit)}
    (h : GroupLaunch env timeout start group now events started later outcome) : now ≤ later := by
  cases h with
  | notSpawned spawn => exact spawn.le
  | notReady spawn await => exact Nat.le_trans spawn.le await.le
  | notSettled spawn await passed => exact Nat.le_trans (Nat.le_trans spawn.le await.le) passed
  | settled spawn await => exact Nat.le_trans (Nat.le_trans spawn.le await.le) (Nat.le_add_right _ _)

/-- What the beginning of a group tells. -/
def groupEvents (index : Nat) (old : RunState) (group : Group) (now : Nat) : Events η :=
  [(now, .state old (.launching index)), (now, .announced group.label)]

@[simp] theorem told_groupEvents (index : Nat) (old : RunState) (group : Group) (now : Nat) :
    told (groupEvents index old group now : Events η) = [] := rfl

/-- The launch of groups from an index on and from a state on: it ends with all groups launched, with an error, or, without
an outcome, where it is cut off. -/
inductive Launching (env : Environment ε σ η) (timeout start : Nat) :
    Nat → RunState → List Group → Nat → Events η → List (Started η) → Nat → RunState →
      Option (Except LaunchError Unit) → Prop where
  | done (index : Nat) (state : RunState) (now : Nat) :
      Launching env timeout start index state [] now [] [] now state (some (.ok ()))
  | stopped {index : Nat} {old : RunState} {group : Group} (rest : List Group) {now later : Nat} {events : Events η}
      {started : List (Started η)} {outcome : Option (Except LaunchError Unit)}
      (launch : GroupLaunch env timeout start group now events started later outcome)
      (stopped : outcome ≠ some (.ok ())) :
      Launching env timeout start index old (group :: rest) now (groupEvents index old group now ++ events) started later
        (.launching index) outcome
  | next {index : Nat} {old : RunState} {group : Group} {rest : List Group} {now settled later : Nat}
      {events more : Events η} {started started' : List (Started η)} {state : RunState}
      {outcome : Option (Except LaunchError Unit)}
      (launch : GroupLaunch env timeout start group now events started settled (some (.ok ())))
      (others : Launching env timeout start (index + 1) (.launching index) rest settled more started' later state outcome) :
      Launching env timeout start index old (group :: rest) now (groupEvents index old group now ++ events ++ more)
        (started ++ started') later state outcome

theorem Launching.le {env : Environment ε σ η} {timeout start index now later : Nat} {old new : RunState}
    {groups : List Group} {events : Events η} {started : List (Started η)} {outcome : Option (Except LaunchError Unit)}
    (h : Launching env timeout start index old groups now events started later new outcome) : now ≤ later := by
  induction h with
  | done index state now => exact Nat.le_refl _
  | stopped rest launch stopped => exact launch.le
  | next launch others ih => exact Nat.le_trans launch.le ih

section Runs

variable (env : Environment ε σ η) (cut : Option Nat) (options : RunOptions) (start : Nat)

/-- A group settles for what is left of its time, if it is not cut off. -/
theorem run_settle (group : Group) (spawned now : Nat) (s : Session σ η) :
    ∃ outcome later world, (settle group spawned : Act (Call η) σ η Unit).run (elapse env) cut now s =
        ⟨outcome, later, { s with world := world }, settleEvents group spawned now⟩ ∧
      (outcome = some () ∧ later = now + (group.settle - (now - spawned)) ∨ outcome = none ∧ now ≤ later) := by
  -- with no time left to settle there is no wait, and nothing to cut off
  by_cases h : group.settle - (now - spawned) = 0
  · refine ⟨some (), now, s.world, ?_, Or.inl ⟨rfl, by omega⟩⟩
    simp [settle, settleEvents, h, Activity.run]
  · have hle := Activity.le_run_now (elapse env) cut (settle group spawned : Act (Call η) σ η Unit) now s
    simp only [settle, settleEvents, h, if_false, Activity.run, Activity.pause] at hle ⊢
    cases hc : Activity.cutWithin cut now (group.settle - (now - spawned)) with
    | some c =>
      rw [hc] at hle
      exact ⟨none, c, _, rfl, Or.inr ⟨rfl, hle⟩⟩
    | none => exact ⟨some (), _, _, rfl, Or.inl ⟨rfl, rfl⟩⟩

theorem run_launchGroup (index : Nat) (group : Group) (now : Nat) (s : Session σ η) :
    ∃ outcome later world events started,
      (launchGroup env.recording options start index group).run (elapse env) cut now s =
          ⟨outcome, later, ⟨world, .launching index, s.started ++ started⟩, groupEvents index s.state group now ++ events⟩ ∧
        GroupLaunch env options.readyTimeout start group now events started later outcome := by
  have hstate : (setState (.launching index) : Act (Call η) σ η Unit).run (elapse env) cut now s =
    ⟨some (), now, { s with state := .launching index }, [(now, .state s.state (.launching index))]⟩ := rfl
  obtain ⟨events, started, spawned, failure, world, hspawn, hs⟩ :=
    run_launchAll env cut start group.specs now { s with state := .launching index }
  rw [launchGroup, Activity.run_bind_some hstate, Activity.run_bind_some (Activity.run_tell _ now _),
    Activity.run_bind_some hspawn]
  cases failure with
  | some e =>
    refine ⟨_, spawned, world, events, started, ?_, .notSpawned hs⟩
    simp [spawnResult, Run.after, Activity.run, pure, groupEvents]
  | none =>
    have hlook : (Activity.look fun now _ => now : Act (Call η) σ η Nat).run (elapse env) cut spawned
      ⟨world, .launching index, s.started ++ started⟩ = ⟨some spawned, spawned, _, []⟩ := rfl
    obtain ⟨outcome, ready, world', events', hawait, ha⟩ := run_awaitAll env cut options.readyTimeout
      (group.specs.zip (started.map Started.handle)) spawned ⟨world, .launching index, s.started ++ started⟩
    simp only [spawnResult]
    rw [Activity.run_bind_some hlook]
    rcases outcome with _ | e | u
    · rw [Activity.run_bind_none hawait]
      exact ⟨none, ready, world', events ++ events', started, rfl, .notReady hs ha (by simp)⟩
    · rw [Activity.run_bind_some hawait]
      refine ⟨_, ready, world', events ++ events', started, ?_, .notReady hs ha (by simp)⟩
      simp [Run.after, Activity.run, pure, groupEvents]
    · rw [Activity.run_bind_some hawait]
      obtain ⟨outcome, later, world'', hsettle, ⟨rfl, rfl⟩ | ⟨rfl, hle⟩⟩ :=
        run_settle env cut group spawned ready ⟨world', .launching index, s.started ++ started⟩
      · refine ⟨_, _, world'', _, started, ?_, .settled hs ha⟩
        simp only
        rw [Activity.run_bind_some hsettle]
        simp [Run.after, Activity.run, pure, groupEvents]
      · refine ⟨none, later, world'', _, started, ?_, .notSettled hs ha hle⟩
        simp only
        rw [Activity.run_bind_none hsettle]
        simp [Run.after, groupEvents]

theorem run_launchGroups (index : Nat) (groups : List Group) (now : Nat) (s : Session σ η) :
    ∃ outcome later world state events started,
      (launchGroups env.recording options start index groups).run (elapse env) cut now s =
          ⟨outcome, later, ⟨world, state, s.started ++ started⟩, events⟩ ∧
        Launching env options.readyTimeout start index s.state groups now events started later state outcome := by
  induction groups generalizing index now s with
  | nil => exact ⟨_, now, s.world, s.state, [], [], by rw [List.append_nil]; rfl, .done index s.state now⟩
  | cons group groups ih =>
    obtain ⟨outcome, settled, world, events, started, hgroup, hs⟩ := run_launchGroup env cut options start index group now s
    rcases outcome with _ | e | u
    · rw [launchGroups, Activity.run_bind_none hgroup]
      exact ⟨none, settled, world, _, _, started, rfl, .stopped groups hs (by simp)⟩
    · rw [launchGroups, Activity.run_bind_some hgroup]
      refine ⟨_, settled, world, _, _, started, ?_, .stopped groups hs (by simp)⟩
      simp [Run.after, Activity.run, pure]
    · rw [launchGroups, Activity.run_bind_some hgroup]
      obtain ⟨outcome, later, world', state, more, started', hrest, hl⟩ :=
        ih (index + 1) settled ⟨world, .launching index, s.started ++ started⟩
      refine ⟨outcome, later, world', state, _, started ++ started', ?_, .next hs hl⟩
      simp only
      rw [hrest]
      simp [Run.after]

end Runs

/-! ## Everything before the processes are stopped -/

/-- What the build tells. -/
def buildEvents (plan : Plan) (start built : Nat) (result : Except LaunchError Unit) : Events η :=
  [(start, .state .idle .building), (start, .building), (start, .told (.build plan)), (built, .told (.built result)),
    (built, .built result)]

@[simp] theorem told_buildEvents (plan : Plan) (start built : Nat) (result : Except LaunchError Unit) :
    told (buildEvents plan start built result : Events η) = [.build plan, .built result] := rfl

/-- What the beginning of the run window tells. -/
def openEvents (options : RunOptions) (plan : Plan) (old : RunState) (now : Nat) : Events η :=
  [(now, .state old .running), (now, .running plan.size options.runFor)]

@[simp] theorem told_interruptEvents (now : Nat) (i : Option Interruption) :
    told (interruptEvents now i : Events η) = [] := by
  unfold interruptEvents
  split
  · rfl
  · rfl

/-- The instant at which the build has ended. From then on a run listens for an interrupt. -/
def listensFrom (env : Environment ε σ η) (plan : Plan) (start : Nat) (world : σ) : Nat :=
  ((env.build plan).run env.elapse none start world).now

/-- A run up to where its processes are stopped, with the failure if there is one and whether it was interrupted. -/
inductive Driving (env : Environment ε σ η) (options : RunOptions) (plan : Plan) (i : Option Interruption)
    (start built : Nat) : Events η → List (Started η) → Nat → RunState → Option LaunchError → Bool → Prop where
  | notBuilt {w : σ} {e : LaunchError} (answer : ((env.build plan).run env.elapse none start w).result = some (.error e)) :
      Driving env options plan i start built (buildEvents plan start built (.error e)) [] built .building (some e) false
  | notLaunched {events : Events η} {started : List (Started η)} {later : Nat} {state : RunState} {e : LaunchError}
      (launch : Launching env options.readyTimeout start 0 .building plan.groups built events started later state
        (some (.error e))) :
      Driving env options plan i start built (buildEvents plan start built (.ok ()) ++ events) started later state (some e)
        false
  | interrupted {events : Events η} {started : List (Started η)} {later : Nat} {state : RunState}
      (launch : Launching env options.readyTimeout start 0 .building plan.groups built events started later state none) :
      Driving env options plan i start built
        (buildEvents plan start built (.ok ()) ++ events ++ interruptEvents later i) started later state
        (some (.interrupted (groupLabel plan state))) true
  | ran {events : Events η} {started : List (Started η)} {launched : Nat} {state : RunState}
      (launch : Launching env options.readyTimeout start 0 .building plan.groups built events started launched state
        (some (.ok ())))
      (whole : Activity.cutWithin (i.map Interruption.instant) launched options.runFor = none) :
      Driving env options plan i start built
        (buildEvents plan start built (.ok ()) ++ events ++ openEvents options plan state launched ++
          [(launched + options.runFor, .windowOver)]) started (launched + options.runFor) .running none false
  | cutShort {events : Events η} {started : List (Started η)} {launched later : Nat} {state : RunState}
      (launch : Launching env options.readyTimeout start 0 .building plan.groups built events started launched state
        (some (.ok ())))
      (cut : Activity.cutWithin (i.map Interruption.instant) launched options.runFor = some later) :
      Driving env options plan i start built
        (buildEvents plan start built (.ok ()) ++ events ++ openEvents options plan state launched ++
          (interruptEvents later i ++ [(later, .stoppedEarly)])) started later .running none true

section Runs

variable (env : Environment ε σ η) (options : RunOptions) (plan : Plan) (i : Option Interruption) (start : Nat)

theorem run_build (world : σ) :
    ∃ result world', (build env.recording plan).run (elapse env) none start ⟨world, .idle, []⟩ =
        ⟨some result, listensFrom env plan start world, ⟨world', .building, []⟩,
          buildEvents plan start (listensFrom env plan start world) result⟩ ∧
      ((env.build plan).run env.elapse none start world).result = some result := by
  obtain ⟨result, hresult⟩ := Activity.run_none_some env.elapse (env.build plan) start world
  have hstate : (setState .building : Act (Call η) σ η Unit).run (elapse env) none start ⟨world, .idle, []⟩ =
    ⟨some (), start, ⟨world, .building, []⟩, [(start, .state .idle .building)]⟩ := rfl
  rcases hr : (env.build plan).run env.elapse none start world with ⟨r, built, world', told⟩
  rw [hr] at hresult
  dsimp only at hresult
  subst hresult
  have hcall : (onWorld (env.recording.build plan)).run (elapse env) none start ⟨world, .building, []⟩ = _ :=
    run_onWorld_recorded _ _ hr
  refine ⟨result, world', ?_, rfl⟩
  rw [build, Activity.run_bind_some hstate, Activity.run_bind_some (Activity.run_tell _ start _),
    Activity.run_bind_some hcall, listensFrom, hr]
  rfl

/-- What an interrupt tells, it tells when it takes effect. -/
theorem le_of_mem_interruptEvents {c now : Nat} (h : c ≤ now) (i : Option Interruption) :
    ∀ e ∈ (interruptEvents now i : List (Nat × Notice ε)), c ≤ e.1 := by
  unfold interruptEvents
  split
  · exact List.forall_mem_singleton.2 h
  · exact List.forall_mem_nil _

/-- The run window tells nothing before it begins. -/
theorem le_driveWindow (i : Option Interruption) (now : Nat) (s : Session σ η) :
    (∀ e ∈ (driveWindow env options plan i now s).events, now ≤ e.1) ∧ now ≤ (driveWindow env options plan i now s).now := by
  have hevents := Activity.le_of_mem_events (elapse env) (i.map Interruption.instant)
    (window options plan : Act ε σ η Unit) now s
  have hnow := Activity.le_run_now (elapse env) (i.map Interruption.instant) (window options plan : Act ε σ η Unit) now s
  unfold driveWindow
  dsimp only
  split
  · exact ⟨hevents, hnow⟩
  · refine ⟨List.forall_mem_append.2 ⟨List.forall_mem_append.2 ⟨hevents, le_of_mem_interruptEvents hnow i⟩, ?_⟩, hnow⟩
    exact List.forall_mem_singleton.2 hnow

theorem driveWindow_ran {now : Nat} (s : Session σ η)
    (h : Activity.cutWithin (i.map Interruption.instant) now options.runFor = none) :
    ∃ world, driveWindow env.recording options plan i now s =
      ⟨none, false, now + options.runFor, ⟨world, .running, s.started⟩,
        openEvents options plan s.state now ++ [(now + options.runFor, .windowOver)]⟩ := by
  refine ⟨env.elapse now (now + options.runFor) s.world, ?_⟩
  have hopen : (openWindow options plan : Act (Call η) σ η Unit).run (elapse env) (i.map Interruption.instant) now s =
    ⟨some (), now, { s with state := .running }, openEvents options plan s.state now⟩ := rfl
  have hpause : (Activity.pause options.runFor : Act (Call η) σ η Unit).run (elapse env) (i.map Interruption.instant) now
      { s with state := .running } =
      ⟨some (), now + options.runFor, elapse env now (now + options.runFor) { s with state := .running }, []⟩ := by
    simp only [Activity.pause, Activity.run, h]
  have helapse : elapse env.recording = elapse env := rfl
  rw [driveWindow, window, helapse, Activity.run_bind_some hopen, Activity.run_bind_some hpause]
  rfl

theorem driveWindow_cutShort {now later : Nat} (s : Session σ η)
    (h : Activity.cutWithin (i.map Interruption.instant) now options.runFor = some later) :
    ∃ world, driveWindow env.recording options plan i now s =
      ⟨none, true, later, ⟨world, .running, s.started⟩,
        openEvents options plan s.state now ++ (interruptEvents later i ++ [(later, .stoppedEarly)])⟩ := by
  refine ⟨env.elapse now later s.world, ?_⟩
  have hopen : (openWindow options plan : Act (Call η) σ η Unit).run (elapse env) (i.map Interruption.instant) now s =
    ⟨some (), now, { s with state := .running }, openEvents options plan s.state now⟩ := rfl
  have hpause : (Activity.pause options.runFor : Act (Call η) σ η Unit).run (elapse env) (i.map Interruption.instant) now
      { s with state := .running } = ⟨none, later, elapse env now later { s with state := .running }, []⟩ := by
    simp only [Activity.pause, Activity.run, h]
  have helapse : elapse env.recording = elapse env := rfl
  rw [driveWindow, window, helapse, Activity.run_bind_some hopen, Activity.run_bind_none hpause]
  simp [Run.after, elapse]

theorem drive_driving (interrupt : Nat → Option Interruption) (world : σ) :
    ∃ failure interrupted now world' state started events,
      drive env.recording options plan interrupt start world =
          ⟨failure, interrupted, now, ⟨world', state, started⟩, events⟩ ∧
        Driving env options plan (interrupt (listensFrom env plan start world)) start (listensFrom env plan start world)
          events started now state failure interrupted := by
  have helapse : elapse env.recording = elapse env := rfl
  obtain ⟨result, world₁, hbuild, hanswer⟩ := run_build env plan start world
  generalize listensFrom env plan start world = built at hbuild ⊢
  generalize hi : interrupt built = i
  cases result with
  | error e =>
    refine ⟨_, _, _, world₁, _, _, _, ?_, .notBuilt hanswer⟩
    simp only [drive, helapse, hbuild]
  | ok u =>
    obtain ⟨outcome, launched, world₂, state, events, started, hlaunch, hl⟩ :=
      run_launchGroups env (i.map Interruption.instant) options start 0 plan.groups built ⟨world₁, .building, []⟩
    rw [List.nil_append] at hlaunch
    rcases outcome with _ | e | u
    · refine ⟨_, _, _, world₂, _, _, _, ?_, .interrupted hl⟩
      simp [drive, driveLaunch, helapse, hbuild, hi, hlaunch]
    · refine ⟨_, _, _, world₂, _, _, _, ?_, .notLaunched hl⟩
      simp [drive, driveLaunch, helapse, hbuild, hi, hlaunch]
    · cases hc : Activity.cutWithin (i.map Interruption.instant) launched options.runFor with
      | none =>
        obtain ⟨world₃, hwindow⟩ := driveWindow_ran env options plan i ⟨world₂, state, started⟩ hc
        refine ⟨_, _, _, world₃, _, _, _, ?_, .ran hl hc⟩
        simp [drive, driveLaunch, helapse, hbuild, hi, hlaunch, hwindow]
      | some later =>
        obtain ⟨world₃, hwindow⟩ := driveWindow_cutShort env options plan i ⟨world₂, state, started⟩ hc
        refine ⟨_, _, _, world₃, _, _, _, ?_, .cutShort hl hc⟩
        simp [drive, driveLaunch, helapse, hbuild, hi, hlaunch, hwindow]

end Runs

/-! ## Stopping processes -/

/-- What stopping a process tells. -/
def stopEvents (env : Environment ε σ η) (shutdown : Shutdown) (h : η) (before after : Nat) (outcome : StopOutcome) :
    Events η :=
  [(before, .terminating (env.name h) shutdown), (before, .told (.stop h shutdown)), (after, .told (.stopped h outcome)),
    (after, .terminated (env.name h) outcome)]

@[simp] theorem told_stopEvents (env : Environment ε σ η) (shutdown : Shutdown) (h : η) (before after : Nat)
    (outcome : StopOutcome) :
    told (stopEvents env shutdown h before after outcome) = [.stop h shutdown, .stopped h outcome] := rfl

/-- Processes are stopped one after the other. -/
inductive Stopping (env : Environment ε σ η) (shutdown : Shutdown) :
    List (Started η) → Nat → Events η → List StopRecord → Nat → Prop where
  | done (now : Nat) : Stopping env shutdown [] now [] [] now
  | stop {p : Started η} {rest : List (Started η)} {before after later : Nat} {outcome : StopOutcome} {events : Events η}
      {records : List StopRecord} (passed : before ≤ after) (more : Stopping env shutdown rest after events records later) :
      Stopping env shutdown (p :: rest) before (stopEvents env shutdown p.handle before after outcome ++ events)
        (⟨env.name p.handle, outcome⟩ :: records) later

theorem run_stopAll (env : Environment ε σ η) (shutdown : Shutdown) (started : List (Started η)) (now : Nat)
    (s : Session σ η) :
    ∃ records later world events, (stopAll env.recording shutdown started).run (elapse env) none now s =
        ⟨some records, later, { s with world := world }, events⟩ ∧
      Stopping env shutdown started now events records later := by
  induction started generalizing now s with
  | nil => exact ⟨[], now, s.world, [], rfl, .done now⟩
  | cons p started ih =>
    obtain ⟨outcome, houtcome⟩ := Activity.run_none_some env.elapse (env.terminate p.handle shutdown) now s.world
    have hle := Activity.le_run_now env.elapse none (env.terminate p.handle shutdown) now s.world
    rcases hr : (env.terminate p.handle shutdown).run env.elapse none now s.world with ⟨r, after, world, told⟩
    rw [hr] at houtcome hle
    dsimp only at houtcome
    subst houtcome
    have hcall : (onWorld (env.recording.terminate p.handle shutdown)).run (elapse env) none now s = _ :=
      run_onWorld_recorded _ _ hr
    obtain ⟨records, later, world', events, hrest, hs⟩ := ih after { s with world := world }
    refine ⟨⟨env.name p.handle, outcome⟩ :: records, later, world',
      stopEvents env shutdown p.handle now after outcome ++ events, ?_, .stop hle hs⟩
    rw [stopAll, Activity.run_bind_some (Activity.run_tell _ now _), Activity.run_bind_some hcall,
      Activity.run_bind_some (Activity.run_tell _ after _), Activity.run_bind_some hrest]
    simp [Run.after, Activity.run, pure, stopEvents, Environment.recording]

/-! ## The whole run -/

/-- What a failure tells before the processes are stopped. -/
def failureEvents (now : Nat) : Option LaunchError → Events η
  | some e => [(now, .failed e)]
  | none => []

@[simp] theorem told_failureEvents (now : Nat) (failure : Option LaunchError) :
    told (failureEvents now failure : Events η) = [] := by
  cases failure with
  | none => rfl
  | some e => rfl

/-- The course of a run that listens for an interrupt from the instant `built` on and hears of `i`. -/
inductive Course (env : Environment ε σ η) (options : RunOptions) (plan : Plan) (i : Option Interruption)
    (start built : Nat) (f : Finished (Call η) σ) : Prop where
  | mk {events stops : Events η} {started : List (Started η)} {now : Nat} {state : RunState} {records : List StopRecord}
      (drive : Driving env options plan i start built events started now state f.failure f.report.interrupted)
      (stop : Stopping env options.shutdown started now stops records f.now)
      (told : f.events = events ++ failureEvents now f.failure ++ (now, .state state .terminating) :: stops ++
        [(f.now, .state .terminating .done)])
      (report : f.report = ⟨plan.case, started.map Started.record, records, f.report.interrupted, .done⟩) :
      Course env options plan i start built f

theorem run_finish (env : Environment ε σ η) (options : RunOptions) (failure : Option LaunchError) (now : Nat)
    (s : Session σ η) :
    ∃ records later world stops, (finish env.recording options failure).run (elapse env) none now s =
        ⟨some records, later, ⟨world, .done, s.started⟩,
          failureEvents now failure ++ (now, .state s.state .terminating) :: stops ++
            [(later, .state .terminating .done)]⟩ ∧
      Stopping env options.shutdown s.started now stops records later := by
  obtain ⟨records, later, world, stops, hstop, hs⟩ :=
    run_stopAll env options.shutdown s.started now { s with state := .terminating }
  have hstate : (setState .terminating : Act (Call η) σ η Unit).run (elapse env) none now s =
    ⟨some (), now, { s with state := .terminating }, [(now, .state s.state .terminating)]⟩ := rfl
  have hteardown : (teardown env.recording options.shutdown).run (elapse env) none now s =
      ⟨some records, later, { s with world := world, state := .terminating },
        (now, .state s.state .terminating) :: stops⟩ := by
    rw [teardown, Activity.run, Activity.run_bind_some hstate, hstop]
    rfl
  refine ⟨records, later, world, stops, ?_, hs⟩
  cases failure with
  | some e =>
    rw [finish]
    dsimp only
    rw [Activity.run_bind_some (Activity.run_tell _ now _), Activity.run_bind_some hteardown]
    rfl
  | none =>
    rw [finish]
    dsimp only
    rw [Activity.run_bind_some hteardown]
    rfl

/-- Every run in the recording environment has a course. -/
theorem run_course (env : Environment ε σ η) (options : RunOptions) (plan : Plan) (interrupt : Nat → Option Interruption)
    (start : Nat) (world : σ) :
    Course env options plan (interrupt (listensFrom env plan start world)) start (listensFrom env plan start world)
      (run env.recording options plan interrupt start world) := by
  obtain ⟨failure, interrupted, now, world', state, started, events, hdrive, hd⟩ :=
    drive_driving env options plan start interrupt world
  obtain ⟨records, later, world'', stops, hfinish, hs⟩ := run_finish env options failure now ⟨world', state, started⟩
  have hrun : run env.recording options plan interrupt start world =
      ⟨⟨plan.case, started.map Started.record, records, interrupted, .done⟩, failure,
        events ++ (failureEvents now failure ++ (now, .state state .terminating) :: stops ++
          [(later, .state .terminating .done)]), later, world''⟩ := by
    have helapse : elapse env.recording = elapse env := rfl
    simp only [run, hdrive, helapse, hfinish, Option.getD_some]
  rw [hrun]
  exact ⟨hd, hs, by simp, rfl⟩

end StagedLaunch.Supervisor
