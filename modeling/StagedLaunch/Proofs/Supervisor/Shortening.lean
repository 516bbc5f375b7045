import StagedLaunch.Proofs.Supervisor.Instants
import StagedLaunch.Proofs.Supervisor.Progress

/-!
# Interrupts only shorten a run

Two runs that are interrupted at different instants are the same up to the earlier of them. What the one launches is the
beginning of what the other launches, and an interrupt that comes when processes are already being stopped does nothing
(`run_shortened`).

Both are followed through the parts of a run: either a part goes the same way in both runs, or they `Fork`.
-/

namespace StagedLaunch.Supervisor

variable {ε σ η : Type}

/-! ## The launches that a run tells of -/

/-- What the report says about the launch that a notice tells of, in a run from an instant on. -/
def launchRecord? (start : Nat) : Nat × Notice ε → Option LaunchRecord
  | (now, .launched _ (.ok (name, pid))) => some ⟨name, pid, now - start⟩
  | _ => none

/-- What the report says about the launches that notices tell of. -/
def launchRecords (start : Nat) (events : List (Nat × Notice ε)) : List LaunchRecord :=
  events.filterMap (launchRecord? start)

@[simp] theorem launchRecords_append (start : Nat) (a b : List (Nat × Notice ε)) :
    launchRecords start (a ++ b) = launchRecords start a ++ launchRecords start b := List.filterMap_append

theorem Spawning.launchRecords_eq {env : Environment ε σ η} {start now later : Nat} {specs : List LaunchSpec}
    {events : Events η} {started : List (Started η)} {failure : Option LaunchError}
    (h : Spawning env start specs now events started later failure) :
    launchRecords start events = started.map Started.record := by
  induction h with
  | done now => rfl
  | failed rest answer => rfl
  | launched pid answer more ih =>
    rw [launchRecords_append, ih]
    rfl

theorem Awaiting.launchRecords_eq {env : Environment ε σ η} {timeout now later : Nat} {due : List (Due η)}
    {events : Events η} {outcome : Option (Except LaunchError Unit)} (start : Nat)
    (h : Awaiting env timeout due now events later outcome) : launchRecords start events = [] := by
  induction h with
  | done now => rfl
  | ready passed more ih =>
    rw [launchRecords_append, ih]
    rfl
  | failed rest passed answer => rfl
  | cut d rest passed => rfl

theorem launchRecords_settleEvents (start : Nat) (group : Group) (spawned ready : Nat) :
    launchRecords start (settleEvents group spawned ready : Events η) = [] := by
  unfold settleEvents
  split
  · rfl
  · rfl

theorem GroupLaunch.launchRecords_eq {env : Environment ε σ η} {timeout start now later : Nat} {group : Group}
    {events : Events η} {started : List (Started η)} {outcome : Option (Except LaunchError Unit)}
    (h : GroupLaunch env timeout start group now events started later outcome) :
    launchRecords start events = started.map Started.record := by
  cases h with
  | notSpawned spawn => exact spawn.launchRecords_eq
  | notReady spawn await stopped =>
    rw [launchRecords_append, spawn.launchRecords_eq, await.launchRecords_eq, List.append_nil]
  | notSettled spawn await passed =>
    rw [launchRecords_append, launchRecords_append, spawn.launchRecords_eq, await.launchRecords_eq,
      launchRecords_settleEvents, List.append_nil, List.append_nil]
  | settled spawn await =>
    rw [launchRecords_append, launchRecords_append, spawn.launchRecords_eq, await.launchRecords_eq,
      launchRecords_settleEvents, List.append_nil, List.append_nil]

theorem Launching.launchRecords_eq {env : Environment ε σ η} {timeout start index now later : Nat} {old new : RunState}
    {groups : List Group} {events : Events η} {started : List (Started η)} {outcome : Option (Except LaunchError Unit)}
    (h : Launching env timeout start index old groups now events started later new outcome) :
    launchRecords start events = started.map Started.record := by
  induction h with
  | done index state now => rfl
  | stopped rest launch stopped =>
    rw [launchRecords_append, launch.launchRecords_eq]
    rfl
  | next launch others ih =>
    rw [launchRecords_append, launchRecords_append, launch.launchRecords_eq, ih, List.map_append]
    rfl

theorem launchRecords_interruptEvents (start now : Nat) (i : Option Interruption) :
    launchRecords start (interruptEvents now i : List (Nat × Notice ε)) = [] := by
  unfold interruptEvents
  split
  · rfl
  · rfl

theorem launchRecords_failureEvents (start now : Nat) (failure : Option LaunchError) :
    launchRecords start (failureEvents now failure : Events η) = [] := by
  cases failure with
  | none => rfl
  | some e => rfl

theorem Stopping.launchRecords_eq {env : Environment ε σ η} {shutdown : Shutdown} {started : List (Started η)}
    {now later : Nat} {events : Events η} {records : List StopRecord} (start : Nat)
    (h : Stopping env shutdown started now events records later) : launchRecords start events = [] := by
  induction h with
  | done now => rfl
  | stop passed more ih =>
    rw [launchRecords_append, ih]
    rfl

theorem Driving.launchRecords_eq {env : Environment ε σ η} {options : RunOptions} {plan : Plan} {i : Option Interruption}
    {start built now : Nat} {events : Events η} {started : List (Started η)} {state : RunState}
    {failure : Option LaunchError} {interrupted : Bool}
    (h : Driving env options plan i start built events started now state failure interrupted) :
    launchRecords start events = started.map Started.record := by
  cases h with
  | notBuilt answer => rfl
  | notLaunched launch =>
    rw [launchRecords_append, launch.launchRecords_eq]
    rfl
  | interrupted launch =>
    rw [launchRecords_append, launchRecords_append, launch.launchRecords_eq, launchRecords_interruptEvents, List.append_nil]
    rfl
  | ran launch whole =>
    rw [launchRecords_append, launchRecords_append, launchRecords_append, launch.launchRecords_eq]
    exact (List.append_nil _).trans (List.append_nil _)
  | cutShort launch cut =>
    rw [launchRecords_append, launchRecords_append, launchRecords_append, launchRecords_append, launch.launchRecords_eq,
      launchRecords_interruptEvents]
    exact (List.append_nil _).trans (List.append_nil _)

/-- Stopping its processes, a run tells of no launch. -/
theorem launchRecords_finish (env : Environment ε σ η) (options : RunOptions) (failure : Option LaunchError)
    (start now : Nat) (s : Session σ η) :
    launchRecords start ((finish env.recording options failure).run (elapse env) none now s).events = [] := by
  obtain ⟨records, later, world, stops, hfinish, hstop⟩ := run_finish env options failure now s
  rw [hfinish]
  dsimp only
  rw [launchRecords_append, launchRecords_append, launchRecords_failureEvents, List.nil_append]
  have hstops : launchRecords start ((now, .state s.state .terminating) :: stops) = [] := hstop.launchRecords_eq start
  rw [hstops]
  rfl

/-- The launches of a report are those that the run tells of. -/
theorem run_launchRecords (env : Environment ε σ η) (options : RunOptions) (plan : Plan)
    (interrupt : Nat → Option Interruption) (start : Nat) (world : σ) :
    (run env options plan interrupt start world).report.launched =
      launchRecords start (run env.recording options plan interrupt start world).events := by
  obtain ⟨hreport, -⟩ := run_recording env options plan interrupt start world
  obtain @⟨events, after, started, now, state, records, drive, stop, htold, hrun⟩ :=
    run_course env options plan interrupt start world
  have hafter : launchRecords start ((now, .state state .terminating) :: after) = [] := stop.launchRecords_eq start
  rw [← hreport, hrun, htold, launchRecords_append, launchRecords_append, launchRecords_append, drive.launchRecords_eq,
    launchRecords_failureEvents, hafter, List.append_nil, List.append_nil]
  exact (List.append_nil _).symm

/-! ## Runs that fork -/

/-- What two runs tell is the same up to somewhere, and from there on neither of them tells anything before the instant `c`
and the first tells of no launch. -/
def Fork (start c : Nat) (events events' : List (Nat × Notice ε)) : Prop :=
  ∃ common rest rest', events = common ++ rest ∧ events' = common ++ rest' ∧ launchRecords start rest = [] ∧
    (∀ e ∈ rest, c ≤ e.1) ∧ ∀ e ∈ rest', c ≤ e.1

section Fork

variable {start c : Nat} {events events' : List (Nat × Notice ε)}

/-- Two runs that tell the same before they fork. -/
theorem Fork.after (before : List (Nat × Notice ε)) (h : Fork start c events events') :
    Fork start c (before ++ events) (before ++ events') := by
  obtain ⟨common, rest, rest', rfl, rfl, h⟩ := h
  exact ⟨before ++ common, rest, rest', (List.append_assoc ..).symm, (List.append_assoc ..).symm, h⟩

/-- Having forked, the first run goes on without a launch. -/
theorem Fork.append_left (h : Fork start c events events') {more : List (Nat × Notice ε)}
    (hlaunch : launchRecords start more = []) (hmore : ∀ e ∈ more, c ≤ e.1) : Fork start c (events ++ more) events' := by
  obtain ⟨common, rest, rest', rfl, rfl, hnone, hrest, hrest'⟩ := h
  refine ⟨common, rest ++ more, rest', List.append_assoc .., rfl, ?_, List.forall_mem_append.2 ⟨hrest, hmore⟩, hrest'⟩
  rw [launchRecords_append, hnone, hlaunch]
  rfl

/-- Having forked, the second run goes on. -/
theorem Fork.append_right (h : Fork start c events events') {more : List (Nat × Notice ε)} (hmore : ∀ e ∈ more, c ≤ e.1) :
    Fork start c events (events' ++ more) := by
  obtain ⟨common, rest, rest', rfl, rfl, hnone, hrest, hrest'⟩ := h
  exact ⟨common, rest, rest' ++ more, rfl, List.append_assoc .., hnone, hrest, List.forall_mem_append.2 ⟨hrest', hmore⟩⟩

/-- The first has launched what the second has launched first. -/
theorem Fork.launchRecords_prefix (h : Fork start c events events') :
    launchRecords start events <+: launchRecords start events' := by
  obtain ⟨common, rest, rest', rfl, rfl, hnone, -, -⟩ := h
  rw [launchRecords_append, launchRecords_append, hnone, List.append_nil]
  exact List.prefix_append _ _

/-- Before the instant `c` both tell the same. -/
theorem Fork.filter_eq (h : Fork start c events events') :
    events.filter (fun e => e.1 < c) = events'.filter fun e => e.1 < c := by
  have hnil : ∀ l : List (Nat × Notice ε), (∀ e ∈ l, c ≤ e.1) → l.filter (fun e => e.1 < c) = [] := by
    intro l hl
    refine List.filter_eq_nil_iff.2 fun e he => ?_
    have := hl e he
    simpa using this
  obtain ⟨common, rest, rest', rfl, rfl, -, hrest, hrest'⟩ := h
  rw [List.filter_append, List.filter_append, hnil rest hrest, hnil rest' hrest']

end Fork

/-- Two runs of a part fork where the first is cut off before the second. -/
theorem fork_of_cutBefore {α : Type} {start c : Nat} {r r' : Run (Notice ε) σ α} (h : Activity.CutBefore c r r') :
    Fork start c r.events r'.events := by
  obtain ⟨later, hevents, hlater⟩ := h.events_eq
  exact ⟨r.events, [], later, (List.append_nil _).symm, hevents, rfl, List.forall_mem_nil _, hlater⟩

/-! ## Two interrupts -/

/-- Two runs come to the stop of their processes in the same way, or they have forked and come to it no earlier than
at `c`. -/
def ForkDrive (start c : Nat) (d d' : Drive ε σ η) : Prop :=
  d = d' ∨ Fork start c d.events d'.events ∧ c ≤ d.now ∧ c ≤ d'.now

theorem ForkDrive.after {start c : Nat} {d d' : Drive ε σ η} (before : List (Nat × Notice ε)) (h : ForkDrive start c d d') :
    ForkDrive start c { d with events := before ++ d.events } { d' with events := before ++ d'.events } := by
  rcases h with rfl | ⟨hfork, hle, hle'⟩
  · exact Or.inl rfl
  · exact Or.inr ⟨hfork.after before, hle, hle'⟩

section Drive

variable (env : Environment ε σ η) (options : RunOptions) (plan : Plan) (start : Nat)

variable {i : Interruption} {i' : Option Interruption}

/-- The instant of a later interrupt is no earlier. -/
theorem le_of_map_instant (hi : ∀ j, i' = some j → i.instant ≤ j.instant) :
    ∀ c, i'.map Interruption.instant = some c → i.instant ≤ c := by
  intro c hc
  obtain ⟨j, hj, rfl⟩ := Option.map_eq_some_iff.1 hc
  exact hi j hj

/-- Of two interrupts of the run window the earlier one ends it no later. -/
theorem driveWindow_fork (hi : ∀ j, i' = some j → i.instant ≤ j.instant) (now : Nat) (s : Session σ η) :
    ForkDrive start i.instant (driveWindow env options plan (some i) now s) (driveWindow env options plan i' now s) := by
  -- what is told when the window is cut short
  have hquiet : ∀ (now : Nat) (k : Option Interruption),
      launchRecords start (interruptEvents now k ++ [(now, (Notice.stoppedEarly : Notice ε))]) = [] := by
    intro now k
    rw [launchRecords_append, launchRecords_interruptEvents]
    rfl
  have hend : ∀ (now : Nat) (k : Option Interruption), i.instant ≤ now →
      ∀ e ∈ interruptEvents now k ++ [(now, (Notice.stoppedEarly : Notice ε))], i.instant ≤ e.1 := fun now k hnow =>
    List.forall_mem_append.2 ⟨le_of_mem_interruptEvents hnow k, List.forall_mem_singleton.2 hnow⟩
  unfold driveWindow
  rcases Activity.run_cutBefore (elapse env) (le_of_map_instant hi) (window options plan : Act ε σ η Unit) now s with
    ⟨⟨a, ha⟩, heq⟩ | h
  · left
    simp only [Option.map_some, heq, ha]
  · right
    have hforked : Fork start i.instant _ _ := fork_of_cutBefore h
    have hfork := hforked.append_left (hquiet _ (some i)) (hend _ (some i) h.le_now)
    simp only [Option.map_some, h.result_eq, List.append_assoc]
    split
    · exact ⟨hfork, h.le_now, h.le_now'⟩
    · exact ⟨hfork.append_right (hend _ _ h.le_now'), h.le_now, h.le_now'⟩

/-- Of two interrupts of the launch or of the window after it the earlier one ends it no later. -/
theorem driveLaunch_fork (hi : ∀ j, i' = some j → i.instant ≤ j.instant) (now : Nat) (s : Session σ η) :
    ForkDrive start i.instant (driveLaunch env options plan (some i) start now s)
      (driveLaunch env options plan i' start now s) := by
  unfold driveLaunch
  rcases Activity.run_cutBefore (elapse env) (le_of_map_instant hi) (launchGroups env options start 0 plan.groups) now s
    with ⟨⟨a, ha⟩, heq⟩ | h
  · simp only [Option.map_some, heq, ha]
    cases a with
    | error e => exact Or.inl rfl
    | ok u => exact (driveWindow_fork env options plan start hi _ _).after _
  · right
    have hforked : Fork start i.instant _ _ := fork_of_cutBefore h
    have hfork := hforked.append_left (launchRecords_interruptEvents start _ (some i))
      (le_of_mem_interruptEvents h.le_now _)
    simp only [Option.map_some, h.result_eq]
    split
    · exact ⟨hfork.append_right (le_of_mem_interruptEvents h.le_now' _), h.le_now, h.le_now'⟩
    · exact ⟨hfork, h.le_now, h.le_now'⟩
    · -- the second comes to its window, of which nothing is told before the first was cut off
      obtain ⟨hevents, hnow⟩ := le_driveWindow env options plan i'
        ((launchGroups env options start 0 plan.groups).run (elapse env) (i'.map Interruption.instant) now s).now
        ((launchGroups env options start 0 plan.groups).run (elapse env) (i'.map Interruption.instant) now s).state
      exact ⟨hfork.append_right fun e he => Nat.le_trans h.le_now' (hevents e he), h.le_now,
        Nat.le_trans h.le_now' hnow⟩

variable (world : σ) {interrupt interrupt' : Nat → Option Interruption}

/-- Of two interrupts the earlier one brings a run no later to the stop of its processes. -/
theorem drive_fork (hi : interrupt (listensFrom env plan start world) = some i)
    (hi' : ∀ j, interrupt' (listensFrom env plan start world) = some j → i.instant ≤ j.instant) :
    ForkDrive start i.instant (drive env options plan interrupt start world)
      (drive env options plan interrupt' start world) := by
  have hnow := builtRun_now env plan start world
  unfold builtRun at hnow
  unfold drive
  simp only [hnow, hi]
  split
  · exact Or.inl rfl
  · exact Or.inl rfl
  · exact (driveLaunch_fork env options plan start hi' _ _).after _

/-! ## Interrupts that come late -/

theorem driveWindow_late {now : Nat} {s : Session σ η} (h : (driveWindow env options plan none now s).now ≤ i.instant) :
    driveWindow env options plan (some i) now s = driveWindow env options plan none now s := by
  obtain ⟨u, hu⟩ := Activity.run_none_some (elapse env) (window options plan : Act ε σ η Unit) now s
  unfold driveWindow at h ⊢
  simp only [Option.map_none, hu] at h
  simp only [Option.map_none, Option.map_some, Activity.run_eq_of_le h, hu]

theorem driveLaunch_late {now : Nat} {s : Session σ η}
    (h : (driveLaunch env options plan none start now s).now ≤ i.instant) :
    driveLaunch env options plan (some i) start now s = driveLaunch env options plan none start now s := by
  obtain ⟨a, ha⟩ := Activity.run_none_some (elapse env) (launchGroups env options start 0 plan.groups) now s
  unfold driveLaunch at h ⊢
  simp only [Option.map_none, ha] at h
  cases a with
  | error e => simp only [Option.map_none, Option.map_some, Activity.run_eq_of_le h, ha]
  | ok u =>
    have hle := (le_driveWindow env options plan none
      ((launchGroups env options start 0 plan.groups).run (elapse env) none now s).now
      ((launchGroups env options start 0 plan.groups).run (elapse env) none now s).state).2
    have hlaunch := Activity.run_eq_of_le (Nat.le_trans hle h)
    simp only [Option.map_none, Option.map_some, hlaunch, ha, driveWindow_late env options plan h]

/-- An interrupt that comes when nothing is left but to stop the processes does nothing. -/
theorem drive_late (hi : interrupt (listensFrom env plan start world) = some i)
    (h : (drive env options plan (fun _ => none) start world).now ≤ i.instant) :
    drive env options plan interrupt start world = drive env options plan (fun _ => none) start world := by
  have hnow := builtRun_now env plan start world
  obtain ⟨r, hr⟩ := builtRun_some env plan start world
  unfold builtRun at hnow hr
  unfold drive at h ⊢
  simp only [hr] at h
  cases r with
  | error e => simp only [hr]
  | ok u => simp only [hr, hnow, hi, hnow ▸ driveLaunch_late env options plan start h]

end Drive

/-! ## The whole run -/

/-- A change of the state is told by the run itself. -/
theorem state_mem_own {events : List (Nat × Notice ε)} {now : Nat} {old new : RunState} :
    (now, .state old new) ∈ own events ↔ (now, .state old new) ∈ events := by
  constructor
  · intro h
    obtain ⟨n, hn, hown⟩ := mem_own h
    cases n with
    | state old' new' =>
      cases hown
      exact hn
    | _ => cases hown
  · exact fun h => List.mem_filterMap.2 ⟨_, h, rfl⟩

/-- A state that a run comes to is among its steps. -/
theorem mem_steps_of_state {events : List (Nat × Notice ε)} {now : Nat} {old new : RunState}
    (h : (now, .state old new) ∈ events) : .enters new ∈ steps events :=
  List.mem_filterMap.2 ⟨_, h, rfl⟩

/-- Launching groups, a run comes only to the states in which it launches them. -/
theorem state_of_mem_launchSteps {index : Nat} {groups : List Group} {state : RunState}
    (h : .enters state ∈ launchSteps index groups) : ∃ k, state = .launching k := by
  induction groups generalizing index with
  | nil => cases h
  | cons group groups ih =>
    rcases List.mem_cons.1 h with h | h
    · cases h
      exact ⟨index, rfl⟩
    · rcases List.mem_cons.1 h with h | h
      · cases h
      · exact ih h

/-- Before its processes are stopped, a run does not come to that state. -/
theorem Driving.not_terminating {env : Environment ε σ η} {options : RunOptions} {plan : Plan} {i : Option Interruption}
    {start built now : Nat} {events : Events η} {started : List (Started η)} {state : RunState}
    {failure : Option LaunchError} {interrupted : Bool}
    (h : Driving env options plan i start built events started now state failure interrupted) :
    .enters .terminating ∉ steps events := by
  obtain ⟨k, window, -, hsteps, -, hwindow⟩ := h.steps_eq
  rw [hsteps, List.mem_append, List.mem_cons]
  rintro ((h | h) | h)
  · cases h
  · obtain ⟨j, hj⟩ := state_of_mem_launchSteps h
    cases hj
  · rcases hwindow with ⟨-, -, rfl⟩ | ⟨-, rfl⟩
    · simp at h
    · cases h

section Run

variable (env : Environment ε σ η) (options : RunOptions) (plan : Plan) (interrupt : Nat → Option Interruption) (start : Nat)
  (world : σ)

/-- A run begins to stop its processes once, when everything before that is over. -/
theorem run_terminating_iff :
    ∃ old, ∀ t old', (t, .state old' .terminating) ∈ (run env options plan interrupt start world).events ↔
      t = (drive env options plan interrupt start world).now ∧ old' = old := by
  obtain ⟨-, -, -, -, hown⟩ := run_recording env options plan interrupt start world
  have hnow : (drive env options plan interrupt start world).now =
      (drive env.recording options plan interrupt start world).now :=
    congrArg Drive.now (drive_alike env options plan interrupt start world)
  obtain ⟨failure, interrupted, now, world', state, started, events, hdrive, hd⟩ :=
    drive_driving env options plan start interrupt world
  obtain ⟨records, later, world'', stops, hfinish, hs⟩ := run_finish env options failure now ⟨world', state, started⟩
  rw [hdrive] at hnow
  have hevents : (run env.recording options plan interrupt start world).events =
      events ++ (failureEvents now failure ++ (now, .state state .terminating) :: stops ++
        [(later, .state .terminating .done)]) := by
    have helapse : elapse env.recording = elapse env := rfl
    simp only [run, hdrive, helapse, hfinish]
  refine ⟨state, fun t old' => ?_⟩
  rw [← state_mem_own, ← hown, state_mem_own, hevents]
  have hdriven : (t, Notice.state old' .terminating) ∉ events := fun h => hd.not_terminating (mem_steps_of_state h)
  have hfailed : (t, Notice.state old' .terminating) ∉ (failureEvents now failure : Events η) := fun h => by
    have := mem_steps_of_state h
    rw [(steps_failureEvents now failure).1] at this
    cases this
  have hstops : (t, Notice.state old' .terminating) ∉ stops := fun h => by
    have := mem_steps_of_state h
    rw [hs.steps_eq.1] at this
    cases this
  -- of all parts of the run only the beginning of the teardown is left
  simp only [List.mem_append, List.mem_cons, hdriven, hfailed, hstops, false_or, or_false, List.not_mem_nil]
  constructor
  · rintro (h | h)
    · cases h
      exact ⟨hnow.symm, rfl⟩
    · cases h
  · rintro ⟨rfl, rfl⟩
    exact Or.inl (by rw [hnow])

/-- With the calls told, a run listens for an interrupt from the same instant on. -/
theorem listensFrom_recording : listensFrom env.recording plan start world = listensFrom env plan start world := by
  unfold listensFrom
  exact congrArg Run.now
    (Activity.run_recorded env.elapse none (env.build plan) (Call.build (η := η) plan) Call.built start world)

/-- Nothing interrupts a run that never hears of an interrupt. -/
theorem interrupted_never : (run env options plan (fun _ => none) start world).report.interrupted = false := by
  obtain ⟨hiff, -⟩ := run_of_not_cutsLaunch env options plan (fun _ => none) start world
    (not_cutsLaunch_never env options plan start world)
  refine Bool.eq_false_iff.2 fun h => ?_
  obtain ⟨-, -, -, i, hi, -⟩ := hiff.1 h
  cases hi

variable (interrupt' : Nat → Option Interruption) {i : Interruption}

/-- What two runs tell that hear of interrupts one after the other. -/
theorem run_fork (hi : interrupt (listensFrom env plan start world) = some i)
    (hi' : ∀ j, interrupt' (listensFrom env plan start world) = some j → i.instant ≤ j.instant) :
    (run env.recording options plan interrupt start world).events =
        (run env.recording options plan interrupt' start world).events ∨
      Fork start i.instant (run env.recording options plan interrupt start world).events
        (run env.recording options plan interrupt' start world).events := by
  rw [← listensFrom_recording] at hi hi'
  unfold run
  dsimp only
  rcases drive_fork env.recording options plan start world hi hi' with h | ⟨hfork, hle, hle'⟩
  · rw [h]
    exact Or.inl rfl
  · right
    refine (hfork.append_left (launchRecords_finish env options _ _ _ _) fun e he => ?_).append_right fun e he => ?_
    · exact Nat.le_trans hle (Activity.le_of_mem_events _ _ _ _ _ e he)
    · exact Nat.le_trans hle' (Activity.le_of_mem_events _ _ _ _ _ e he)

/-- Of two runs that hear of interrupts one after the other, the first launches only what the second launches first, and both
make the same calls before the first interrupt. An interrupt that comes when the processes are being stopped does nothing. -/
theorem run_shortened (hi : interrupt (listensFrom env plan start world) = some i)
    (hi' : ∀ j, interrupt' (listensFrom env plan start world) = some j → i.instant ≤ j.instant) :
    (run env options plan interrupt start world).report.launched <+:
        (run env options plan interrupt' start world).report.launched ∧
      (run env.recording options plan interrupt start world).events.filter (fun e => e.1 < i.instant) =
        (run env.recording options plan interrupt' start world).events.filter (fun e => e.1 < i.instant) ∧
      (∃ t old, (t, .state old .terminating) ∈ (run env options plan (fun _ => none) start world).events) ∧
      ∀ t old, (t, .state old .terminating) ∈ (run env options plan (fun _ => none) start world).events → t ≤ i.instant →
        run env options plan interrupt start world = run env options plan (fun _ => none) start world ∧
          (run env options plan interrupt start world).report.interrupted = false := by
  have hfork := run_fork env options plan interrupt start world interrupt' hi hi'
  obtain ⟨old, hterminating⟩ := run_terminating_iff env options plan (fun _ => none) start world
  refine ⟨?_, ?_, ⟨_, old, (hterminating _ old).2 ⟨rfl, rfl⟩⟩, fun t old' ht hle => ?_⟩
  · rw [run_launchRecords, run_launchRecords]
    rcases hfork with h | h
    · exact congrArg (launchRecords start) h ▸ List.prefix_refl _
    · exact h.launchRecords_prefix
  · rcases hfork with h | h
    · rw [h]
    · exact h.filter_eq
  · obtain ⟨rfl, -⟩ := (hterminating t old').1 ht
    have heq : run env options plan interrupt start world = run env options plan (fun _ => none) start world := by
      unfold run
      rw [drive_late env options plan start world hi hle]
    rw [heq]
    exact ⟨rfl, interrupted_never env options plan start world⟩

end Run

/-- A server and a monitor that is to be launched 100 ms after it. An interrupt after 50 ms leaves the server alone of the
two that one after 150 ms leaves; one after 2 s does nothing, for the run window is over by then. -/
theorem run_shortened_monitor :
    let env := Scripted.environment ⟨none, none⟩ []
    let options : RunOptions := ⟨1000, 500, Shutdown.standard⟩
    let spec : String → LaunchSpec := fun name => ⟨name, .server, "bin/" ++ name, [], ⟨name ++ ".out", name ++ ".err"⟩, none⟩
    let plan : Plan := ⟨.eight, [⟨"server", [spec "server"], 100⟩, ⟨"monitor", [spec "monitor"], 0⟩]⟩
    let after : Nat → Finished Empty Nat := fun t => run env options plan (fun _ => some ⟨t, none⟩) 0 0
    (after 50).report.launched.map LaunchRecord.name = ["server"] ∧
      (after 150).report.launched.map LaunchRecord.name = ["server", "monitor"] ∧
      (after 50).report.launched <+: (after 150).report.launched ∧
      after 2000 = run env options plan (fun _ => none) 0 0 := by
  refine ⟨rfl, rfl, ?_, ?_⟩
  · refine (run_shortened _ _ _ _ _ _ (fun _ => some ⟨150, none⟩) (i := ⟨50, none⟩) rfl ?_).1
    rintro j hj
    cases hj
    decide
  · exact ((run_shortened _ _ _ _ _ _ (fun _ => none) (i := ⟨2000, none⟩) rfl nofun).2.2.2 1100 .running
      (List.mem_iff_getElem?.2 ⟨15, rfl⟩) (by decide)).1

end StagedLaunch.Supervisor
