import StagedLaunch.Proofs.Supervisor.Interruption

/-!
# Why a run fails

A run fails with the first error that one of its calls is answered with, or with an interrupt that comes before its launch is
over; and else it does not fail. How its processes are stopped has no part in that (`run_reportsFirstFailure`).

`run_firstError` reads the failure off the calls of a run. `drive_withStops` is why the stops make no difference: whatever a
run does before them is the same.
-/

namespace StagedLaunch

/-- The surroundings in which processes are stopped in another way. -/
def Environment.withStops {ε σ η : Type} (env : Environment ε σ η)
    (terminate : η → Shutdown → Activity ε σ StopOutcome) : Environment ε σ η :=
  { env with terminate := terminate }

namespace Supervisor

variable {ε σ η : Type}

/-! ## The first error -/

/-- The first error with which a call was answered. -/
def firstError (trace : List (Call η)) : Option LaunchError := trace.findSome? Call.error?

@[simp] theorem firstError_append (a b : List (Call η)) : firstError (a ++ b) = (firstError a).or (firstError b) :=
  List.findSome?_append

/-- What stops processes is answered with no error. -/
theorem firstError_of_stop {trace : List (Call η)} (h : ∀ c ∈ trace, c.phase = .stop) : firstError trace = none := by
  refine List.findSome?_eq_none_iff.2 fun c hc => ?_
  have hstop := h c hc
  cases c with
  | stop p shutdown => rfl
  | stopped p outcome => rfl
  | _ => cases hstop

/-- The error of an answer, if there is an answer and it is one. -/
def errorOf : Option (Except LaunchError Unit) → Option LaunchError
  | some (.error e) => some e
  | _ => none

theorem Spawning.firstError_eq {env : Environment ε σ η} {start now later : Nat} {specs : List LaunchSpec}
    {events : Events η} {started : List (Started η)} {failure : Option LaunchError}
    (h : Spawning env start specs now events started later failure) : firstError (told events) = failure := by
  induction h with
  | done now => rfl
  | failed rest answer => rfl
  | launched pid answer more ih =>
    rw [told_append, told_launchEvents, firstError_append, ih]
    rfl

theorem Awaiting.firstError_eq {env : Environment ε σ η} {timeout now later : Nat} {due : List (Due η)} {events : Events η}
    {outcome : Option (Except LaunchError Unit)} (h : Awaiting env timeout due now events later outcome) :
    firstError (told events) = errorOf outcome := by
  induction h with
  | done now => rfl
  | ready passed more ih =>
    rw [told_append, told_append, told_awaitEvents, told_readyEvents, firstError_append, ih]
    rfl
  | failed rest passed answer => rfl
  | cut d rest passed => rfl

theorem GroupLaunch.firstError_eq {env : Environment ε σ η} {timeout start now later : Nat} {group : Group}
    {events : Events η} {started : List (Started η)} {outcome : Option (Except LaunchError Unit)}
    (h : GroupLaunch env timeout start group now events started later outcome) :
    firstError (told events) = errorOf outcome := by
  cases h with
  | notSpawned spawn => exact spawn.firstError_eq
  | notReady spawn await stopped =>
    rw [told_append, firstError_append, spawn.firstError_eq, await.firstError_eq]
    rfl
  | notSettled spawn await passed =>
    rw [told_append, told_append, told_settleEvents, List.append_nil, firstError_append, spawn.firstError_eq,
      await.firstError_eq]
    rfl
  | settled spawn await =>
    rw [told_append, told_append, told_settleEvents, List.append_nil, firstError_append, spawn.firstError_eq,
      await.firstError_eq]
    rfl

/-- A launch ends with the first error that one of its calls is answered with, and with none if there is none. -/
theorem Launching.firstError_eq {env : Environment ε σ η} {timeout start index now later : Nat} {old new : RunState}
    {groups : List Group} {events : Events η} {started : List (Started η)} {outcome : Option (Except LaunchError Unit)}
    (h : Launching env timeout start index old groups now events started later new outcome) :
    firstError (told events) = errorOf outcome := by
  induction h with
  | done index state now => rfl
  | stopped rest launch stopped =>
    rw [told_append, told_groupEvents, List.nil_append]
    exact launch.firstError_eq
  | next launch others ih =>
    rw [told_append, told_append, told_groupEvents, List.nil_append, firstError_append, launch.firstError_eq, ih]
    rfl

/-- Before the processes are stopped, a run has failed with the first error, unless an interrupt has ended its launch. -/
theorem Driving.firstError_eq {env : Environment ε σ η} {options : RunOptions} {plan : Plan} {i : Option Interruption}
    {start built now : Nat} {events : Events η} {started : List (Started η)} {state : RunState}
    {failure : Option LaunchError} {interrupted : Bool}
    (h : Driving env options plan i start built events started now state failure interrupted) :
    firstError (told events) = if interrupted then none else failure := by
  cases h with
  | notBuilt answer => rfl
  | notLaunched launch =>
    rw [told_append, told_buildEvents, firstError_append, launch.firstError_eq]
    rfl
  | interrupted launch =>
    rw [told_append, told_append, told_buildEvents, told_interruptEvents, List.append_nil, firstError_append,
      launch.firstError_eq]
    rfl
  | ran launch whole =>
    rw [told_append, told_append, told_append, told_buildEvents, firstError_append, firstError_append, firstError_append,
      launch.firstError_eq]
    rfl
  | cutShort launch cut =>
    rw [told_append, told_append, told_append, told_append, told_buildEvents, told_interruptEvents, firstError_append,
      firstError_append, firstError_append, launch.firstError_eq]
    rfl

section Run

variable (env : Environment ε σ η) (options : RunOptions) (plan : Plan) (interrupt : Nat → Option Interruption) (start : Nat)
  (world : σ)

/-- A run fails with the first error of its calls, unless it was interrupted. -/
theorem run_firstError :
    firstError (calls env options plan interrupt start world) =
      if (run env options plan interrupt start world).report.interrupted then none
      else (run env options plan interrupt start world).failure := by
  obtain ⟨events, after, started, now, state, records, htrace, drive, stop, -⟩ :=
    run_trace env options plan interrupt start world
  rw [htrace, firstError_append, firstError_of_stop stop.phase_eq, drive.firstError_eq, Option.or_none]

/-- Nothing is answered with an error in a run whose launch is cut off. -/
theorem firstError_of_cutsLaunch (h : CutsLaunch env options plan interrupt start world) :
    firstError (calls env options plan interrupt start world) = none := by
  rw [run_firstError, (run_of_cutsLaunch env options plan interrupt start world h).2]
  rfl

/-- A run whose launch is not cut off fails with the first error of its calls. -/
theorem failure_of_not_cutsLaunch (h : ¬ CutsLaunch env options plan interrupt start world) :
    (run env options plan interrupt start world).failure = firstError (calls env options plan interrupt start world) := by
  obtain ⟨hiff, hnone⟩ := run_of_not_cutsLaunch env options plan interrupt start world h
  rw [run_firstError]
  cases hi : (run env options plan interrupt start world).report.interrupted with
  | true => exact hnone (hiff.1 hi)
  | false => rfl

/-- A run does not fail exactly when no call is answered with an error and no interrupt cuts its launch off. -/
theorem ok_iff_firstError :
    (run env options plan interrupt start world).failure = none ↔
      firstError (calls env options plan interrupt start world) = none ∧
        ¬ CutsLaunch env options plan interrupt start world := by
  by_cases h : CutsLaunch env options plan interrupt start world
  · obtain ⟨⟨label, hf⟩, -⟩ := run_of_cutsLaunch env options plan interrupt start world h
    rw [hf]
    exact iff_of_false nofun fun hno => hno.2 h
  · rw [failure_of_not_cutsLaunch env options plan interrupt start world h]
    exact (and_iff_left h).symm

/-- A run that does not fail has built. -/
theorem built_of_ok (hf : (run env options plan interrupt start world).failure = none) :
    .built (.ok ()) ∈ calls env options plan interrupt start world := by
  obtain ⟨events, after, started, now, state, records, htrace, drive, -, -⟩ :=
    run_trace env options plan interrupt start world
  rcases drive.calls with ⟨e, -, -, hf'⟩ | ⟨launch, later, last, outcome, ht, -⟩
  · rw [hf] at hf'
    cases hf'
  · rw [htrace, ht]
    simp

/-! ## The run that nothing interrupts -/

/-- A run that never hears of an interrupt is not cut off. -/
theorem not_cutsLaunch_never : ¬ CutsLaunch env options plan (fun _ => none) start world := by
  rintro ⟨-, i, t, hi, -⟩
  cases hi

/-- An interrupt that comes no earlier than the last wait of the launch ends does not cut it off. -/
theorem not_cutsLaunch_of_le {i : Interruption} {t : Nat} (hi : interrupt (listensFrom env plan start world) = some i)
    (ht : lastLaunchWait env options plan start world = some t) (hle : t ≤ i.instant) :
    ¬ CutsLaunch env options plan interrupt start world := by
  rintro ⟨-, i', t', hi', ht', hlt⟩
  cases hi.symm.trans hi'
  cases ht.symm.trans ht'
  omega

/-- A run that launches and is not cut off in its launch fails just where the launch does. -/
theorem failure_of_launch (hb : (builtRun env plan start world).result = some (.ok ()))
    (h : ¬ CutsLaunch env options plan interrupt start world) :
    (run env options plan interrupt start world).failure = errorOf (launchRun env options plan start world).result := by
  have hcut := mt (cutsLaunch_iff env options plan interrupt start world hb).2 h
  have heq := launch_eq_launchRun env options plan interrupt start world hcut
  rw [(run_of_built env options plan interrupt start world hb).1]
  unfold driveLaunch
  simp only [heq]
  obtain ⟨r, hr⟩ : ∃ r, (launchRun env options plan start world).result = some r :=
    Activity.run_none_some (elapse env) _ _ _
  cases r with
  | error e =>
    simp only [hr]
    rfl
  | ok u =>
    simp only [hr, (driveWindow_interrupted env options plan _ _ _).1]
    rfl

/-- A run whose launch is not cut off fails as it does when nothing interrupts it. -/
theorem failure_eq_never (h : ¬ CutsLaunch env options plan interrupt start world) :
    (run env options plan interrupt start world).failure = (run env options plan (fun _ => none) start world).failure := by
  obtain ⟨e | u, hb⟩ := builtRun_some env plan start world
  · rw [(run_of_not_built env options plan interrupt start world hb).1,
      (run_of_not_built env options plan (fun _ => none) start world hb).1]
  · rw [failure_of_launch env options plan interrupt start world hb h,
      failure_of_launch env options plan (fun _ => none) start world hb (not_cutsLaunch_never env options plan start world)]

/-- An interrupt that does not miss the launch cuts it off when it comes before the end of the launch. -/
theorem cutsLaunch_iff_lt (hb : (builtRun env plan start world).result = some (.ok ()))
    (hmiss : ¬ MissesLaunch env options plan interrupt start world) :
    CutsLaunch env options plan interrupt start world ↔
      ∃ i, interrupt (listensFrom env plan start world) = some i ∧
        i.instant < (launchRun env options plan start world).now := by
  constructor
  · intro h
    obtain ⟨-, i, -, hi, -⟩ := id h
    exact ⟨i, hi, lt_of_cutsLaunch env options plan interrupt start world hi h⟩
  · rintro ⟨i, hi, hlt⟩
    exact (cutsLaunch_or_missesLaunch env options plan interrupt start world hb hi hlt).resolve_right hmiss

end Run

/-! ## Stops that end in another way -/

section Stops

variable (env : Environment ε σ η) (terminate : η → Shutdown → Activity ε σ StopOutcome)

theorem launchAll_withStops (start : Nat) (specs : List LaunchSpec) :
    launchAll (env.withStops terminate) start specs = launchAll env start specs := by
  have hone : ∀ spec, launchOne (env.withStops terminate) start spec = launchOne env start spec := fun _ => rfl
  induction specs with
  | nil => rfl
  | cons spec specs ih => simp only [launchAll, hone, ih]

theorem awaitAll_withStops (timeout : Nat) (launched : List (LaunchSpec × η)) :
    awaitAll (env.withStops terminate) timeout launched = awaitAll env timeout launched := by
  have hready : (env.withStops terminate).waitReady = env.waitReady := rfl
  induction launched with
  | nil => rfl
  | cons p launched ih => simp only [awaitAll, hready, ih]

theorem launchGroups_withStops (options : RunOptions) (start index : Nat) (groups : List Group) :
    launchGroups (env.withStops terminate) options start index groups = launchGroups env options start index groups := by
  induction groups generalizing index with
  | nil => rfl
  | cons group groups ih => simp only [launchGroups, launchGroup, launchAll_withStops, awaitAll_withStops, ih]

variable (options : RunOptions) (plan : Plan) (interrupt : Nat → Option Interruption) (start : Nat) (world : σ)

/-- However processes are stopped, everything before that is the same. -/
theorem drive_withStops :
    drive (env.withStops terminate) options plan interrupt start world = drive env options plan interrupt start world := by
  have helapse : elapse (env.withStops terminate) = elapse env := rfl
  have hbuild : build (env.withStops terminate) plan = build env plan := rfl
  have hwindow : ∀ i now s, driveWindow (env.withStops terminate) options plan i now s =
    driveWindow env options plan i now s := fun _ _ _ => rfl
  simp only [drive, driveLaunch, launchGroups_withStops, helapse, hbuild, hwindow]

/-- A run stops the processes that it has come to before, and reports them with how each of them ended. -/
theorem run_stops :
    let d := drive env.recording options plan interrupt start world
    ∃ outcomes : List (η × StopOutcome),
      calls env options plan interrupt start world = told d.events ++ stopCalls options.shutdown outcomes ∧
      outcomes.map Prod.fst = d.session.started.map Started.handle ∧
      (run env options plan interrupt start world).failure = d.failure ∧
      (run env options plan interrupt start world).report =
        ⟨plan.case, d.session.started.map Started.record, outcomes.map fun o => ⟨env.name o.1, o.2⟩, d.interrupted,
          .done⟩ := by
  intro d
  obtain ⟨hreport, hfailure, -⟩ := run_recording env options plan interrupt start world
  obtain ⟨records, later, world', after, hfinish, hstop⟩ := run_finish env options d.failure d.now d.session
  obtain ⟨outcomes, hafter, hhandles, hrecords⟩ := hstop.calls
  have helapse : elapse env.recording = elapse env := rfl
  refine ⟨outcomes, ?_, hhandles, ?_, ?_⟩
  · have htold : calls env options plan interrupt start world = told d.events ++ told (failureEvents d.now d.failure ++
        (d.now, .state d.session.state .terminating) :: after ++ [(later, .state .terminating .done)]) := by
      rw [← told_append, calls, run, helapse, hfinish]
    rw [htold, ← hafter, told_append, told_append, told_failureEvents]
    simp [told, Notice.told?]
  · rw [← hfailure]
    rfl
  · rw [← hreport, run, helapse, hfinish, ← hrecords]
    rfl

/-- Two runs that succeed or fail alike, have launched the same processes at the same instants, and stop the same ones in the
same order. -/
structure SameButStops (trace trace' : List (Call η)) (f f' : Finished ε σ) : Prop where
  /-- They have the same failure, or none. -/
  failure_eq : f'.failure = f.failure
  /-- They report the same launches. -/
  launched_eq : f'.report.launched = f.report.launched
  /-- They were interrupted alike. -/
  interrupted_eq : f'.report.interrupted = f.report.interrupted
  /-- They stop the same processes. -/
  stops_eq : stops trace' = stops trace
  /-- They report the same names, one by one. -/
  names_eq : f'.report.terminated.map StopRecord.name = f.report.terminated.map StopRecord.name

/-- How its processes are stopped, how they end and how long that takes, makes no other difference to a run. -/
theorem sameButStops_withStops :
    SameButStops (calls env options plan interrupt start world)
      (calls (env.withStops terminate) options plan interrupt start world) (run env options plan interrupt start world)
      (run (env.withStops terminate) options plan interrupt start world) := by
  obtain ⟨outcomes, hcalls, hhandles, hfailure, hreport⟩ := run_stops env options plan interrupt start world
  obtain ⟨outcomes', hcalls', hhandles', hfailure', hreport'⟩ :=
    run_stops (env.withStops terminate) options plan interrupt start world
  have hdrive : drive (env.withStops terminate).recording options plan interrupt start world =
      drive env.recording options plan interrupt start world :=
    drive_withStops env.recording (fun h shutdown => (terminate h shutdown).recorded (.stop h shutdown) (.stopped h)) options
      plan interrupt start world
  rw [hdrive] at hcalls' hhandles' hfailure' hreport'
  have hsame : outcomes'.map Prod.fst = outcomes.map Prod.fst := hhandles'.trans hhandles.symm
  have hmap : ∀ {α : Type} (f : η → α), outcomes'.map (fun o => f o.1) = outcomes.map fun o => f o.1 := by
    intro α f
    have h := congrArg (List.map f) hsame
    rwa [List.map_map, List.map_map] at h
  refine ⟨hfailure'.trans hfailure.symm, ?_, ?_, ?_, ?_⟩
  · rw [hreport, hreport']
  · rw [hreport, hreport']
  · rw [hcalls, hcalls', stops_append, stops_append, stops_stopCalls, stops_stopCalls]
    exact congrArg (_ ++ ·) (hmap fun p => (p, options.shutdown))
  · rw [hreport, hreport']
    simp only [List.map_map]
    exact hmap env.name

end Stops

/-! ## Which result a run reports -/

/-- What a run fails with, given its calls and whether an interrupt has come before its launch was over. -/
structure ReportsFirstFailure (plan : Plan) (trace : List (Call η)) (interrupted : Prop) (f : Finished ε σ) : Prop where
  /-- It does not fail exactly when no call was answered with an error and no interrupt has come. -/
  ok_iff : f.failure = none ↔ firstError trace = none ∧ ¬ interrupted
  /-- Then it has built and launched all of its plan, and every process with a check is ready. -/
  complete : f.failure = none → .built (.ok ()) ∈ trace ∧ Complete plan.specs trace
  /-- Without an interrupt it fails with the first error that a call was answered with. -/
  failure_eq : ¬ interrupted → f.failure = firstError trace
  /-- An interrupt comes before any error, and the run fails with it in the group that was announced last. -/
  interrupted_eq : interrupted → firstError trace = none ∧
    ∃ label, (announced f.events).getLast? = some label ∧ f.failure = some (.interrupted label)

section Run

variable (env : Environment ε σ η) (options : RunOptions) (plan : Plan) (interrupt : Nat → Option Interruption) (start : Nat)
  (world : σ)

/-- A run reports the first of its events that fails: an error of its build, of a launch or of a readiness check, or an
interrupt before the end of its launch at which the launch has still to wait. Up to that interrupt it goes as without one, and
it goes to the end of its launch after an interrupt that misses that. The stops of its processes change nothing of it. -/
theorem run_reportsFirstFailure :
    ReportsFirstFailure plan (calls env options plan interrupt start world)
        (CutsLaunch env options plan interrupt start world) (run env options plan interrupt start world) ∧
      (¬ CutsLaunch env options plan interrupt start world →
        (run env options plan interrupt start world).failure =
          firstError (calls env options plan (fun _ => none) start world)) ∧
      ((builtRun env plan start world).result = some (.ok ()) → ¬ MissesLaunch env options plan interrupt start world →
        (CutsLaunch env options plan interrupt start world ↔
          ∃ i, interrupt (listensFrom env plan start world) = some i ∧
            i.instant < (launchRun env options plan start world).now)) ∧
      ((builtRun env plan start world).result = some (.ok ()) → MissesLaunch env options plan interrupt start world →
        ¬ CutsLaunch env options plan interrupt start world ∧
          (run env options plan interrupt start world).failure = errorOf (launchRun env options plan start world).result) ∧
      ∀ terminate : η → Shutdown → Activity ε σ StopOutcome,
        SameButStops (calls env options plan interrupt start world)
          (calls (env.withStops terminate) options plan interrupt start world) (run env options plan interrupt start world)
          (run (env.withStops terminate) options plan interrupt start world) := by
  have hcut := interruptedIn_of_cutsLaunch env options plan interrupt start world
  refine ⟨⟨?_, fun hok => ?_, ?_, fun h => ?_⟩, fun h => ?_, ?_, fun hb hmiss => ?_, fun terminate => ?_⟩
  · exact ok_iff_firstError env options plan interrupt start world
  · exact ⟨built_of_ok env options plan interrupt start world hok, run_complete env options plan interrupt start world hok⟩
  · exact failure_of_not_cutsLaunch env options plan interrupt start world
  · obtain ⟨k, group, hin⟩ := hcut h
    refine ⟨firstError_of_cutsLaunch env options plan interrupt start world h, group.label, ?_, hin.failure_eq⟩
    rw [hin.announced_eq, List.take_add_one, hin.in_plan]
    simp
  · rw [failure_eq_never env options plan interrupt start world h]
    exact failure_of_not_cutsLaunch env options plan _ start world (not_cutsLaunch_never env options plan start world)
  · exact cutsLaunch_iff_lt env options plan interrupt start world
  · have hno := hmiss.not_cutsLaunch env options plan interrupt start world
    exact ⟨hno, failure_of_launch env options plan interrupt start world hb hno⟩
  · exact sameButStops_withStops env terminate options plan interrupt start world

end Run

/-- The interrupt comes halfway through the only launch of a run, which takes ten milliseconds and which nothing follows: it
comes before the launch is over, and the run does not fail. -/
theorem run_reportsNoFailure_lastLaunch :
    let env := (Scripted.environment ⟨none, none⟩ []).launchingIn 10
    let options : RunOptions := ⟨1000, 500, Shutdown.standard⟩
    let monitor : LaunchSpec := ⟨"monitor", .server, "bin/monitor", [], ⟨"monitor.out", "monitor.err"⟩, none⟩
    let plan : Plan := ⟨.eight, [⟨"monitor", [monitor], 0⟩]⟩
    let interrupt : Nat → Option Interruption := fun _ => some ⟨5, none⟩
    ¬ ((run env options plan interrupt 0 0).failure = none ↔
      firstError (calls env options plan interrupt 0 0) = none ∧
        ¬ ∃ i, interrupt (listensFrom env plan 0 0) = some i ∧ i.instant < (launchRun env options plan 0 0).now) := by
  intro env options monitor plan interrupt h
  have hf : (run env options plan interrupt 0 0).failure = none := by decide
  exact (h.1 hf).2 ⟨⟨5, none⟩, rfl, by decide⟩

/-- The monitor cannot be started after the server has settled: a run fails with that, although an interrupt comes later. -/
theorem run_reportsFirstFailure_monitor :
    let e : LaunchError := .spawn "monitor" "bin/monitor" .notFound
    let env := Scripted.environment ⟨none, none⟩ [("monitor", { ProcessScript.prompt with launchError := some e })]
    let options : RunOptions := ⟨1000, 500, Shutdown.standard⟩
    let spec : String → LaunchSpec := fun name => ⟨name, .server, "bin/" ++ name, [], ⟨name ++ ".out", name ++ ".err"⟩, none⟩
    let plan : Plan := ⟨.eight, [⟨"server", [spec "server"], 100⟩, ⟨"monitor", [spec "monitor"], 0⟩]⟩
    let interrupt : Nat → Option Interruption := fun _ => some ⟨150, none⟩
    ¬ CutsLaunch env options plan interrupt 0 0 ∧ (run env options plan interrupt 0 0).failure = some e := by
  refine ⟨not_cutsLaunch_of_le _ _ _ _ _ _ (i := ⟨150, none⟩) (t := 100) rfl rfl (by decide), ?_⟩
  exact (run_reportsFirstFailure _ _ _ _ _ _).2.1
    (not_cutsLaunch_of_le _ _ _ _ _ _ (i := ⟨150, none⟩) (t := 100) rfl rfl (by decide))

end Supervisor

end StagedLaunch
