import StagedLaunch.Proofs.Supervisor.Interruption

/-!
# Before a run listens

Until its build has ended a run tells of nothing but the build, and what it tells later it tells at that instant or after it
(`events_of_built`, `events_of_not_built`). So a run launches nothing before it listens for an interrupt (`le_of_launching`), and
its first call is answered with what the build comes to (`calls_build`).
-/

namespace StagedLaunch.Supervisor

variable {ε σ η : Type} (env : Environment ε σ η) (options : RunOptions) (plan : Plan) (interrupt : Nat → Option Interruption)
  (start : Nat) (world : σ)

/-- The build of a run tells of its call, of what the surroundings tell, and of its answer. -/
theorem builtRun_eq : ∃ (result : Except LaunchError Unit) (world' : σ) (told : List (Nat × ε)),
    builtRun env plan start world = ⟨some result, listensFrom env plan start world, ⟨world', .building, []⟩,
      [(start, .state .idle .building), (start, .building)] ++ told.map (fun e => (e.1, .told e.2)) ++
        [(listensFrom env plan start world, .built result)]⟩ := by
  obtain ⟨result, hresult⟩ := Activity.run_none_some env.elapse (env.build plan) start world
  have hstate : (setState .building : Act ε σ η Unit).run (elapse env) none start ⟨world, .idle, []⟩ =
    ⟨some (), start, ⟨world, .building, []⟩, [(start, .state .idle .building)]⟩ := rfl
  have hcall := run_onWorld env none (env.build plan) start ⟨world, .building, []⟩
  rw [hresult] at hcall
  refine ⟨result, ((env.build plan).run env.elapse none start world).state, ((env.build plan).run env.elapse none start world).events,
    ?_⟩
  rw [builtRun, build, Activity.run_bind_some hstate, Activity.run_bind_some (Activity.run_tell _ start _),
    Activity.run_bind_some hcall, listensFrom]
  rfl

/-- The launch tells nothing before it begins. -/
theorem le_driveLaunch (i : Option Interruption) (now : Nat) (s : Session σ η) :
    (∀ e ∈ (driveLaunch env options plan i start now s).events, now ≤ e.1) ∧
      now ≤ (driveLaunch env options plan i start now s).now := by
  have hevents := Activity.le_of_mem_events (elapse env) (i.map Interruption.instant)
    (launchGroups env options start 0 plan.groups) now s
  have hnow := Activity.le_run_now (elapse env) (i.map Interruption.instant)
    (launchGroups env options start 0 plan.groups) now s
  unfold driveLaunch
  dsimp only
  split
  · exact ⟨List.forall_mem_append.2 ⟨hevents, le_of_mem_interruptEvents hnow i⟩, hnow⟩
  · exact ⟨hevents, hnow⟩
  · obtain ⟨hwindow, hend⟩ := le_driveWindow env options plan i
      ((launchGroups env options start 0 plan.groups).run (elapse env) (i.map Interruption.instant) now s).now
      ((launchGroups env options start 0 plan.groups).run (elapse env) (i.map Interruption.instant) now s).state
    refine ⟨fun e he => ?_, Nat.le_trans hnow hend⟩
    rcases List.mem_append.1 he with he | he
    · exact hevents e he
    · exact Nat.le_trans hnow (hwindow e he)

/-- A run that has built tells everything else when the build has ended or later. -/
theorem events_of_built (h : (builtRun env plan start world).result = some (.ok ())) :
    ∃ later, (run env options plan interrupt start world).events = (builtRun env plan start world).events ++ later ∧
      ∀ e ∈ later, listensFrom env plan start world ≤ e.1 := by
  have hdrive : drive env options plan interrupt start world =
      { driveLaunch env options plan (interrupt (builtRun env plan start world).now) start (builtRun env plan start world).now
          (builtRun env plan start world).state with
        events := (builtRun env plan start world).events ++ (driveLaunch env options plan
          (interrupt (builtRun env plan start world).now) start (builtRun env plan start world).now
          (builtRun env plan start world).state).events } := by
    unfold drive
    have hbuilt : (build env plan).run (elapse env) none start ⟨world, .idle, []⟩ = builtRun env plan start world := rfl
    dsimp only
    rw [hbuilt, h]
  rw [builtRun_now] at hdrive
  generalize hlaunch : driveLaunch env options plan (interrupt (listensFrom env plan start world)) start
    (listensFrom env plan start world) (builtRun env plan start world).state = d at hdrive
  obtain ⟨hevents, hnow⟩ := le_driveLaunch env options plan start (interrupt (listensFrom env plan start world))
    (listensFrom env plan start world) (builtRun env plan start world).state
  rw [hlaunch] at hevents hnow
  refine ⟨d.events ++ ((finish env options d.failure).run (elapse env) none d.now d.session).events, ?_, fun e he => ?_⟩
  · unfold run
    rw [hdrive, ← List.append_assoc]
  · rcases List.mem_append.1 he with he | he
    · exact hevents e he
    · exact Nat.le_trans hnow (Activity.le_of_mem_events _ none (finish env options d.failure) _ _ e he)

/-- A run whose build has failed comes no further than that. -/
theorem drive_of_not_built {e : LaunchError} (h : (builtRun env plan start world).result = some (.error e)) :
    ∃ world', drive env options plan interrupt start world =
      ⟨some e, false, listensFrom env plan start world, ⟨world', .building, []⟩, (builtRun env plan start world).events⟩ := by
  obtain ⟨result, world', told, hbuilt⟩ := builtRun_eq env plan start world
  have hrun : (build env plan).run (elapse env) none start ⟨world, .idle, []⟩ = builtRun env plan start world := rfl
  refine ⟨world', ?_⟩
  unfold drive
  dsimp only
  rw [hrun, h, hbuilt]

/-- It tells nothing more than that. -/
theorem events_of_not_built {e : LaunchError} (h : (builtRun env plan start world).result = some (.error e)) :
    (run env options plan interrupt start world).events = (builtRun env plan start world).events ++
      [(listensFrom env plan start world, .failed e), (listensFrom env plan start world, .state .building .terminating),
        (listensFrom env plan start world, .state .terminating .done)] := by
  obtain ⟨world', hdrive⟩ := drive_of_not_built env options plan interrupt start world h
  unfold run
  rw [hdrive]
  rfl

/-- It ends when the build has ended. -/
theorem now_of_not_built {e : LaunchError} (h : (builtRun env plan start world).result = some (.error e)) :
    (run env options plan interrupt start world).now = listensFrom env plan start world := by
  obtain ⟨world', hdrive⟩ := drive_of_not_built env options plan interrupt start world h
  unfold run
  rw [hdrive]
  rfl

/-- Nothing is launched before a run listens for an interrupt, which it does when its build has succeeded. -/
theorem le_of_launching {n : Nat} {spec : LaunchSpec}
    (h : (n, .launching spec) ∈ (run env options plan interrupt start world).events) :
    (builtRun env plan start world).result = some (.ok ()) ∧ listensFrom env plan start world ≤ n := by
  obtain ⟨result, world', told, hbuilt⟩ := builtRun_eq env plan start world
  have hbuild : (n, .launching spec) ∉ (builtRun env plan start world).events := by
    rw [hbuilt]
    simp
  rcases result with e | u
  · have hresult : (builtRun env plan start world).result = some (.error e) := by rw [hbuilt]
    rw [events_of_not_built env options plan interrupt start world hresult] at h
    rcases List.mem_append.1 h with h | h
    · exact absurd h hbuild
    · simp at h
  · have hresult : (builtRun env plan start world).result = some (.ok ()) := by rw [hbuilt]
    obtain ⟨later, hevents, hlater⟩ := events_of_built env options plan interrupt start world hresult
    rw [hevents] at h
    exact ⟨hresult, hlater _ ((List.mem_append.1 h).resolve_left hbuild)⟩

end StagedLaunch.Supervisor
