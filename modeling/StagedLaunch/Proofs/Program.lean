import StagedLaunch.Proofs.Machine.Effects
import StagedLaunch.Proofs.Machine.Untouched
import StagedLaunch.Proofs.Plan.Places
import StagedLaunch.Proofs.Supervisor.Failure
import StagedLaunch.Proofs.Supervisor.Listening
import StagedLaunch.Program

/-!
# What the program does, and its exit status

A call of the program that is rejected, finds no settings or shows a dry run does nothing but write (`Program.Idle`). A call
that supervises a run does what the run does: it runs build commands, and when they have succeeded it opens the output files of
one process after the other and starts it; the files of processes that are not reached are left alone
(`Program.Supervises`). A signal that comes before the build is over ends it with nothing but build commands
(`Program.EndsWhileBuilding`). The exit status tells which of these it was (`Program.run_dueEffects`).
-/

namespace StagedLaunch

open Supervisor FileTree

variable {σ : Type}

namespace Program

/-! ## When the program listens -/

/-- The instant from which a run listens can be told from its own notices. -/
theorem listensFrom?_own (events : List (Nat × Notice MachineNotice)) :
    listensFrom? events = (own events).findSome? fun n => match n.2 with
      | .built (.ok ()) => some n.1
      | _ => none := by
  unfold listensFrom? own
  rw [← List.head?_filterMap, ← List.head?_filterMap, List.filterMap_filterMap]
  refine congrArg List.head? (List.filterMap_congr fun n _ => ?_)
  obtain ⟨now, notice⟩ := n
  cases notice with
  | built result => rcases result with e | u <;> rfl
  | _ => rfl

section Listening

variable (env : Environment MachineNotice σ Child) (options : RunOptions) (plan : Plan)
  (interrupt : Nat → Option Interruption) (start : Nat) (world : σ)

/-- A run listens from the end of its build on; one that has not built is over by then. -/
theorem listens_eq :
    (listensFrom? (Supervisor.run env options plan interrupt start world).events).getD
        (Supervisor.run env options plan interrupt start world).now = listensFrom env plan start world := by
  obtain ⟨result, world', told, hbuilt⟩ := builtRun_eq env plan start world
  rw [listensFrom?_own]
  rcases result with e | u
  · have herror : (builtRun env plan start world).result = some (.error e) := by rw [hbuilt]
    rw [now_of_not_built env options plan interrupt start world herror,
      events_of_not_built env options plan interrupt start world herror, hbuilt, own_append, own_append, own_append,
      own_map_told]
    rfl
  · have hok : (builtRun env plan start world).result = some (.ok ()) := by rw [hbuilt]
    obtain ⟨later, hevents, -⟩ := events_of_built env options plan interrupt start world hok
    rw [hevents, hbuilt, own_append, own_append, own_append, own_map_told]
    rfl

/-- Nothing is launched up to an instant before the run listens. -/
theorem not_launching_of_lt {instant : Nat} (h : instant < listensFrom env plan start world) :
    ∀ n ∈ (Supervisor.run env options plan interrupt start world).events.takeWhile fun n => n.1 ≤ instant,
      ∀ spec, n.2 ≠ .launching spec := by
  rintro ⟨now, notice⟩ hn spec rfl
  have hbefore : now ≤ instant := by simpa using List.all_eq_true.1 List.all_takeWhile _ hn
  have hlistens := (le_of_launching env options plan interrupt start world (List.takeWhile_subset _ hn)).2
  omega

end Listening

/-! ## Supervising -/

section Supervise

variable (m : Machine σ) (call : Call) (level : Level) (settings : Settings) (s : σ)

/-- The run that a call supervises. -/
def supervised : Finished MachineNotice (Watched σ) :=
  Supervisor.run (m.environment settings.buildStage) settings.runOptions settings.plan
    (Interrupt.ofDeliveries true call.deliveries) 0 (.fresh s)

/-- The calls of the run that a call supervises. -/
def supervisedCalls : List (Supervisor.Call Child) :=
  calls (m.environment settings.buildStage) settings.runOptions settings.plan (Interrupt.ofDeliveries true call.deliveries) 0
    (.fresh s)

/-- The signal that ends the program while it builds, if there is one. -/
def killed? : Option Interrupt.Delivery :=
  fatal? call.deliveries ((listensFrom? (supervised m call settings s).events).getD (supervised m call settings s).now)

/-- The instant from which the run that a call supervises listens. -/
def supervisedFrom : Nat := listensFrom (m.environment settings.buildStage) settings.plan 0 (.fresh s)

/-- A signal that is delivered before the run listens ends the program. -/
theorem killed?_eq : killed? m call settings s = call.deliveries.find? fun d => d.1 < supervisedFrom m settings s := by
  unfold killed? supervised supervisedFrom fatal?
  rw [listens_eq]

theorem supervise_of_killed {d : Interrupt.Delivery} (h : killed? m call settings s = some d) :
    (supervise m call level settings s).status = none ∧
      (supervise m call level settings s).machine = machineWhileBuilding m settings d.1 s ∧
      (supervise m call level settings s).notices = (supervised m call settings s).events.takeWhile fun n => n.1 ≤ d.1 := by
  unfold killed? supervised at h
  unfold supervise supervised
  simp only [h, and_self]

theorem supervise_of_not_killed (h : killed? m call settings s = none) :
    (supervise m call level settings s).status = some (if (supervised m call settings s).failure.isSome then 1 else 0) ∧
      (supervise m call level settings s).machine = (supervised m call settings s).world.machine := by
  unfold killed? supervised at h
  unfold supervise supervised
  simp only [h, and_self]

theorem killed?_audited : killed? m.audited call settings (s, []) = killed? m call settings s := by
  have hsame := (m.run_audited settings.buildStage settings.runOptions settings.plan
    (Interrupt.ofDeliveries true call.deliveries) 0 s).1
  unfold killed? supervised
  rw [listensFrom?_own, listensFrom?_own, hsame.own_eq, hsame.now_eq]

/-- To note the effects of a build changes nothing, wherever it is cut off. -/
theorem machineWhileBuilding_audited (instant : Nat) :
    (machineWhileBuilding m.audited settings instant (s, [])).1 = machineWhileBuilding m settings instant s := by
  have hfresh : (Watched.fresh (s, ([] : List Effect))).map Prod.fst = .fresh s := rfl
  obtain ⟨ran, -, -, hmap⟩ :=
    (BuildStage.same_yielding m.audited_mirrors.buildSame settings.buildStage settings.plan (some instant) 0 hfresh).state
  exact congrArg Watched.machine hmap

/-- Where a build is cut off it has run the first of its commands, and has had no other effects. -/
theorem machineWhileBuilding_effects (instant : Nat) :
    ∃ ran, ran <+: settings.buildStage.steps ∧
      (machineWhileBuilding m.audited settings instant (s, [])).2 = ran.map .command :=
  (KeepsEffects.commands m).yielding settings.buildStage settings.plan (some instant) 0 (w := .fresh (s, [])) rfl

end Supervise

/-! ## A call of the program -/

section Run

variable (m : Machine σ) (call : Call) (s : σ)

/-- The exit status when there are no settings. -/
def refusalStatus : SettingsError → Nat
  | .commandLine r => r.exitStatus
  | _ => 1

/-- The effects of a call, in order. -/
def effects : List Effect := (run m.audited call (s, [])).machine.2

/-- A call has no effects: its machine is as it was. -/
def Idle : Prop := (run m call s).machine = s ∧ effects m call s = []

/-- What a call that supervises a run does. -/
structure Supervises (settings : Settings) : Prop where
  /-- The status says whether the run has failed. -/
  status : (run m call s).status = some (if (supervised m call settings s).failure.isSome then 1 else 0)
  /-- The effects are build commands and then launches, in order. -/
  ordered : ∃ ran launches, EffectsOf settings.buildStage (supervisedCalls m call settings s) ran launches (effects m call s)
  /-- When the build has failed there are only build commands, and the run has failed. -/
  unbuilt : ∀ e, .built (.error e) ∈ supervisedCalls m call settings s →
    attempted (supervisedCalls m call settings s) = [] ∧ (∀ x ∈ effects m call s, ∃ step, x = .command step) ∧
      (run m call s).status = some 1
  /-- The launches that were called are the first of the plan. -/
  attempted_prefix : attempted (supervisedCalls m call settings s) <+: settings.plan.specs
  /-- Files are touched by opening the output files of a launch that was called. -/
  touched : ∀ before after, .files before after ∈ effects m call s →
    ∃ spec ∈ attempted (supervisedCalls m call settings s), TouchesOutputs spec.output before after
  /-- For a launch that has succeeded both output files were opened. -/
  opened : ∀ spec c, (spec, c) ∈ launched (supervisedCalls m call settings s) →
    ∃ before after, .files before after ∈ effects m call s ∧ ∀ stream, after.Blank (spec.output.place before.cwd stream)
  /-- The output files of processes that were not reached are left as they are. -/
  spared : ∀ before after, .files before after ∈ effects m call s → ∀ spec ∈ settings.plan.specs,
    spec ∉ attempted (supervisedCalls m call settings s) → ∀ stream, KeptAt (spec.output.place before.cwd stream) before after
  /-- So they are at the end what they were at the beginning, where the machine leaves them alone. -/
  kept : ∀ spec ∈ settings.plan.specs, spec ∉ attempted (supervisedCalls m call settings s) → ∀ stream,
    m.LeavesAlone (spec.output.place (m.files s).cwd stream) →
      KeptAt (spec.output.place (m.files s).cwd stream) (m.files s) (m.files (run m call s).machine)

/-- What a call does that a signal ends while it builds. -/
structure EndsWhileBuilding (settings : Settings) : Prop where
  /-- There is no status. -/
  status : (run m call s).status = none
  /-- Nothing is launched. -/
  unlaunched : ∀ n ∈ (run m call s).notices, ∀ spec, n.2 ≠ .launching spec
  /-- The effects are build commands, the first of those of the build, in order. -/
  commands : ∃ ran, ran <+: settings.buildStage.steps ∧ effects m call s = ran.map .command
  /-- Every file is at the end what it was at the beginning, where the machine leaves it alone. -/
  kept : ∀ p, m.LeavesAlone p → KeptAt p (m.files s) (m.files (run m call s).machine)

/-- What a call of the program does, and its exit status. -/
structure DueEffects : Prop where
  /-- To note the effects changes nothing. -/
  audited : (run m.audited call (s, [])).status = (run m call s).status ∧
    (run m.audited call (s, [])).machine.1 = (run m call s).machine
  /-- A command line that is not accepted, or asks for help or for the version. -/
  rejected : ∀ r, Settings.load (m.files s) call.args = .error (.commandLine r) →
    Idle m call s ∧ (run m call s).status = some (if r = .help ∨ r = .version then 0 else 2)
  /-- A configuration that cannot be used. -/
  unsettled : ∀ e, Settings.load (m.files s) call.args = .error e → (∀ r, e ≠ .commandLine r) →
    Idle m call s ∧ (run m call s).status = some 1
  /-- A dry run. -/
  shown : ∀ c settings, Settings.load (m.files s) call.args = .ok (c, settings) → c.dryRun = true →
    Idle m call s ∧ (run m call s).status = some 0
  /-- A run that is supervised, when no signal is delivered before it listens. -/
  supervised : ∀ c settings, Settings.load (m.files s) call.args = .ok (c, settings) → c.dryRun = false →
    (∀ d ∈ call.deliveries, supervisedFrom m settings s ≤ d.1) → Supervises m call s settings
  /-- A signal that is delivered before that. -/
  killed : ∀ c settings, Settings.load (m.files s) call.args = .ok (c, settings) → c.dryRun = false →
    ∀ d ∈ call.deliveries, d.1 < supervisedFrom m settings s → EndsWhileBuilding m call s settings

variable {m call s}

theorem run_of_error {e : SettingsError} (h : Settings.load (m.files s) call.args = .error e) :
    (run m call s).machine = s ∧ (run m call s).status = some (refusalStatus e) := by
  unfold run
  rw [h]
  cases e <;> exact ⟨rfl, rfl⟩

theorem run_of_dryRun {c : CommandLine} {settings : Settings} (h : Settings.load (m.files s) call.args = .ok (c, settings))
    (hdry : c.dryRun = true) : (run m call s).machine = s ∧ (run m call s).status = some 0 := by
  unfold run
  rw [h]
  dsimp only
  rw [if_pos hdry]
  exact ⟨rfl, rfl⟩

theorem run_of_settings {c : CommandLine} {settings : Settings} (h : Settings.load (m.files s) call.args = .ok (c, settings))
    (hdry : c.dryRun = false) :
    run m call s = supervise m call (Level.resolve c.logLevel call.level) settings s := by
  unfold run
  rw [h]
  dsimp only
  rw [if_neg (by simp [hdry])]

theorem failure_of_unbuilt {settings : Settings} {e : LaunchError} (h : .built (.error e) ∈ supervisedCalls m call settings s) :
    (supervised m call settings s).failure.isSome = true := by
  have hfirst : firstError (supervisedCalls m call settings s) =
      if (supervised m call settings s).report.interrupted then none else (supervised m call settings s).failure :=
    run_firstError ..
  cases hfailure : (supervised m call settings s).failure with
  | some e => rfl
  | none =>
    rw [hfailure, ite_self] at hfirst
    have herror : Call.error? (.built (.error e) : Supervisor.Call Child) = none := List.findSome?_eq_none_iff.1 hfirst _ h
    cases herror

/-- The output files of two processes of the plan are apart. -/
theorem place_ne {settings : Settings} {spec spec' : LaunchSpec} (hspec : spec ∈ settings.plan.specs)
    (hspec' : spec' ∈ settings.plan.specs) (hne : spec ≠ spec') (cwd : Place) (stream stream' : OutputStream) :
    spec.output.place cwd stream ≠ spec'.output.place cwd stream' :=
  fun heq => hne (eq_of_place_eq (Plan.nodup_outputPlaces settings.case settings.planParameters cwd) hspec hspec' heq).1

/-- A call that supervises a run and is not ended by a signal does what the run does. -/
theorem supervises {c : CommandLine} {settings : Settings} (h : Settings.load (m.files s) call.args = .ok (c, settings))
    (hdry : c.dryRun = false) (hkilled : killed? m call settings s = none) : Supervises m call s settings := by
  have haudited : Settings.load (m.audited.files (s, [])) call.args = .ok (c, settings) := h
  have hkilled' : killed? m.audited call settings (s, []) = none := (killed?_audited m call settings s).trans hkilled
  obtain ⟨hstatus, hmachine⟩ := supervise_of_not_killed m call (Level.resolve c.logLevel call.level) settings s hkilled
  obtain ⟨-, hmachine'⟩ := supervise_of_not_killed m.audited call (Level.resolve c.logLevel call.level) settings (s, []) hkilled'
  rw [← run_of_settings h hdry] at hstatus hmachine
  rw [← run_of_settings haudited hdry] at hmachine'
  have hnoted : effects m call s = (supervised m.audited call settings (s, [])).world.effects := congrArg Prod.snd hmachine'
  obtain ⟨-, ran, launches, heffects⟩ := m.run_audited settings.buildStage settings.runOptions settings.plan
    (Interrupt.ofDeliveries true call.deliveries) 0 s
  have horder : EffectsOf settings.buildStage (supervisedCalls m call settings s) ran launches (effects m call s) :=
    hnoted ▸ heffects
  have hinOrder : LaunchesInOrder settings.plan settings.runOptions.readyTimeout (supervisedCalls m call settings s) :=
    calls_launchesInOrder ..
  have hfirst := hinOrder.attempted_prefix
  refine ⟨hstatus, ⟨ran, launches, horder⟩, fun e he => ?_, hfirst, fun before after hfiles => ?_, fun spec child hchild => ?_,
    fun before after hfiles spec hspec hnot stream => ?_, fun spec hspec hnot stream halone => ?_⟩
  · have hnone := hinOrder.attempted_of_unbuilt he
    refine ⟨hnone, fun x hx => ?_, ?_⟩
    · rw [horder.eq_of_not_launched hnone] at hx
      obtain ⟨step, -, rfl⟩ := List.mem_map.1 hx
      exact ⟨step, rfl⟩
    · rw [hstatus, if_pos (failure_of_unbuilt he)]
  · obtain ⟨spec, hspec, rfl⟩ := horder.of_files hfiles
    exact ⟨spec, hspec, spec.output.open_touches before⟩
  · obtain ⟨before, hfiles, hopened⟩ := horder.opened_of_launched hchild
    refine ⟨before, _, hfiles, fun stream => (spec.output.open_touches before).blank stream ?_⟩
    rw [hopened]
    cases stream <;> simp
  · obtain ⟨spec', hspec', rfl⟩ := horder.of_files hfiles
    have hne : spec ≠ spec' := fun heq => hnot (heq ▸ hspec')
    exact (spec'.output.open_touches before).kept _ fun stream' _ =>
      place_ne hspec (hfirst.subset hspec') hne before.cwd stream stream'
  · rw [hmachine]
    refine m.run_keptAt halone _ _ _ _ _ s fun spec' hspec' stream' => ?_
    have hne : spec ≠ spec' := fun heq => hnot (heq ▸ hspec')
    exact place_ne hspec (hfirst.subset hspec') hne _ stream stream'

/-- A call that a signal ends while it builds has done nothing but build. -/
theorem endsWhileBuilding {c : CommandLine} {settings : Settings}
    (h : Settings.load (m.files s) call.args = .ok (c, settings)) (hdry : c.dryRun = false) {d : Interrupt.Delivery}
    (hkilled : killed? m call settings s = some d) : EndsWhileBuilding m call s settings := by
  have haudited : Settings.load (m.audited.files (s, [])) call.args = .ok (c, settings) := h
  have hkilled' : killed? m.audited call settings (s, []) = some d := (killed?_audited m call settings s).trans hkilled
  have hearly : d.1 < supervisedFrom m settings s := by
    rw [killed?_eq] at hkilled
    simpa using List.find?_some hkilled
  obtain ⟨hstatus, hmachine, hnotices⟩ :=
    supervise_of_killed m call (Level.resolve c.logLevel call.level) settings s hkilled
  obtain ⟨-, hmachine', -⟩ :=
    supervise_of_killed m.audited call (Level.resolve c.logLevel call.level) settings (s, []) hkilled'
  rw [← run_of_settings h hdry] at hstatus hmachine hnotices
  rw [← run_of_settings haudited hdry] at hmachine'
  refine ⟨hstatus, ?_, ?_, fun p halone => ?_⟩
  · rw [hnotices]
    exact not_launching_of_lt _ _ _ _ _ _ hearly
  · obtain ⟨ran, hran, heffects⟩ := machineWhileBuilding_effects m settings s d.1
    exact ⟨ran, hran, (congrArg Prod.snd hmachine').trans heffects⟩
  · rw [hmachine]
    exact KeepsPlace.yielding halone settings.buildStage settings.plan (some d.1) 0 s

/-- To note the effects of a call changes nothing. -/
theorem run_audited (m : Machine σ) (call : Call) (s : σ) :
    (run m.audited call (s, [])).status = (run m call s).status ∧
      (run m.audited call (s, [])).machine.1 = (run m call s).machine := by
  have hfiles : m.audited.files (s, []) = m.files s := rfl
  rcases h : Settings.load (m.files s) call.args with e | ⟨c, settings⟩
  · obtain ⟨hmachine, hstatus⟩ := run_of_error h
    obtain ⟨hmachine', hstatus'⟩ := run_of_error (m := m.audited) (s := (s, [])) h
    rw [hmachine, hstatus, hmachine', hstatus']
    exact ⟨rfl, rfl⟩
  · cases hdry : c.dryRun with
    | true =>
      obtain ⟨hmachine, hstatus⟩ := run_of_dryRun h hdry
      obtain ⟨hmachine', hstatus'⟩ := run_of_dryRun (m := m.audited) (s := (s, [])) h hdry
      rw [hmachine, hstatus, hmachine', hstatus']
      exact ⟨rfl, rfl⟩
    | false =>
      rw [run_of_settings h hdry, run_of_settings (m := m.audited) (s := (s, [])) h hdry]
      have hkilled := killed?_audited m call settings s
      cases hk : killed? m call settings s with
      | some d =>
        obtain ⟨hstatus, hmachine, -⟩ := supervise_of_killed m call (Level.resolve c.logLevel call.level) settings s hk
        obtain ⟨hstatus', hmachine', -⟩ := supervise_of_killed m.audited call (Level.resolve c.logLevel call.level) settings (s, [])
          (hkilled.trans hk)
        rw [hstatus, hmachine, hstatus', hmachine', machineWhileBuilding_audited]
        exact ⟨rfl, rfl⟩
      | none =>
        have hsame := (m.run_audited settings.buildStage settings.runOptions settings.plan
          (Interrupt.ofDeliveries true call.deliveries) 0 s).1
        have hfailure : (supervised m.audited call settings (s, [])).failure = (supervised m call settings s).failure :=
          hsame.failure_eq
        have hworld : (supervised m.audited call settings (s, [])).world.map Prod.fst = (supervised m call settings s).world :=
          hsame.world
        obtain ⟨hstatus, hmachine⟩ := supervise_of_not_killed m call (Level.resolve c.logLevel call.level) settings s hk
        obtain ⟨hstatus', hmachine'⟩ := supervise_of_not_killed m.audited call (Level.resolve c.logLevel call.level) settings
          (s, []) (hkilled.trans hk)
        rw [hstatus, hmachine, hstatus', hmachine', hfailure, ← hworld]
        exact ⟨rfl, rfl⟩

/-- A call of the program has no effects before they are due, none beyond those of the run that it supervises, and the exit
status that follows from what has become of it. -/
theorem run_dueEffects (m : Machine σ) (call : Call) (s : σ) : DueEffects m call s where
  audited := run_audited m call s
  rejected r h := by
    obtain ⟨hmachine, hstatus⟩ := run_of_error h
    obtain ⟨hmachine', -⟩ := run_of_error (m := m.audited) (s := (s, [])) h
    refine ⟨⟨hmachine, congrArg Prod.snd hmachine'⟩, hstatus.trans (congrArg some ?_)⟩
    cases r <;> rfl
  unsettled e h hne := by
    obtain ⟨hmachine, hstatus⟩ := run_of_error h
    obtain ⟨hmachine', -⟩ := run_of_error (m := m.audited) (s := (s, [])) h
    refine ⟨⟨hmachine, congrArg Prod.snd hmachine'⟩, hstatus.trans (congrArg some ?_)⟩
    cases e with
    | commandLine r => exact absurd rfl (hne r)
    | _ => rfl
  shown c settings h hdry := by
    obtain ⟨hmachine, hstatus⟩ := run_of_dryRun h hdry
    obtain ⟨hmachine', -⟩ := run_of_dryRun (m := m.audited) (s := (s, [])) h hdry
    exact ⟨⟨hmachine, congrArg Prod.snd hmachine'⟩, hstatus⟩
  supervised c settings h hdry hlate := by
    refine supervises h hdry ?_
    rw [killed?_eq]
    exact List.find?_eq_none.2 fun d hd => by simpa using hlate d hd
  killed c settings h hdry d hd hearly := by
    have hsome : (killed? m call settings s).isSome := by
      rw [killed?_eq]
      exact List.find?_isSome.2 ⟨d, hd, by simpa using hearly⟩
    obtain ⟨d', hkilled⟩ := Option.isSome_iff_exists.1 hsome
    exact endsWhileBuilding h hdry hkilled

end Run

/-- A run in which the first client cannot be started: what an earlier run has left in the last output file is kept. -/
theorem run_dueEffects_unstarted :
    let m : Machine FileTree :=
      { elapse := fun _ _ s => s
        files := fun s => s
        withFiles := fun t _ => t
        sockets := fun _ => []
        accepts := fun _ _ => false
        command := fun _ s => ⟨[], 0, s, .ok (.exited 0)⟩
        spawn := fun program _ _ s => (if program = "build/4-5/server" then .ok 7 else .error .notFound, s)
        poll := fun _ s => (.ok (some (.exited 0)), s)
        signalGroup := fun _ _ s => s
        signal := fun _ _ s => (.ok (), s) }
    let call : Call := ⟨["4-5", "--no-config", "--no-readiness", "--skip-build", "--settle-ms=0"], none, []⟩
    let start : FileTree := ⟨[], [(["build"], .directory), (["build", "4-5"], .directory),
      (["build", "4-5", "server"], .program), (["build", "4-5", "gardener"], .program),
      (["build", "4-5", "flowerbed"], .program), (["server.out"], .file [1] false), (["flowerbed.err"], .file [2] false)], []⟩
    (run m call start).status = some 1 ∧ (run m call start).machine.at? ["flowerbed.err"] = some (.file [2] false) ∧
      ∃ before after, .files before after ∈ effects m call start ∧ after.Blank (Path.place before.cwd "./server.out") := by
  intro m call start
  let settings : Settings :=
    { case := .fourFive, port := 12345, host := "127.0.0.1", buildDir := "build", logDir := ".", runSecs := 40, settleMs := 0
      readyTimeoutMs := 10000, serverReady := none, shutdown := ⟨0, 2000⟩, skipBuild := true
      buildSteps := [.configure "." "build", .compile "build"] }
  let c : CommandLine := ⟨.fourFive, none, none, true, none, none, none, none, none, some 0, none, true, true, none, none, false,
    none⟩
  let first : LaunchSpec := .server .fourFive ⟨"build", "."⟩ 12345 none
  let last : LaunchSpec := .client "flowerbed" .flowerbed .fourFive ⟨"build", "."⟩ "127.0.0.1" 12345
  have hload : Settings.load (m.files start) call.args = .ok (c, settings) := by rfl
  have hrun : Supervises m call start settings :=
    (run_dueEffects m call start).supervised c settings hload rfl (List.forall_mem_nil _)
  have halone (p : Place) : m.LeavesAlone p := by
    constructor <;> intros <;> exact ⟨rfl, rfl⟩
  have hfailed : (supervised m call settings start).failure.isSome = true := by decide +kernel
  have hlast : last ∉ attempted (supervisedCalls m call settings start) := by decide +kernel
  have hfirst : (first, (⟨first, 0, 7⟩ : Child)) ∈ launched (supervisedCalls m call settings start) := by decide +kernel
  have hstatus := hrun.status
  rw [hfailed] at hstatus
  obtain ⟨before, after, hfiles, hblank⟩ := hrun.opened first _ hfirst
  have hplace : last.output.place (m.files start).cwd .err = ["flowerbed.err"] := by decide +kernel
  have hkept := hrun.kept last (by decide +kernel) hlast .err (halone _)
  rw [hplace] at hkept
  exact ⟨hstatus, hkept.at?_eq (by decide +kernel), before, after, hfiles, hblank .out⟩

end Program

end StagedLaunch
