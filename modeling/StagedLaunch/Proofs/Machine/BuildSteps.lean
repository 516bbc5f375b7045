import StagedLaunch.Proofs.Machine.Building

/-!
# The steps of a build

A build runs its steps one after the other. Some steps succeed one after the other when each of them does where the one before
it is over (`StepsSucceed`); a step is started exactly when those before it have succeeded, and the first that does not succeed,
or else the first executable that is missing, says how the build fails: `build_inOrder`.
-/

namespace StagedLaunch.BuildStage

variable {σ : Type} (m : Machine σ)

/-! ## One step -/

/-- The instant at which a command is over, and what there is then; some pieces of its output are still to come. -/
def followEnd (r : CommandRun σ) : List (Nat × List UInt8) → Nat → Watched σ → Nat × Watched σ
  | [], now, w => (now + r.rest, m.elapseWatched now (now + r.rest) w)
  | (ms, _) :: more, now, w => followEnd r more (now + ms) (m.elapseWatched now (now + ms) w)

/-- The instant at which a step is over, and what there is then. -/
def stepEnd (step : BuildStep) (now : Nat) (w : Watched σ) : Nat × Watched σ :=
  let r := m.command step w.machine
  followEnd m r r.output now { w with machine := r.state }

/-- What becomes of a step: its program could not be started, or it has ended. -/
def outcome (step : BuildStep) (w : Watched σ) : Except OsError ExitStatus := (m.command step w.machine).result

/-- The answer of a build step. -/
def answer (step : BuildStep) : Except OsError ExitStatus → Except LaunchError Unit
  | .error cause => .error (.buildSpawn step.commandLine cause)
  | .ok status => if status.success then .ok () else .error (.buildFailed step.commandLine status.code?)

/-- From an instant on, steps are run that all succeed, and they are over at another. -/
inductive StepsSucceed : Nat → Watched σ → List BuildStep → Nat → Watched σ → Prop where
  | nil (now : Nat) (w : Watched σ) : StepsSucceed now w [] now w
  | cons {step : BuildStep} {steps : List BuildStep} {now later : Nat} {w w' : Watched σ}
      (succeeds : outcome m step w = .ok (.exited 0))
      (more : StepsSucceed (stepEnd m step now w).1 (stepEnd m step now w).2 steps later w') :
      StepsSucceed now w (step :: steps) later w'

/-- The steps that are started, in order. -/
def startedSteps (events : List (Nat × MachineNotice)) : List BuildStep :=
  events.filterMap fun e => match e.2 with
    | .running step => some step
    | _ => none

@[simp] theorem startedSteps_append (a b : List (Nat × MachineNotice)) :
    startedSteps (a ++ b) = startedSteps a ++ startedSteps b := List.filterMap_append

/-! ## Running steps -/

section Runs

variable {m} {steps : List BuildStep} {step : BuildStep} {now later : Nat} {w w' : Watched σ}

/-- A step is answered exactly when it has exited with code zero. -/
theorem answer_eq_ok_iff {r : Except OsError ExitStatus} : answer step r = .ok () ↔ r = .ok (.exited 0) := by
  rcases r with cause | status
  · exact iff_of_false nofun nofun
  · simp only [answer, ExitStatus.success, beq_iff_eq, Except.ok.injEq]
    by_cases h : status = .exited 0
    · simp only [h, if_true]
    · simp only [h, if_false, reduceCtorEq]

/-- Following a command to its end starts nothing. -/
theorem run_follow (m : Machine σ) (r : CommandRun σ) (pieces : List (Nat × List UInt8)) (now : Nat) (w : Watched σ) :
    ∃ events, startedSteps events = [] ∧ (follow r pieces).run m.elapseWatched none now w =
      ⟨some r.result, (followEnd m r pieces now w).1, (followEnd m r pieces now w).2, events⟩ := by
  induction pieces generalizing now w with
  | nil => exact ⟨[], rfl, rfl⟩
  | cons piece pieces ih =>
    obtain ⟨ms, bytes⟩ := piece
    have hbusy : (Activity.busy ms : MachineAct σ Unit).run m.elapseWatched none now w =
      ⟨some (), now + ms, m.elapseWatched now (now + ms) w, []⟩ := rfl
    obtain ⟨events, hevents, hrun⟩ := ih (now + ms) (m.elapseWatched now (now + ms) w)
    refine ⟨(now + ms, .printed bytes) :: events, hevents, ?_⟩
    rw [follow, Activity.run_bind_some hbusy, Activity.run_bind_some (Activity.run_tell ..), hrun]
    rfl

/-- A step is started, and answered by its outcome where it is over. -/
theorem run_runStep (m : Machine σ) (step : BuildStep) (now : Nat) (w : Watched σ) :
    ∃ events, startedSteps events = [step] ∧ (runStep m step).run m.elapseWatched none now w =
      ⟨some (answer step (outcome m step w)), (stepEnd m step now w).1, (stepEnd m step now w).2, events⟩ := by
  have hact : (Activity.act fun _ w =>
        let r := m.command step w.machine
        (r, { w with machine := r.state }) : MachineAct σ (CommandRun σ)).run m.elapseWatched none now w =
      ⟨some (m.command step w.machine), now, { w with machine := (m.command step w.machine).state }, []⟩ := rfl
  obtain ⟨events, hevents, hrun⟩ := run_follow m (m.command step w.machine) (m.command step w.machine).output now
    { w with machine := (m.command step w.machine).state }
  rw [runStep, logRecord, Activity.run_bind_some (Activity.run_tell ..), Activity.run_bind_some (Activity.run_tell ..),
    Activity.run_bind_some hact, Activity.run_bind_some hrun]
  have hstarted (more : List (Nat × MachineNotice)) (hmore : startedSteps more = []) :
      startedSteps ([(now, .logged ⟨.info, "running build step", [("step", .text step.commandLine)]⟩)] ++
        ([(now, .running step)] ++ (events ++ more))) = [step] := by
    simp only [startedSteps_append, hevents, hmore]
    rfl
  unfold answer outcome
  rcases (m.command step w.machine).result with cause | status
  · exact ⟨_, hstarted [] rfl, rfl⟩
  · by_cases hstatus : status.success = true
    · simp only [hstatus, if_true]
      exact ⟨_, hstarted [_] rfl, rfl⟩
    · simp only [hstatus]
      exact ⟨_, hstarted [] rfl, rfl⟩

/-- When the first step succeeds, the others are run where it is over. -/
theorem run_runSteps_of_ok (hstep : outcome m step w = .ok (.exited 0)) (steps : List BuildStep) (now : Nat) :
    ∃ events, startedSteps events = [step] ∧ (runSteps m (step :: steps)).run m.elapseWatched none now w =
      ((runSteps m steps).run m.elapseWatched none (stepEnd m step now w).1 (stepEnd m step now w).2).after events := by
  obtain ⟨events, hevents, hrun⟩ := run_runStep m step now w
  rw [answer_eq_ok_iff.2 hstep] at hrun
  exact ⟨events, hevents, by rw [runSteps, Activity.run_bind_some hrun]⟩

/-- When the first step does not succeed, no other is run. -/
theorem run_runSteps_of_error {e : LaunchError} (hstep : answer step (outcome m step w) = .error e)
    (steps : List BuildStep) (now : Nat) :
    ∃ events, startedSteps events = [step] ∧ (runSteps m (step :: steps)).run m.elapseWatched none now w =
      ⟨some (.error e), (stepEnd m step now w).1, (stepEnd m step now w).2, events⟩ := by
  obtain ⟨events, hevents, hrun⟩ := run_runStep m step now w
  rw [hstep] at hrun
  refine ⟨events, hevents, ?_⟩
  rw [runSteps, Activity.run_bind_some hrun]
  simp [Run.after, Activity.run, pure]

/-- Steps that succeed are all run, and those after them where they are over. -/
theorem StepsSucceed.run (h : StepsSucceed m now w steps later w') (rest : List BuildStep) :
    ∃ events, startedSteps events = steps ∧ (runSteps m (steps ++ rest)).run m.elapseWatched none now w =
      ((runSteps m rest).run m.elapseWatched none later w').after events := by
  induction h with
  | nil now w => exact ⟨[], rfl, rfl⟩
  | @cons step steps now later w w' succeeds more ih =>
    obtain ⟨events, hevents, hrun⟩ := run_runSteps_of_ok succeeds (steps ++ rest) now
    obtain ⟨others, hothers, hmore⟩ := ih
    refine ⟨events ++ others, by rw [startedSteps_append, hevents, hothers]; rfl, ?_⟩
    rw [List.cons_append, hrun, hmore]
    simp [Run.after]

/-- All steps succeed, or there is a first that does not. -/
theorem stepsSucceed_or_stops (m : Machine σ) (steps : List BuildStep) (now : Nat) (w : Watched σ) :
    (∃ later w', StepsSucceed m now w steps later w') ∨ ∃ before step after later w' e,
      steps = before ++ step :: after ∧ StepsSucceed m now w before later w' ∧
        answer step (outcome m step w') = .error e := by
  induction steps generalizing now w with
  | nil => exact Or.inl ⟨now, w, .nil now w⟩
  | cons step steps ih =>
    rcases hanswer : answer step (outcome m step w) with e | u
    · exact Or.inr ⟨[], step, steps, now, w, e, rfl, .nil now w, hanswer⟩
    · have hstep := answer_eq_ok_iff.1 hanswer
      rcases ih (stepEnd m step now w).1 (stepEnd m step now w).2 with
        ⟨later, w', hmore⟩ | ⟨before, failing, after, later, w', e, rfl, hmore, hfails⟩
      · exact Or.inl ⟨later, w', .cons hstep hmore⟩
      · exact Or.inr ⟨step :: before, failing, after, later, w', e, rfl, .cons hstep hmore, hfails⟩

/-! ## The steps that are started -/

theorem startedSteps_runSteps_of_ok (hstep : outcome m step w = .ok (.exited 0)) (steps : List BuildStep) (now : Nat) :
    startedSteps ((runSteps m (step :: steps)).run m.elapseWatched none now w).events =
      step :: startedSteps ((runSteps m steps).run m.elapseWatched none (stepEnd m step now w).1
        (stepEnd m step now w).2).events := by
  obtain ⟨events, hevents, hrun⟩ := run_runSteps_of_ok hstep steps now
  rw [hrun, Run.after_events, startedSteps_append, hevents, List.singleton_append]

theorem startedSteps_runSteps_of_error {e : LaunchError} (hstep : answer step (outcome m step w) = .error e)
    (steps : List BuildStep) (now : Nat) :
    startedSteps ((runSteps m (step :: steps)).run m.elapseWatched none now w).events = [step] := by
  obtain ⟨events, hevents, hrun⟩ := run_runSteps_of_error hstep steps now
  rw [hrun, hevents]

/-- Steps are started in their order. -/
theorem startedSteps_runSteps_prefix (m : Machine σ) (steps : List BuildStep) (now : Nat) (w : Watched σ) :
    startedSteps ((runSteps m steps).run m.elapseWatched none now w).events <+: steps := by
  induction steps generalizing now w with
  | nil => exact List.prefix_refl []
  | cons step steps ih =>
    rcases hanswer : answer step (outcome m step w) with e | u
    · rw [startedSteps_runSteps_of_error hanswer]
      exact ⟨steps, rfl⟩
    · rw [startedSteps_runSteps_of_ok (answer_eq_ok_iff.1 hanswer), List.prefix_cons_inj]
      exact ih _ _

/-- The first of some steps is started. -/
theorem startedSteps_runSteps_cons (m : Machine σ) (step : BuildStep) (steps : List BuildStep) (now : Nat) (w : Watched σ) :
    [step] <+: startedSteps ((runSteps m (step :: steps)).run m.elapseWatched none now w).events := by
  rcases hanswer : answer step (outcome m step w) with e | u
  · exact ⟨[], (startedSteps_runSteps_of_error hanswer steps now).symm⟩
  · exact ⟨_, (startedSteps_runSteps_of_ok (answer_eq_ok_iff.1 hanswer) steps now).symm⟩

/-- A step is started exactly when those before it have succeeded. -/
theorem prefix_startedSteps_runSteps_iff {before after : List BuildStep} :
    before ++ [step] <+: startedSteps ((runSteps m (before ++ step :: after)).run m.elapseWatched none now w).events ↔
      ∃ later w', StepsSucceed m now w before later w' := by
  constructor
  · intro h
    induction before generalizing now w with
    | nil => exact ⟨now, w, .nil now w⟩
    | cons first before ih =>
      rw [List.cons_append, List.cons_append] at h
      rcases hanswer : answer first (outcome m first w) with e | u
      · rw [startedSteps_runSteps_of_error hanswer] at h
        have hlength := h.length_le
        simp at hlength
      · have hfirst := answer_eq_ok_iff.1 hanswer
        rw [startedSteps_runSteps_of_ok hfirst, List.prefix_cons_inj] at h
        obtain ⟨later, w', hmore⟩ := ih h
        exact ⟨later, w', .cons hfirst hmore⟩
  · rintro ⟨later, w', h⟩
    obtain ⟨events, hevents, hrun⟩ := h.run (step :: after)
    rw [hrun, Run.after_events, startedSteps_append, hevents, List.prefix_append_right_inj]
    exact startedSteps_runSteps_cons m step after later w'

end Runs

/-! ## The answer of a build -/

/-- A build that is left out is one without steps. -/
theorem build_commands_steps (stage : BuildStage) (plan : Plan) :
    (BuildStage.commands stage.steps).build m plan = stage.build m plan := by
  cases stage with
  | prebuilt => rfl
  | commands steps => rfl

/-- What holds of a build with some steps and its answer. -/
structure BuildsInOrder (steps : List BuildStep) (plan : Plan) (now : Nat) (w : Watched σ)
    (r : Run MachineNotice (Watched σ) (Except LaunchError Unit)) : Prop where
  /-- There is an answer: the build succeeds, or it fails in one of three ways. -/
  ends : r.result = some (.ok ()) ∨ (∃ line cause, r.result = some (.error (.buildSpawn line cause))) ∨
    (∃ line code, r.result = some (.error (.buildFailed line code))) ∨
      ∃ name path, r.result = some (.error (.missingExecutable name path))
  /-- Steps are started in their order, each at most once. -/
  started_prefix : startedSteps r.events <+: steps
  /-- A step is started exactly when those before it have succeeded. -/
  started_iff : ∀ before step after, steps = before ++ step :: after →
    (before ++ [step] <+: startedSteps r.events ↔ ∃ later w', StepsSucceed m now w before later w')
  /-- The build succeeds exactly when every step does and then every executable of the plan is a file. -/
  ok_iff : r.result = some (.ok ()) ↔ ∃ later w', StepsSucceed m now w steps later w' ∧
    ∀ spec ∈ plan.specs, (m.files w'.machine).isFile spec.program = true
  /-- A program that cannot be started is that of the first step that does not succeed. -/
  unstarted_iff : ∀ line cause, r.result = some (.error (.buildSpawn line cause)) ↔
    ∃ before step after later w', steps = before ++ step :: after ∧ StepsSucceed m now w before later w' ∧
      outcome m step w' = .error cause ∧ line = step.commandLine
  /-- A command that has failed is the first step that does not succeed; its exit code is absent if a signal ended it. -/
  failed_iff : ∀ line code, r.result = some (.error (.buildFailed line code)) ↔
    ∃ before step after later w' status, steps = before ++ step :: after ∧ StepsSucceed m now w before later w' ∧
      outcome m step w' = .ok status ∧ status ≠ .exited 0 ∧ line = step.commandLine ∧ code = status.code?
  /-- An executable that is missing is that of the first specification, in the order of the plan, for which there is no file
  when every step has succeeded. -/
  missing_iff : ∀ name path, r.result = some (.error (.missingExecutable name path)) ↔
    ∃ later w' before spec after, StepsSucceed m now w steps later w' ∧ plan.specs = before ++ spec :: after ∧
      (∀ earlier ∈ before, (m.files w'.machine).isFile earlier.program = true) ∧
      (m.files w'.machine).isFile spec.program = false ∧ name = spec.name ∧ path = spec.program

section Building

variable {m} {steps before after : List BuildStep} {step : BuildStep} {plan : Plan} {now later : Nat} {w w' : Watched σ}

/-- Looking for the executables starts no step. -/
theorem startedSteps_build (m : Machine σ) (steps : List BuildStep) (plan : Plan) (now : Nat) (w : Watched σ) :
    startedSteps (((BuildStage.commands steps).build m plan).run m.elapseWatched none now w).events =
      startedSteps ((runSteps m steps).run m.elapseWatched none now w).events := by
  obtain ⟨r, hr⟩ := Activity.run_none_some m.elapseWatched (runSteps m steps) now w
  rcases hrun : (runSteps m steps).run m.elapseWatched none now w with ⟨r', later, w', events⟩
  rw [hrun] at hr
  cases hr
  rw [build, Activity.run_bind_some hrun, Run.after_events, startedSteps_append]
  rcases r with e | u
  · exact List.append_nil _
  · exact List.append_nil _

/-- When every step has succeeded, the executables are looked for. -/
theorem StepsSucceed.result_build (h : StepsSucceed m now w steps later w') (plan : Plan) :
    (((BuildStage.commands steps).build m plan).run m.elapseWatched none now w).result =
      some ((m.files w'.machine).verify plan) := by
  obtain ⟨events, -, hrun⟩ := h.run []
  have hsteps : (runSteps m steps).run m.elapseWatched none now w = ⟨some (.ok ()), later, w', events ++ []⟩ := by
    rw [List.append_nil] at hrun
    exact hrun
  rw [build, Activity.run_bind_some hsteps]
  rfl

/-- The first step that does not succeed ends the build with its error. -/
theorem StepsSucceed.result_build_of_error (h : StepsSucceed m now w before later w') {e : LaunchError}
    (hstep : answer step (outcome m step w') = .error e) (after : List BuildStep) (plan : Plan) :
    (((BuildStage.commands (before ++ step :: after)).build m plan).run m.elapseWatched none now w).result =
      some (.error e) := by
  obtain ⟨events, -, hrun⟩ := h.run (step :: after)
  obtain ⟨more, -, hlast⟩ := run_runSteps_of_error hstep after later
  rw [hlast] at hrun
  rw [build, Activity.run_bind_some hrun]
  rfl

/-- How a build ends: with the error of the first step that does not succeed, or with what there is of the executables when
every step has. -/
inductive BuildEnds (m : Machine σ) (steps : List BuildStep) (plan : Plan) (now : Nat) (w : Watched σ) :
    Except LaunchError Unit → Prop where
  | stopped {before after : List BuildStep} {step : BuildStep} {later : Nat} {w' : Watched σ} {e : LaunchError}
      (steps_eq : steps = before ++ step :: after) (succeed : StepsSucceed m now w before later w')
      (fails : answer step (outcome m step w') = .error e) : BuildEnds m steps plan now w (.error e)
  | verified {later : Nat} {w' : Watched σ} (succeed : StepsSucceed m now w steps later w') :
      BuildEnds m steps plan now w ((m.files w'.machine).verify plan)

theorem BuildEnds.result_eq {result : Except LaunchError Unit} (h : BuildEnds m steps plan now w result) :
    (((BuildStage.commands steps).build m plan).run m.elapseWatched none now w).result = some result := by
  cases h with
  | stopped steps_eq succeed fails =>
    rw [steps_eq]
    exact succeed.result_build_of_error fails _ plan
  | verified succeed => exact succeed.result_build plan

/-- A build answers as it ends. -/
theorem result_build_iff {result : Except LaunchError Unit} :
    (((BuildStage.commands steps).build m plan).run m.elapseWatched none now w).result = some result ↔
      BuildEnds m steps plan now w result := by
  refine ⟨fun h => ?_, BuildEnds.result_eq⟩
  rcases stepsSucceed_or_stops m steps now w with ⟨later, w', hall⟩ | ⟨before, step, after, later, w', e, heq, hbefore, hfails⟩
  · have hends : BuildEnds m steps plan now w _ := .verified hall
    cases h.symm.trans hends.result_eq
    exact hends
  · have hends : BuildEnds m steps plan now w (.error e) := .stopped heq hbefore hfails
    cases h.symm.trans hends.result_eq
    exact hends

/-- How a step can fail. -/
theorem answer_eq_error_iff {r : Except OsError ExitStatus} {e : LaunchError} :
    answer step r = .error e ↔ (∃ cause, r = .error cause ∧ e = .buildSpawn step.commandLine cause) ∨
      ∃ status, r = .ok status ∧ status ≠ .exited 0 ∧ e = .buildFailed step.commandLine status.code? := by
  rcases r with cause | status
  · simp [answer, eq_comm]
  · by_cases h : status = .exited 0
    · simp [answer, ExitStatus.success, h]
    · have hfails : answer step (.ok status) = .error (.buildFailed step.commandLine status.code?) := by
        simp [answer, ExitStatus.success, h]
      rw [hfails, Except.error.injEq, eq_comm]
      simp [h]

/-- What is missing when every step has succeeded. -/
theorem verify_eq_error_iff {t : FileTree} {e : LaunchError} :
    t.verify plan = .error e ↔ ∃ before spec after, plan.specs = before ++ spec :: after ∧
      (∀ earlier ∈ before, t.isFile earlier.program = true) ∧ t.isFile spec.program = false ∧
        e = .missingExecutable spec.name spec.program := by
  have hfind : ∀ spec, (plan.specs.find? fun spec => !t.isFile spec.program) = some spec ↔
      ∃ before after, plan.specs = before ++ spec :: after ∧ (∀ earlier ∈ before, t.isFile earlier.program = true) ∧
        t.isFile spec.program = false := by
    intro spec
    simp only [List.find?_eq_some_iff_append, Bool.not_eq_true', Bool.not_not]
    constructor
    · rintro ⟨habsent, before, after, hspecs, hfound⟩
      exact ⟨before, after, hspecs, hfound, habsent⟩
    · rintro ⟨before, after, hspecs, hfound, habsent⟩
      exact ⟨habsent, before, after, hspecs, hfound⟩
  unfold FileTree.verify
  constructor
  · intro h
    split at h
    · rename_i spec hspec
      obtain ⟨before, after, hspecs, hfound, habsent⟩ := (hfind spec).1 hspec
      exact ⟨before, spec, after, hspecs, hfound, habsent, (Except.error.inj h).symm⟩
    · cases h
  · rintro ⟨before, spec, after, hspecs, hfound, habsent, rfl⟩
    rw [(hfind spec).2 ⟨before, after, hspecs, hfound, habsent⟩]

theorem verify_eq_ok_iff {t : FileTree} :
    t.verify plan = .ok () ↔ ∀ spec ∈ plan.specs, t.isFile spec.program = true := by
  have hverified := t.verify_verified plan
  constructor
  · intro h
    rw [h] at hverified
    cases hverified with
    | complete hall => exact hall
  · intro hall
    generalize t.verify plan = result at hverified
    cases hverified with
    | complete _ => rfl
    | @missing before after spec specs_eq found absent =>
      have hspec : spec ∈ plan.specs := specs_eq ▸ List.mem_append_right before (List.mem_cons_self ..)
      cases (hall spec hspec).symm.trans absent

/-- How a build can end. -/
theorem buildEnds_iff {result : Except LaunchError Unit} :
    BuildEnds m steps plan now w result ↔
      (∃ before step after later w' e, steps = before ++ step :: after ∧ StepsSucceed m now w before later w' ∧
        answer step (outcome m step w') = .error e ∧ result = .error e) ∨
      ∃ later w', StepsSucceed m now w steps later w' ∧ (m.files w'.machine).verify plan = result := by
  constructor
  · intro h
    cases h with
    | stopped steps_eq succeed fails => exact Or.inl ⟨_, _, _, _, _, _, steps_eq, succeed, fails, rfl⟩
    | verified succeed => exact Or.inr ⟨_, _, succeed, rfl⟩
  · rintro (⟨before, step, after, later, w', e, heq, hbefore, hfails, rfl⟩ | ⟨later, w', hall, rfl⟩)
    · exact .stopped heq hbefore hfails
    · exact .verified hall

theorem buildEnds_unstarted_iff {line : String} {cause : OsError} :
    BuildEnds m steps plan now w (.error (.buildSpawn line cause)) ↔ ∃ before step after later w',
      steps = before ++ step :: after ∧ StepsSucceed m now w before later w' ∧ outcome m step w' = .error cause ∧
        line = step.commandLine := by
  rw [buildEnds_iff]
  constructor
  · rintro (⟨before, step, after, later, w', e, heq, hbefore, hfails, ⟨⟩⟩ | ⟨later, w', -, hverify⟩)
    · rcases answer_eq_error_iff.1 hfails with ⟨cause, houtcome, ⟨⟩⟩ | ⟨status, -, -, ⟨⟩⟩
      exact ⟨before, step, after, later, w', heq, hbefore, houtcome, rfl⟩
    · obtain ⟨before, spec, after, -, -, -, ⟨⟩⟩ := verify_eq_error_iff.1 hverify
  · rintro ⟨before, step, after, later, w', heq, hbefore, houtcome, rfl⟩
    have hfails : answer step (outcome m step w') = .error _ := answer_eq_error_iff.2 (Or.inl ⟨cause, houtcome, rfl⟩)
    exact Or.inl ⟨before, step, after, later, w', _, heq, hbefore, hfails, rfl⟩

theorem buildEnds_failed_iff {line : String} {code : Option Int} :
    BuildEnds m steps plan now w (.error (.buildFailed line code)) ↔ ∃ before step after later w' status,
      steps = before ++ step :: after ∧ StepsSucceed m now w before later w' ∧ outcome m step w' = .ok status ∧
        status ≠ .exited 0 ∧ line = step.commandLine ∧ code = status.code? := by
  rw [buildEnds_iff]
  constructor
  · rintro (⟨before, step, after, later, w', e, heq, hbefore, hfails, ⟨⟩⟩ | ⟨later, w', -, hverify⟩)
    · rcases answer_eq_error_iff.1 hfails with ⟨cause, -, ⟨⟩⟩ | ⟨status, houtcome, hstatus, ⟨⟩⟩
      exact ⟨before, step, after, later, w', status, heq, hbefore, houtcome, hstatus, rfl, rfl⟩
    · obtain ⟨before, spec, after, -, -, -, ⟨⟩⟩ := verify_eq_error_iff.1 hverify
  · rintro ⟨before, step, after, later, w', status, heq, hbefore, houtcome, hstatus, rfl, rfl⟩
    have hfails : answer step (outcome m step w') = .error _ :=
      answer_eq_error_iff.2 (Or.inr ⟨status, houtcome, hstatus, rfl⟩)
    exact Or.inl ⟨before, step, after, later, w', _, heq, hbefore, hfails, rfl⟩

theorem buildEnds_missing_iff {name path : String} :
    BuildEnds m steps plan now w (.error (.missingExecutable name path)) ↔ ∃ later w' before spec after,
      StepsSucceed m now w steps later w' ∧ plan.specs = before ++ spec :: after ∧
        (∀ earlier ∈ before, (m.files w'.machine).isFile earlier.program = true) ∧
        (m.files w'.machine).isFile spec.program = false ∧ name = spec.name ∧ path = spec.program := by
  rw [buildEnds_iff]
  constructor
  · rintro (⟨before, step, after, later, w', e, -, -, hfails, ⟨⟩⟩ | ⟨later, w', hall, hverify⟩)
    · rcases answer_eq_error_iff.1 hfails with ⟨cause, -, ⟨⟩⟩ | ⟨status, -, -, ⟨⟩⟩
    · obtain ⟨before, spec, after, hspecs, hfound, habsent, ⟨⟩⟩ := verify_eq_error_iff.1 hverify
      exact ⟨later, w', before, spec, after, hall, hspecs, hfound, habsent, rfl, rfl⟩
  · rintro ⟨later, w', before, spec, after, hall, hspecs, hfound, habsent, rfl, rfl⟩
    exact Or.inr ⟨later, w', hall, verify_eq_error_iff.2 ⟨before, spec, after, hspecs, hfound, habsent, rfl⟩⟩

/-- Only in these ways a build fails. -/
theorem BuildEnds.cases {result : Except LaunchError Unit} (h : BuildEnds m steps plan now w result) :
    result = .ok () ∨ (∃ line cause, result = .error (.buildSpawn line cause)) ∨
      (∃ line code, result = .error (.buildFailed line code)) ∨ ∃ name path, result = .error (.missingExecutable name path) := by
  cases h with
  | stopped steps_eq succeed fails =>
    rcases answer_eq_error_iff.1 fails with ⟨cause, -, rfl⟩ | ⟨status, -, -, rfl⟩
    · exact Or.inr (Or.inl ⟨_, _, rfl⟩)
    · exact Or.inr (Or.inr (Or.inl ⟨_, _, rfl⟩))
  | @verified later w' succeed =>
    rcases hverify : (m.files w'.machine).verify plan with e | u
    · obtain ⟨before, spec, after, -, -, -, rfl⟩ := verify_eq_error_iff.1 hverify
      exact Or.inr (Or.inr (Or.inr ⟨_, _, rfl⟩))
    · exact Or.inl rfl

end Building

/-- A build starts its steps in order, each when those before it have succeeded, and answers with the failure of the first step
that does not succeed or else with what there is of the executables. A build that is left out does what one without steps
does. -/
theorem build_inOrder (stage : BuildStage) (plan : Plan) (now : Nat) (w : Watched σ) :
    BuildsInOrder m stage.steps plan now w ((stage.build m plan).run m.elapseWatched none now w) ∧
      BuildStage.prebuilt.build m plan = (BuildStage.commands []).build m plan := by
  refine ⟨?_, (build_commands_steps m .prebuilt plan).symm⟩
  rw [← build_commands_steps m stage plan]
  generalize stage.steps = steps
  have hstarted := startedSteps_build m steps plan now w
  obtain ⟨result, hresult⟩ := Activity.run_none_some m.elapseWatched ((BuildStage.commands steps).build m plan) now w
  refine
    { ends := ?_
      started_prefix := ?_
      started_iff := ?_
      ok_iff := ?_
      unstarted_iff := fun line cause => result_build_iff.trans buildEnds_unstarted_iff
      failed_iff := fun line code => result_build_iff.trans buildEnds_failed_iff
      missing_iff := fun name path => result_build_iff.trans buildEnds_missing_iff }
  · simpa only [hresult, Option.some.injEq] using (result_build_iff.1 hresult).cases
  · rw [hstarted]
    exact startedSteps_runSteps_prefix m steps now w
  · rintro before step after rfl
    rw [hstarted]
    exact prefix_startedSteps_runSteps_iff
  · rw [result_build_iff, buildEnds_iff]
    simp only [reduceCtorEq, and_false, exists_false, false_or, verify_eq_ok_iff]

end StagedLaunch.BuildStage
