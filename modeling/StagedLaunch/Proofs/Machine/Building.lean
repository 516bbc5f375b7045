import StagedLaunch.Proofs.Machine.SideBySide

/-!
# What a build comes to

A build ends with the failure of one of its steps, or else with what the files at its end show about the executables of the plan
(`BuildStage.build_outcome`).
-/

namespace StagedLaunch

open Supervisor

variable {σ : Type}

/-- What a look for the executables of a plan comes to. -/
inductive FileTree.Verified (t : FileTree) (plan : Plan) : Except LaunchError Unit → Prop where
  /-- Every executable is a file. -/
  | complete (all : ∀ spec ∈ plan.specs, t.isFile spec.program = true) : Verified t plan (.ok ())
  /-- The first executable that is no file is named. -/
  | missing {before after : List LaunchSpec} {spec : LaunchSpec} (specs_eq : plan.specs = before ++ spec :: after)
      (found : ∀ earlier ∈ before, t.isFile earlier.program = true) (absent : t.isFile spec.program = false) :
      Verified t plan (.error (.missingExecutable spec.name spec.program))

theorem FileTree.verify_verified (t : FileTree) (plan : Plan) : t.Verified plan (t.verify plan) := by
  unfold verify
  cases hfind : plan.specs.find? fun spec => !t.isFile spec.program with
  | none =>
    refine .complete fun spec hspec => ?_
    simpa using List.find?_eq_none.1 hfind spec hspec
  | some spec =>
    obtain ⟨habsent, before, after, hspecs, hfound⟩ := List.find?_eq_some_iff_append.1 hfind
    exact .missing hspecs (fun earlier hearlier => by simpa using hfound earlier hearlier) (by simpa using habsent)

/-- Why a build step fails. -/
inductive StepFailure (step : BuildStep) : LaunchError → Prop where
  /-- Its program cannot be started. -/
  | unstarted (cause : OsError) : StepFailure step (.buildSpawn step.commandLine cause)
  /-- Its program does not succeed. -/
  | failed (code : Option Int) : StepFailure step (.buildFailed step.commandLine code)

/-- What a build comes to with files at its end. -/
inductive BuildOutcome (stage : BuildStage) (plan : Plan) (t : FileTree) : Except LaunchError Unit → Prop where
  /-- A step has failed. -/
  | stopped {step : BuildStep} {e : LaunchError} (mem : step ∈ stage.steps) (failure : StepFailure step e) :
      BuildOutcome stage plan t (.error e)
  /-- No step has failed, and the executables were looked for. -/
  | verified {result : Except LaunchError Unit} (verified : t.Verified plan result) : BuildOutcome stage plan t result

/-- When a build has succeeded, every executable of the plan is a file. -/
theorem BuildOutcome.isFile {stage : BuildStage} {plan : Plan} {t : FileTree} (h : BuildOutcome stage plan t (.ok ())) :
    ∀ spec ∈ plan.specs, t.isFile spec.program = true := by
  cases h with
  | verified hverified =>
    cases hverified with
    | complete hall => exact hall

namespace BuildStage

theorem runStep_endsIn (m : Machine σ) (step : BuildStep) :
    (runStep m step).EndsIn fun r => ∀ e, r = .error e → StepFailure step e := by
  refine .bind (.any _) fun _ _ => .bind (.any _) fun _ _ => .bind (.any _) fun r _ => .bind (.any _) fun r _ => ?_
  rcases r with cause | status
  · rintro e ⟨⟩
    exact .unstarted cause
  · dsimp only
    split
    · exact nofun
    · rintro e ⟨⟩
      exact .failed status.code?

theorem runSteps_endsIn (m : Machine σ) {steps all : List BuildStep} (hsteps : steps ⊆ all) :
    (runSteps m steps).EndsIn fun r => ∀ e, r = .error e → ∃ step ∈ all, StepFailure step e := by
  induction steps with
  | nil => exact nofun
  | cons step steps ih =>
    obtain ⟨hstep, hrest⟩ := List.cons_subset.1 hsteps
    refine .bind (runStep_endsIn m step) fun r hr => ?_
    rcases r with e | u
    · rintro e' ⟨⟩
      exact ⟨step, hstep, hr e rfl⟩
    · exact ih hrest

/-- What a build comes to is told by the files at its end, unless a step has failed. -/
theorem build_outcome (m : Machine σ) (stage : BuildStage) (plan : Plan) (now : Nat) (w : Watched σ)
    {result : Except LaunchError Unit}
    (h : ((stage.build m plan).run m.elapseWatched none now w).result = some result) :
    BuildOutcome stage plan (m.files ((stage.build m plan).run m.elapseWatched none now w).state.machine) result := by
  cases stage with
  | prebuilt =>
    cases h
    exact .verified (FileTree.verify_verified ..)
  | commands steps =>
    obtain ⟨r, hr⟩ := Activity.run_none_some m.elapseWatched (runSteps m steps) now w
    have hfailure := (runSteps_endsIn m (List.Subset.refl steps)).of_run hr
    rcases hrun : (runSteps m steps).run m.elapseWatched none now w with ⟨r', later, w', events⟩
    rw [hrun] at hr
    cases hr
    rw [build, Activity.run_bind_some hrun] at h ⊢
    rcases r with e | u
    · cases h
      obtain ⟨step, hmem, hstep⟩ := hfailure e rfl
      exact .stopped hmem hstep
    · cases h
      exact .verified (FileTree.verify_verified ..)

end BuildStage

end StagedLaunch
