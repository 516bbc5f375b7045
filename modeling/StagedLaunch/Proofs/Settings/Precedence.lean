import StagedLaunch.Proofs.Plan.BuildStep
import StagedLaunch.Settings.Load

/-!
# Where settings come from

Each setting is the value of the command line, else that of the configuration, else the default (`Layered`); the readiness
check, the flag that leaves the build out, and the two build steps follow rules of their own (`Settings.Merges`). There are
settings unless a build command of the configuration is unusable, and the first such command is reported (`Config.Faulty`).
So a value of the configuration that the command line sets makes no difference (`AgreeWhereOpen`, `Settings.resolve_layered`).
-/

namespace StagedLaunch

variable {α : Type}

/-! ## Three layers -/

/-- A value is the first of those that are there: the one that is given, the one that is configured, the standard one. -/
inductive Layered (given configured : Option α) (standard : α) : α → Prop where
  /-- The value is given. -/
  | given {v : α} (isGiven : given = some v) : Layered given configured standard v
  /-- No value is given, and this one is configured. -/
  | configured {v : α} (isOpen : given = none) (isConfigured : configured = some v) : Layered given configured standard v
  /-- No value is given and none is configured. -/
  | standard (isOpen : given = none) (isUnset : configured = none) : Layered given configured standard standard

theorem layered_iff {given configured : Option α} {standard v : α} :
    Layered given configured standard v ↔ v = (given <|> configured).getD standard := by
  constructor
  · rintro (hgiven | ⟨hopen, hconfigured⟩ | ⟨hopen, hunset⟩)
    · rw [hgiven]
      rfl
    · rw [hopen, hconfigured]
      rfl
    · rw [hopen, hunset]
      rfl
  · rintro rfl
    cases hgiven : given with
    | some v => exact .given rfl
    | none =>
      cases hconfigured : configured with
      | some v => exact .configured rfl rfl
      | none => exact .standard rfl rfl

theorem Layered.unique {given configured : Option α} {standard v v' : α} (h : Layered given configured standard v)
    (h' : Layered given configured standard v') : v = v' :=
  (layered_iff.1 h).trans (layered_iff.1 h').symm

/-- What is configured is not looked at where a value is given. -/
theorem Layered.of_agree {given configured configured' : Option α} {standard v : α} (h : Layered given configured standard v)
    (hagree : given = none → configured = configured') : Layered given configured' standard v := by
  rcases h with hgiven | ⟨hopen, hconfigured⟩ | ⟨hopen, hunset⟩
  · exact .given hgiven
  · exact .configured hopen ((hagree hopen).symm.trans hconfigured)
  · exact .standard hopen ((hagree hopen).symm.trans hunset)

/-! ## Build commands of a configuration -/

attribute [ext] Shutdown Settings

namespace Config

/-- The command that replaces the step that configures. -/
def configure? (k : Config) : Option String := k.build.bind BuildConfig.configure

/-- The command that replaces the step that compiles. -/
def compile? (k : Config) : Option String := k.build.bind BuildConfig.compile

/-- Whether the configuration says to leave the build out. -/
def skip? (k : Config) : Option Bool := k.build.bind BuildConfig.skip

/-- The configuration has an unusable build command; the error is that of the first. -/
inductive Faulty (k : Config) : BuildCommandError → Prop where
  /-- The command that configures. -/
  | configure {command : String} {e : BuildCommandError} (isSet : k.configure? = some command)
      (unusable : BuildStep.Unusable command e) : Faulty k e
  /-- The command that compiles, after one that configures or none. -/
  | compile {command : String} {e : BuildCommandError} (isSet : k.compile? = some command)
      (unusable : BuildStep.Unusable command e)
      (before : ∀ first, k.configure? = some first → ∃ step, BuildStep.parse first = .ok step) : Faulty k e

theorem Faulty.unique {k : Config} {e e' : BuildCommandError} (h : k.Faulty e) (h' : k.Faulty e') : e = e' := by
  rcases h with ⟨hset, hunusable⟩ | ⟨hset, hunusable, hbefore⟩ <;>
    rcases h' with ⟨hset', hunusable'⟩ | ⟨hset', hunusable', hbefore'⟩
  · cases hset.symm.trans hset'
    exact hunusable.unique hunusable'
  · exact absurd (hbefore' _ hset) hunusable.not_usable
  · exact absurd (hbefore _ hset') hunusable'.not_usable
  · cases hset.symm.trans hset'
    exact hunusable.unique hunusable'

theorem Faulty.of_agree {k k' : Config} {e : BuildCommandError} (h : k.Faulty e) (hconfigure : k.configure? = k'.configure?)
    (hcompile : k.compile? = k'.compile?) : k'.Faulty e := by
  rcases h with ⟨hset, hunusable⟩ | ⟨hset, hunusable, hbefore⟩
  · exact .configure (hconfigure ▸ hset) hunusable
  · exact .compile (hcompile ▸ hset) hunusable (hconfigure ▸ hbefore)

/-- Some build command is unusable just when one is configured that has no first word. -/
theorem exists_faulty_iff {k : Config} : (∃ e, k.Faulty e) ↔
    ∃ command, (k.configure? = some command ∨ k.compile? = some command) ∧
      ∀ program args, Words.split command ≠ some (program :: args) := by
  constructor
  · rintro ⟨e, ⟨hset, hunusable⟩ | ⟨hset, hunusable, -⟩⟩
    · exact ⟨_, .inl hset, BuildStep.exists_unusable_iff.1 ⟨e, hunusable⟩⟩
    · exact ⟨_, .inr hset, BuildStep.exists_unusable_iff.1 ⟨e, hunusable⟩⟩
  · rintro ⟨command, hset, hwords⟩
    obtain ⟨e, hunusable⟩ := BuildStep.exists_unusable_iff.2 hwords
    rcases hset with hset | hset
    · exact ⟨e, .configure hset hunusable⟩
    · by_cases hbefore : ∀ first, k.configure? = some first → ∃ step, BuildStep.parse first = .ok step
      · exact ⟨e, .compile hset hunusable hbefore⟩
      · simp only [not_forall] at hbefore
        obtain ⟨first, hfirst, hnone⟩ := hbefore
        rcases hparse : BuildStep.parse first with e' | step
        · exact ⟨e', .configure hfirst (BuildStep.parse_eq_error_iff.1 hparse)⟩
        · exact absurd ⟨step, hparse⟩ hnone

end Config

namespace Settings

/-- A build step is the one that a command stands for, or the standard one if there is no command. -/
inductive StepFrom (command : Option String) (standard : BuildStep) : BuildStep → Prop where
  /-- The words of the command. -/
  | command {text program : String} {args : List String} (isSet : command = some text)
      (words : Words.split text = some (program :: args)) : StepFrom command standard ⟨program, args⟩
  /-- The standard step. -/
  | standard (isUnset : command = none) : StepFrom command standard standard

theorem overriddenStep_eq_ok_iff {command : Option String} {standard step : BuildStep} :
    overriddenStep command standard = .ok step ↔ StepFrom command standard step := by
  constructor
  · intro h
    cases command with
    | none =>
      cases h
      exact .standard rfl
    | some text => exact .command rfl (BuildStep.parse_eq_ok_iff.1 h)
  · rintro (⟨rfl, hwords⟩ | rfl)
    · exact BuildStep.parse_eq_ok_iff.2 hwords
    · rfl

/-- A command that a step comes from has a program. -/
theorem StepFrom.usable {command : Option String} {standard step : BuildStep} (h : StepFrom command standard step) :
    ∀ text, command = some text → ∃ step, BuildStep.parse text = .ok step := by
  rintro text rfl
  exact ⟨step, overriddenStep_eq_ok_iff.2 h⟩

theorem overriddenStep_eq_error_iff {command : Option String} {standard : BuildStep} {e : BuildCommandError} :
    overriddenStep command standard = .error e ↔ ∃ text, command = some text ∧ BuildStep.Unusable text e := by
  constructor
  · intro h
    cases command with
    | none => cases h
    | some text => exact ⟨text, rfl, BuildStep.parse_eq_error_iff.1 h⟩
  · rintro ⟨text, rfl, hunusable⟩
    exact BuildStep.parse_eq_error_iff.2 hunusable

/-! ## Settings -/

/-- What a command line and a configuration make of each setting. -/
structure Merges (c : CommandLine) (k : Config) (s : Settings) : Prop where
  /-- The case is that of the command line. -/
  case_eq : s.case = c.case
  /-- The port of the server. -/
  port : Layered c.port k.port 12345 s.port
  /-- The host that clients are told. -/
  host : Layered c.host k.host "127.0.0.1" s.host
  /-- The build directory. -/
  buildDir : Layered c.buildDir k.buildDir "build" s.buildDir
  /-- The directory of output files. -/
  logDir : Layered c.logDir k.logDir "." s.logDir
  /-- The length of the run window. -/
  runSecs : Layered c.runSecs k.runSecs 40 s.runSecs
  /-- How long groups settle. -/
  settleMs : Layered c.settleMs k.settleMs 1000 s.settleMs
  /-- How long to wait for readiness. -/
  readyTimeoutMs : Layered c.readyTimeoutMs k.readyTimeoutMs 10000 s.readyTimeoutMs
  /-- The time to react to an interrupt. -/
  interruptMs : Layered c.interruptMs k.interruptMs 0 s.shutdown.interruptMs
  /-- The time to react to the signal to terminate. -/
  terminateMs : Layered c.terminateMs k.terminateMs 2000 s.shutdown.terminateMs
  /-- Nobody waits for the server if either side says so. -/
  unawaited : s.serverReady = none ↔ c.noReadiness = true ∨ k.readiness = some false
  /-- Else the check is the configured one or the standard one. -/
  awaited : ∀ ready, s.serverReady = some ready → Layered none k.serverReady .udpBound ready
  /-- The build is left out if either side says so. -/
  skipBuild : s.skipBuild = true ↔ c.skipBuild = true ∨ k.skip? = some true
  /-- The build configures and compiles in the build directory, unless commands are configured. -/
  buildSteps : ∃ projectRoot configure compile, Layered c.projectRoot k.projectRoot "." projectRoot ∧
    StepFrom k.configure? (.configure projectRoot s.buildDir) configure ∧
    StepFrom k.compile? (.compile s.buildDir) compile ∧ s.buildSteps = [configure, compile]

/-- The three build settings are those of the table for the build, if there is one. -/
theorem build_getD (k : Config) :
    k.build.getD ⟨none, none, none⟩ = ⟨k.configure?, k.compile?, k.skip?⟩ := by
  unfold Config.configure? Config.compile? Config.skip?
  cases k.build <;> rfl

theorem merges_of_resolve {c : CommandLine} {k : Config} {s : Settings} (h : resolve c k = .ok s) : Merges c k s := by
  unfold resolve at h
  simp only [build_getD] at h
  rcases hconfigure : overriddenStep k.configure? (.configure ((c.projectRoot <|> k.projectRoot).getD ".")
      ((c.buildDir <|> k.buildDir).getD "build")) with e | configure
  · rw [hconfigure] at h
    cases h
  · rw [hconfigure] at h
    rcases hcompile : overriddenStep k.compile? (.compile ((c.buildDir <|> k.buildDir).getD "build")) with e | compile
    · rw [hcompile] at h
      cases h
    · rw [hcompile] at h
      cases h
      exact
        { case_eq := rfl
          port := layered_iff.2 rfl
          host := layered_iff.2 rfl
          buildDir := layered_iff.2 rfl
          logDir := layered_iff.2 rfl
          runSecs := layered_iff.2 rfl
          settleMs := layered_iff.2 rfl
          readyTimeoutMs := layered_iff.2 rfl
          interruptMs := layered_iff.2 rfl
          terminateMs := layered_iff.2 rfl
          unawaited := by
            cases c.noReadiness <;> rcases k.readiness with - | - | - <;> simp
          awaited := by
            intro ready hready
            rw [layered_iff]
            split at hready
            · exact (Option.some.inj hready).symm
            · cases hready
          skipBuild := by
            cases c.skipBuild <;> rcases k.skip? with - | - | - <;> simp
          buildSteps := ⟨_, configure, compile, layered_iff.2 rfl, overriddenStep_eq_ok_iff.1 hconfigure,
            overriddenStep_eq_ok_iff.1 hcompile, rfl⟩ }

theorem StepFrom.unique {command : Option String} {standard step step' : BuildStep} (h : StepFrom command standard step)
    (h' : StepFrom command standard step') : step = step' := by
  have hsome : Except.ok (ε := BuildCommandError) step = .ok step' :=
    (overriddenStep_eq_ok_iff.2 h).symm.trans (overriddenStep_eq_ok_iff.2 h')
  exact Except.ok.inj hsome

/-- The rules leave no choice. -/
theorem Merges.unique {c : CommandLine} {k : Config} {s s' : Settings} (h : Merges c k s) (h' : Merges c k s') : s = s' := by
  have hready : s.serverReady = s'.serverReady := by
    cases hs : s.serverReady with
    | none => exact (h'.unawaited.2 (h.unawaited.1 hs)).symm
    | some ready =>
      cases hs' : s'.serverReady with
      | none => exact absurd (h.unawaited.2 (h'.unawaited.1 hs')) (by simp [hs])
      | some ready' => rw [(h.awaited ready hs).unique (h'.awaited ready' hs')]
  have hbuildDir : s.buildDir = s'.buildDir := h.buildDir.unique h'.buildDir
  have hsteps : s.buildSteps = s'.buildSteps := by
    obtain ⟨root, configure, compile, hroot, hconfigure, hcompile, heq⟩ := h.buildSteps
    obtain ⟨root', configure', compile', hroot', hconfigure', hcompile', heq'⟩ := h'.buildSteps
    rw [← hroot.unique hroot', ← hbuildDir] at hconfigure'
    rw [← hbuildDir] at hcompile'
    rw [heq, heq', hconfigure.unique hconfigure', hcompile.unique hcompile']
  have hskip : s.skipBuild = s'.skipBuild := Bool.eq_iff_iff.2 (h.skipBuild.trans h'.skipBuild.symm)
  exact Settings.ext (h.case_eq.trans h'.case_eq.symm) (h.port.unique h'.port) (h.host.unique h'.host) hbuildDir
    (h.logDir.unique h'.logDir) (h.runSecs.unique h'.runSecs) (h.settleMs.unique h'.settleMs)
    (h.readyTimeoutMs.unique h'.readyTimeoutMs) hready
    (Shutdown.ext (h.interruptMs.unique h'.interruptMs) (h.terminateMs.unique h'.terminateMs)) hskip hsteps

theorem resolve_eq_ok_iff {c : CommandLine} {k : Config} {s : Settings} : resolve c k = .ok s ↔ Merges c k s := by
  refine ⟨merges_of_resolve, fun h => ?_⟩
  obtain ⟨root, configure, compile, hroot, hconfigure, hcompile, -⟩ := h.buildSteps
  obtain ⟨s', hs'⟩ : ∃ s', resolve c k = .ok s' := by
    rw [← overriddenStep_eq_ok_iff, layered_iff.1 hroot, layered_iff.1 h.buildDir] at hconfigure
    rw [← overriddenStep_eq_ok_iff, layered_iff.1 h.buildDir] at hcompile
    unfold resolve
    simp only [build_getD, hconfigure, hcompile]
    exact ⟨_, rfl⟩
  rw [hs', h.unique (merges_of_resolve hs')]

theorem faulty_of_resolve {c : CommandLine} {k : Config} {e : BuildCommandError} (h : resolve c k = .error e) : k.Faulty e := by
  unfold resolve at h
  simp only [build_getD] at h
  rcases hconfigure : overriddenStep k.configure? (.configure ((c.projectRoot <|> k.projectRoot).getD ".")
      ((c.buildDir <|> k.buildDir).getD "build")) with first | configure
  · rw [hconfigure] at h
    cases h
    obtain ⟨command, hset, hunusable⟩ := overriddenStep_eq_error_iff.1 hconfigure
    exact .configure hset hunusable
  · rw [hconfigure] at h
    rcases hcompile : overriddenStep k.compile? (.compile ((c.buildDir <|> k.buildDir).getD "build")) with second | compile
    · rw [hcompile] at h
      cases h
      obtain ⟨command, hset, hunusable⟩ := overriddenStep_eq_error_iff.1 hcompile
      exact .compile hset hunusable ((overriddenStep_eq_ok_iff.1 hconfigure).usable)
    · rw [hcompile] at h
      cases h

/-- Where there are settings, no build command is unusable. -/
theorem Merges.not_faulty {c : CommandLine} {k : Config} {s : Settings} (h : Merges c k s) (e : BuildCommandError) :
    ¬ k.Faulty e := by
  obtain ⟨_, _, _, -, hconfigure, hcompile, -⟩ := h.buildSteps
  rintro (⟨hset, hunusable⟩ | ⟨hset, hunusable, -⟩)
  · exact hunusable.not_usable (hconfigure.usable _ hset)
  · exact hunusable.not_usable (hcompile.usable _ hset)

/-- There are no settings just when a build command is unusable, whether the build is left out or not. -/
theorem resolve_eq_error_iff {c : CommandLine} {k : Config} {e : BuildCommandError} :
    resolve c k = .error e ↔ k.Faulty e := by
  refine ⟨faulty_of_resolve, fun h => ?_⟩
  rcases hresolve : resolve c k with e' | s
  · rw [(faulty_of_resolve hresolve).unique h]
  · exact absurd h ((merges_of_resolve hresolve).not_faulty e)

/-! ## Two configurations -/

/-- Two configurations that agree where a command line leaves a setting open. The build commands are always open. -/
structure AgreeWhereOpen (c : CommandLine) (k k' : Config) : Prop where
  /-- The port of the server. -/
  port : c.port = none → k.port = k'.port
  /-- The host that clients are told. -/
  host : c.host = none → k.host = k'.host
  /-- The build directory. -/
  buildDir : c.buildDir = none → k.buildDir = k'.buildDir
  /-- The directory of the project's sources. -/
  projectRoot : c.projectRoot = none → k.projectRoot = k'.projectRoot
  /-- The directory of output files. -/
  logDir : c.logDir = none → k.logDir = k'.logDir
  /-- The length of the run window. -/
  runSecs : c.runSecs = none → k.runSecs = k'.runSecs
  /-- How long groups settle. -/
  settleMs : c.settleMs = none → k.settleMs = k'.settleMs
  /-- How long to wait for readiness. -/
  readyTimeoutMs : c.readyTimeoutMs = none → k.readyTimeoutMs = k'.readyTimeoutMs
  /-- The time to react to an interrupt. -/
  interruptMs : c.interruptMs = none → k.interruptMs = k'.interruptMs
  /-- The time to react to the signal to terminate. -/
  terminateMs : c.terminateMs = none → k.terminateMs = k'.terminateMs
  /-- Whether to wait for readiness. -/
  readiness : c.noReadiness = false → k.readiness = k'.readiness
  /-- How the server shows that it is ready. -/
  serverReady : c.noReadiness = false → k.serverReady = k'.serverReady
  /-- Whether to leave the build out. -/
  skip : c.skipBuild = false → k.skip? = k'.skip?
  /-- The command that configures. -/
  configure : k.configure? = k'.configure?
  /-- The command that compiles. -/
  compile : k.compile? = k'.compile?

/-- The settings are the same if the configurations agree where the command line leaves a setting open. -/
theorem Merges.of_agree {c : CommandLine} {k k' : Config} {s : Settings} (h : Merges c k s) (hagree : AgreeWhereOpen c k k') :
    Merges c k' s :=
  { case_eq := h.case_eq
    port := h.port.of_agree hagree.port
    host := h.host.of_agree hagree.host
    buildDir := h.buildDir.of_agree hagree.buildDir
    logDir := h.logDir.of_agree hagree.logDir
    runSecs := h.runSecs.of_agree hagree.runSecs
    settleMs := h.settleMs.of_agree hagree.settleMs
    readyTimeoutMs := h.readyTimeoutMs.of_agree hagree.readyTimeoutMs
    interruptMs := h.interruptMs.of_agree hagree.interruptMs
    terminateMs := h.terminateMs.of_agree hagree.terminateMs
    unawaited := by
      rw [h.unawaited]
      cases hflag : c.noReadiness with
      | true => simp
      | false => rw [hagree.readiness hflag]
    awaited := by
      intro ready hready
      have hflag : c.noReadiness = false := by
        cases hflag : c.noReadiness with
        | true => exact absurd (h.unawaited.2 (.inl hflag)) (by simp [hready])
        | false => rfl
      exact (h.awaited ready hready).of_agree fun _ => hagree.serverReady hflag
    skipBuild := by
      rw [h.skipBuild]
      cases hflag : c.skipBuild with
      | true => simp
      | false => rw [hagree.skip hflag]
    buildSteps := by
      obtain ⟨root, configure, compile, hroot, hconfigure, hcompile, heq⟩ := h.buildSteps
      exact ⟨root, configure, compile, hroot.of_agree hagree.projectRoot, hagree.configure ▸ hconfigure,
        hagree.compile ▸ hcompile, heq⟩ }

/-- When no configuration is wanted, the settings are those of the command line alone, whatever files there are. -/
theorem load_of_noConfig {c : CommandLine} {args : List String} (hnoConfig : c.noConfig = true)
    (hparse : CommandLine.parse args = .ok c) (t : FileTree) :
    load t args = ((resolve c .empty).mapError SettingsError.build).map (Prod.mk c) := by
  have hchoose : Config.choose t c = .ok .empty := if_pos hnoConfig
  unfold load
  rw [hparse]
  change ((Config.choose t c).mapError SettingsError.config >>= _) = _
  rw [hchoose]
  rfl

/-- The settings of a command line and a configuration: there are none just when the configuration has a build command without a
program, and the first such command is reported; else each setting follows its rule. A configuration that differs only where
the command line sets a value gives the same, and without a configuration no file makes a difference. -/
theorem resolve_layered (c : CommandLine) (k : Config) :
    ((∃ e, resolve c k = .error e) ↔
      ∃ command, (k.configure? = some command ∨ k.compile? = some command) ∧
        ∀ program args, Words.split command ≠ some (program :: args)) ∧
    (∀ e, resolve c k = .error e ↔ k.Faulty e) ∧
    (∀ s, resolve c k = .ok s ↔ Merges c k s) ∧
    (∀ k', AgreeWhereOpen c k k' → resolve c k = resolve c k') ∧
    (c.noConfig = true → ∀ args, CommandLine.parse args = .ok c → ∀ t t', load t args = load t' args) := by
  refine ⟨?_, fun e => resolve_eq_error_iff, fun s => resolve_eq_ok_iff, ?_, ?_⟩
  · simp only [resolve_eq_error_iff]
    exact Config.exists_faulty_iff
  · intro k' hagree
    rcases hresolve : resolve c k with e | s
    · exact (resolve_eq_error_iff.2 ((resolve_eq_error_iff.1 hresolve).of_agree hagree.configure hagree.compile)).symm
    · exact (resolve_eq_ok_iff.2 ((resolve_eq_ok_iff.1 hresolve).of_agree hagree)).symm
  · intro hnoConfig args hparse t t'
    exact (load_of_noConfig hnoConfig hparse t).trans (load_of_noConfig hnoConfig hparse t').symm

/-- A port that is given, a server that is not waited for, and two configurations that differ in both; no file is read. -/
theorem resolve_layered_given :
    let args := ["4-5", "-p", "81", "--no-readiness", "--no-config"]
    let c : CommandLine := ⟨.fourFive, some 81, none, true, none, none, none, none, none, none, none, true, false, none, none,
      false, none⟩
    let k : Config := { Config.empty with port := some 82, readiness := some true, serverReady := some .tcp }
    let k' : Config := { Config.empty with port := some 83, build := some ⟨none, none, none⟩ }
    let t : FileTree := ⟨[], [], []⟩
    let t' : FileTree := ⟨[], [([Config.defaultPath], .directory)], []⟩
    resolve c k = resolve c k' ∧ load t args = load t' args := by
  intro args c k k' t t'
  have hagree : AgreeWhereOpen c k k' := by
    constructor <;> first | exact fun _ => rfl | exact rfl | exact nofun
  have hparse : CommandLine.parse args = .ok c := by rfl
  obtain ⟨-, -, -, hagrees, hnoConfig⟩ := resolve_layered c k
  exact ⟨hagrees k' hagree, hnoConfig rfl args hparse t t'⟩

end Settings

end StagedLaunch
