import StagedLaunch.Proofs.Supervisor.LaunchOrder
import StagedLaunch.Proofs.Supervisor.Teardown
import StagedLaunch.Supervisor.Scripted

/-!
# Interrupts

An interrupt takes effect where a run waits: a run that is interrupted while it launches has launched whole groups, and fails
with the label of the last of them; in the run window an interrupt only ends the window (`run_interrupted`).

`CutsLaunch` and `CutsWindow` say when that is, in terms of the run that nothing interrupts. The launch of a process is not a
wait, so an interrupt that comes when the launch of the plan waits no more misses it (`MissesLaunch`): the launch goes on to its
end, and the interrupt is found by the run window. When launches take no time there is no such interrupt
(`cutsLaunch_of_lt`).
-/

namespace StagedLaunch.Supervisor

variable {ε σ η : Type}

/-! ## When an interrupt takes effect -/

section Definitions

variable (env : Environment ε σ η) (options : RunOptions) (plan : Plan) (interrupt : Nat → Option Interruption) (start : Nat)
  (world : σ)

/-- The build of a run. -/
def builtRun : Run (Notice ε) (Session σ η) (Except LaunchError Unit) :=
  (build env plan).run (elapse env) none start ⟨world, .idle, []⟩

/-- The launch of a run that nothing interrupts. -/
def launchRun : Run (Notice ε) (Session σ η) (Except LaunchError Unit) :=
  (launchGroups env options start 0 plan.groups).run (elapse env) none (builtRun env plan start world).now
    (builtRun env plan start world).state

/-- The instant at which the last wait of the launch ends, when nothing interrupts it. -/
def lastLaunchWait : Option Nat :=
  (launchGroups env options start 0 plan.groups).lastWait (elapse env) (builtRun env plan start world).now
    (builtRun env plan start world).state

/-- The run launches, and an interrupt comes before the last wait of the launch has ended. -/
def CutsLaunch : Prop :=
  (builtRun env plan start world).result = some (.ok ()) ∧
    ∃ i t, interrupt (listensFrom env plan start world) = some i ∧ lastLaunchWait env options plan start world = some t ∧
      i.instant < t

/-- The run gets to its window, and an interrupt comes before the window is over. -/
def CutsWindow : Prop :=
  (builtRun env plan start world).result = some (.ok ()) ∧
    (launchRun env options plan start world).result = some (.ok ()) ∧ ¬ CutsLaunch env options plan interrupt start world ∧
    ∃ i, interrupt (listensFrom env plan start world) = some i ∧ 0 < options.runFor ∧
      i.instant < (launchRun env options plan start world).now + options.runFor

/-- An interrupt comes before the end of the launch, when the launch waits no more: what is left of it is the launch of
processes. -/
def MissesLaunch : Prop :=
  ∃ i, interrupt (listensFrom env plan start world) = some i ∧ i.instant < (launchRun env options plan start world).now ∧
    ∀ t, lastLaunchWait env options plan start world = some t → t ≤ i.instant

/-- A run listens for an interrupt from the end of its build on. -/
theorem builtRun_now : (builtRun env plan start world).now = listensFrom env plan start world := by
  obtain ⟨result, world', hbuild, -⟩ := run_build env plan start world
  have h := build_alike env plan none start ⟨world, .idle, []⟩
  rw [hbuild] at h
  simp only [outline, Run.mk.injEq] at h
  exact h.2.1

/-- The launch is cut off exactly by an interrupt before the end of its last wait. -/
theorem cutsLaunch_iff (h : (builtRun env plan start world).result = some (.ok ())) :
    CutsLaunch env options plan interrupt start world ↔
      ((launchGroups env options start 0 plan.groups).run (elapse env)
        ((interrupt (listensFrom env plan start world)).map Interruption.instant) (builtRun env plan start world).now
        (builtRun env plan start world).state).result = none := by
  unfold CutsLaunch lastLaunchWait
  cases hi : interrupt (listensFrom env plan start world) with
  | none =>
    obtain ⟨a, ha⟩ := Activity.run_none_some (elapse env) (launchGroups env options start 0 plan.groups)
      (builtRun env plan start world).now (builtRun env plan start world).state
    refine iff_of_false ?_ ?_
    · rintro ⟨-, i, t, hi', -⟩
      cases hi'
    · rw [Option.map_none, ha]
      exact nofun
  | some i =>
    rw [Option.map_some, Activity.run_cut_iff]
    constructor
    · rintro ⟨-, i', t, hi', ht, hlt⟩
      cases hi'
      exact ⟨t, ht, hlt⟩
    · rintro ⟨t, ht, hlt⟩
      exact ⟨h, i, t, rfl, ht, hlt⟩

/-- Without an interrupt that cuts the launch off, the run launches as without any. -/
theorem launch_eq_launchRun (h : ((launchGroups env options start 0 plan.groups).run (elapse env)
      ((interrupt (listensFrom env plan start world)).map Interruption.instant) (builtRun env plan start world).now
      (builtRun env plan start world).state).result ≠ none) :
    (launchGroups env options start 0 plan.groups).run (elapse env)
        ((interrupt (listensFrom env plan start world)).map Interruption.instant) (builtRun env plan start world).now
        (builtRun env plan start world).state = launchRun env options plan start world := by
  cases hi : interrupt (listensFrom env plan start world) with
  | none => rfl
  | some i =>
    rw [hi] at h
    exact Activity.run_eq_of_not_cut h

end Definitions

/-! ## What an interrupt does -/

section Drive

variable (env : Environment ε σ η) (options : RunOptions) (plan : Plan) (interrupt : Nat → Option Interruption) (start : Nat)
  (world : σ)

/-- The run window does not fail, and it is interrupted exactly when an interrupt comes before its end. -/
theorem driveWindow_interrupted (i : Option Interruption) (now : Nat) (s : Session σ η) :
    (driveWindow env options plan i now s).failure = none ∧
      ((driveWindow env options plan i now s).interrupted = true ↔
        ∃ j, i = some j ∧ 0 < options.runFor ∧ j.instant < now + options.runFor) := by
  have h := driveWindow_alike env options plan i now s
  simp only [Drive.outline, Drive.mk.injEq] at h
  obtain ⟨hf, hint, -⟩ := h
  rw [hf, hint]
  cases hc : Activity.cutWithin (i.map Interruption.instant) now options.runFor with
  | none =>
    obtain ⟨w, hw⟩ := driveWindow_ran env options plan i s hc
    rw [hw]
    refine ⟨rfl, iff_of_false (by simp) ?_⟩
    rintro ⟨j, rfl, hpos, hlt⟩
    have := Activity.cutWithin_eq_none hc hpos
    omega
  | some later =>
    obtain ⟨w, hw⟩ := driveWindow_cutShort env options plan i s hc
    rw [hw]
    obtain ⟨c, hi, hpos, hlt, -⟩ := Activity.cutWithin_eq_some hc
    obtain ⟨j, rfl, rfl⟩ := Option.map_eq_some_iff.1 hi
    exact ⟨rfl, iff_of_true rfl ⟨j, rfl, hpos, hlt⟩⟩

/-- When the build has succeeded, the outcome of a run is that of its launch and its window. -/
theorem run_of_built (h : (builtRun env plan start world).result = some (.ok ())) :
    let d := driveLaunch env options plan (interrupt (listensFrom env plan start world)) start
      (builtRun env plan start world).now (builtRun env plan start world).state
    (run env options plan interrupt start world).failure = d.failure ∧
      (run env options plan interrupt start world).report.interrupted = d.interrupted := by
  rw [← builtRun_now]
  unfold builtRun at h ⊢
  simp only [run, drive, h, and_self]

theorem run_of_not_built {e : LaunchError} (h : (builtRun env plan start world).result = some (.error e)) :
    (run env options plan interrupt start world).failure = some e ∧
      (run env options plan interrupt start world).report.interrupted = false := by
  unfold builtRun at h
  simp only [run, drive, h, and_self]

/-- The build has an answer. -/
theorem builtRun_some : ∃ r, (builtRun env plan start world).result = some r :=
  Activity.run_none_some (elapse env) (build env plan) start _

/-- An interrupt that cuts the launch off makes the run fail. -/
theorem run_of_cutsLaunch (h : CutsLaunch env options plan interrupt start world) :
    (∃ label, (run env options plan interrupt start world).failure = some (.interrupted label)) ∧
      (run env options plan interrupt start world).report.interrupted = true := by
  obtain ⟨hf, hi⟩ := run_of_built env options plan interrupt start world h.1
  have hcut := (cutsLaunch_iff env options plan interrupt start world h.1).1 h
  rw [hf, hi]
  simp only [driveLaunch, hcut]
  exact ⟨⟨_, rfl⟩, trivial⟩

/-- Without an interrupt of the launch, a run is interrupted only in its window, and then it has not failed. -/
theorem run_of_not_cutsLaunch (h : ¬ CutsLaunch env options plan interrupt start world) :
    ((run env options plan interrupt start world).report.interrupted = true ↔
        CutsWindow env options plan interrupt start world) ∧
      (CutsWindow env options plan interrupt start world →
        (run env options plan interrupt start world).failure = none) := by
  obtain ⟨e | u, hb⟩ := builtRun_some env plan start world
  · obtain ⟨hf, hi⟩ := run_of_not_built env options plan interrupt start world hb
    have hno : ¬ CutsWindow env options plan interrupt start world := by
      rintro ⟨hok, -⟩
      rw [hb] at hok
      cases hok
    exact ⟨iff_of_false (by rw [hi]; exact Bool.false_ne_true) hno, fun hw => absurd hw hno⟩
  · obtain ⟨hf, hi⟩ := run_of_built env options plan interrupt start world hb
    have hcut := mt (cutsLaunch_iff env options plan interrupt start world hb).2 h
    have heq := launch_eq_launchRun env options plan interrupt start world hcut
    rw [hf, hi]
    unfold driveLaunch
    simp only [heq]
    obtain ⟨r, hr⟩ : ∃ r, (launchRun env options plan start world).result = some r :=
      Activity.run_none_some (elapse env) _ _ _
    cases r with
    | error e =>
      have hno : ¬ CutsWindow env options plan interrupt start world := by
        rintro ⟨-, hok, -⟩
        rw [hr] at hok
        cases hok
      simp only [hr]
      exact ⟨iff_of_false Bool.false_ne_true hno, fun hw => absurd hw hno⟩
    | ok u =>
      obtain ⟨hnone, hwindow⟩ := driveWindow_interrupted env options plan (interrupt (listensFrom env plan start world))
        (launchRun env options plan start world).now (launchRun env options plan start world).state
      simp only [hr, hnone, implies_true, and_true]
      refine hwindow.trans ⟨fun hw => ⟨hb, hr, h, hw⟩, fun hw => hw.2.2.2⟩

/-- A run is interrupted exactly when an interrupt cuts its launch or its window off. -/
theorem interrupted_iff_cuts :
    (run env options plan interrupt start world).report.interrupted = true ↔
      CutsLaunch env options plan interrupt start world ∨ CutsWindow env options plan interrupt start world := by
  by_cases h : CutsLaunch env options plan interrupt start world
  · exact iff_of_true (run_of_cutsLaunch env options plan interrupt start world h).2 (Or.inl h)
  · obtain ⟨hiff, -⟩ := run_of_not_cutsLaunch env options plan interrupt start world h
    exact hiff.trans ⟨Or.inr, fun hw => hw.resolve_left h⟩

end Drive

/-! ## What is launched when an interrupt comes -/

/-- The label of the group that a notice announces. -/
def announced? : Notice ε → Option String
  | .announced label => some label
  | _ => none

/-- The labels of the groups that were announced, in order. -/
def announced (events : List (Nat × Notice ε)) : List String := events.filterMap fun e => announced? e.2

@[simp] theorem announced_append (a b : List (Nat × Notice ε)) : announced (a ++ b) = announced a ++ announced b :=
  List.filterMap_append

/-- What surroundings tell announces nothing. -/
theorem announced_own (events : List (Nat × Notice ε)) : announced (own events) = announced events := by
  unfold announced own
  rw [List.filterMap_filterMap]
  congr 1
  funext ⟨now, n⟩
  cases n with
  | _ => rfl

/-- Nothing but groups is announced. -/
theorem announced_of_ofGroup {events : List (Nat × Notice ε)} (h : ∀ e ∈ events, ofGroup e.2 = true) :
    announced events = [] := by
  refine List.filterMap_eq_nil_iff.2 fun e he => ?_
  have hg := h e he
  obtain ⟨now, n⟩ := e
  cases n with
  | announced label => cases hg
  | _ => rfl

/-- A group that is cut off has all of its processes launched. -/
theorem GroupLaunch.launched_of_cut {env : Environment ε σ η} {timeout start now later : Nat} {group : Group}
    {events : Events η} {started : List (Started η)}
    (h : GroupLaunch env timeout start group now events started later none) :
    attempted (told events) = group.specs ∧ (launched (told events)).map Prod.fst = group.specs := by
  rcases h.parts with ⟨e, he, -⟩ | ⟨a, b, spawned, ready, result, ht, spawn, await, -⟩
  · cases he
  · obtain ⟨ha, hl⟩ := await.launched_eq
    refine ⟨?_, ?_⟩
    · rw [ht, attempted_append, spawn.attempted_eq, ha, List.append_nil]
    · rw [ht, launched_append, hl, List.append_nil, spawn.launched_fst]

/-- A launch that is cut off has launched all processes of the groups that it has announced, and it stands at the last. -/
theorem Launching.launched_of_cut {env : Environment ε σ η} {timeout start index now later : Nat} {old new : RunState}
    {groups : List Group} {events : Events η} {started : List (Started η)}
    (h : Launching env timeout start index old groups now events started later new none) :
    ∃ k group, groups[k]? = some group ∧ new = .launching (index + k) ∧
      announced events = (groups.take (k + 1)).map Group.label ∧
      attempted (told events) = (groups.take (k + 1)).flatMap Group.specs ∧
      (launched (told events)).map Prod.fst = (groups.take (k + 1)).flatMap Group.specs := by
  have hgroup : ∀ (index : Nat) (old : RunState) (group : Group) (now : Nat) (events : Events η),
      (∀ e ∈ events, ofGroup e.2 = true) → announced (groupEvents index old group now ++ events) = [group.label] := by
    intro index old group now events he
    rw [announced_append, announced_of_ofGroup he]
    rfl
  generalize ho : none = outcome at h
  -- the group that is cut off is the last, and each group before it adds one to the index
  induction h with
  | done index state now => cases ho
  | @stopped index old group rest _ _ _ _ _ launch stopped =>
    cases ho
    obtain ⟨hatt, hl⟩ := launch.launched_of_cut
    refine ⟨0, group, rfl, rfl, hgroup _ _ _ _ _ launch.ofGroup, ?_, ?_⟩
    · simpa using hatt
    · simpa using hl
  | @next index old group rest _ _ _ _ _ _ _ _ _ launch others ih =>
    obtain ⟨k, g, hk, hstate, hann, hatt, hl⟩ := ih ho
    have hc := launch.complete
    refine ⟨k + 1, g, hk, ?_, ?_, ?_, ?_⟩
    · rw [hstate, Nat.add_assoc, Nat.add_comm 1 k]
    · rw [announced_append, hgroup _ _ _ _ _ launch.ofGroup, hann]
      rfl
    · rw [told_append, told_append, told_groupEvents, List.nil_append, attempted_append, hc.attempted_eq, hatt]
      rfl
    · rw [told_append, told_append, told_groupEvents, List.nil_append, launched_append, List.map_append, hc.launched_eq, hl]
      rfl

/-! ## Where errors come from -/

/-- A process that a launch can answer with. -/
def CanLaunch (env : Environment ε σ η) (p : η) : Prop := ∃ spec now w, (env.launch spec now w).result = .ok p

/-- A launch, or a readiness check of a process that was launched, can be answered with an error. -/
def CanFail (env : Environment ε σ η) (e : LaunchError) : Prop :=
  (∃ spec now w, (env.launch spec now w).result = .error e) ∨
    ∃ timeout d, CanLaunch env d.process ∧ Answers env timeout d (.error e)

theorem Spawning.canFail {env : Environment ε σ η} {start now later : Nat} {specs : List LaunchSpec} {events : Events η}
    {started : List (Started η)} {e : LaunchError} (h : Spawning env start specs now events started later (some e)) :
    CanFail env e := by
  generalize hf : some e = failure at h
  induction h with
  | done now => cases hf
  | failed rest answer =>
    cases hf
    exact Or.inl ⟨_, _, _, congrArg Launch.result answer⟩
  | launched pid answer more ih => exact ih hf

theorem Spawning.canLaunch {env : Environment ε σ η} {start now later : Nat} {specs : List LaunchSpec} {events : Events η}
    {started : List (Started η)} {failure : Option LaunchError}
    (h : Spawning env start specs now events started later failure) : ∀ p ∈ started, CanLaunch env p.handle := by
  induction h with
  | done now => exact List.forall_mem_nil _
  | failed rest answer => exact List.forall_mem_nil _
  | launched pid answer more ih =>
    rw [List.forall_mem_cons]
    exact ⟨⟨_, _, _, congrArg Launch.result answer⟩, ih⟩

theorem Awaiting.canFail {env : Environment ε σ η} {timeout now later : Nat} {due : List (Due η)} {events : Events η}
    {e : LaunchError} (h : Awaiting env timeout due now events later (some (.error e)))
    (hdue : ∀ d ∈ due, CanLaunch env d.process) : CanFail env e := by
  generalize ho : some (Except.error e) = outcome at h
  induction h with
  | done now => cases ho
  | ready passed more ih => exact ih (fun d hd => hdue d (List.mem_cons_of_mem _ hd)) ho
  | failed rest passed answer =>
    cases ho
    exact Or.inr ⟨_, _, hdue _ (List.mem_cons_self ..), answer⟩
  | cut d rest passed => cases ho

/-- The checks that are due in a group are those of processes that were launched. -/
theorem Spawning.canLaunch_due {env : Environment ε σ η} {start now later : Nat} {group : Group} {events : Events η}
    {started : List (Started η)} {failure : Option LaunchError}
    (h : Spawning env start group.specs now events started later failure) :
    ∀ d ∈ groupDue group started, CanLaunch env d.process := by
  intro d hd
  obtain ⟨⟨spec, p⟩, hp, hd⟩ := List.mem_filterMap.1 hd
  obtain ⟨check, -, rfl⟩ := Option.map_eq_some_iff.1 hd
  obtain ⟨q, hq, rfl⟩ := List.mem_map.1 (List.of_mem_zip hp).2
  exact h.canLaunch q hq

/-- The error with which the launch of a plan ends is the answer to a launch or to a readiness check. -/
theorem Launching.canFail {env : Environment ε σ η} {timeout start index now later : Nat} {old new : RunState}
    {groups : List Group} {events : Events η} {started : List (Started η)} {e : LaunchError}
    (h : Launching env timeout start index old groups now events started later new (some (.error e))) : CanFail env e := by
  generalize ho : some (Except.error e) = outcome at h
  induction h with
  | done index state now => cases ho
  | stopped rest launch stopped =>
    cases ho
    cases launch with
    | notSpawned spawn => exact spawn.canFail
    | notReady spawn await stopped => exact await.canFail spawn.canLaunch_due
  | next launch others ih => exact ih ho

/-- What a run works with never answers that it was interrupted. -/
structure NeverInterrupts (env : Environment ε σ η) : Prop where
  /-- The build does not. -/
  build : ∀ plan start w label, ((env.build plan).run env.elapse none start w).result ≠ some (.error (.interrupted label))
  /-- A launch does not. -/
  launch : ∀ spec now w label, (env.launch spec now w).result ≠ .error (.interrupted label)
  /-- A readiness check of a process that was launched does not. -/
  ready : ∀ p, CanLaunch env p → ∀ check timeout cut now w label,
    ((env.waitReady p check timeout).run env.elapse cut now w).result ≠ some (.error (.interrupted label))

theorem NeverInterrupts.not_canFail {env : Environment ε σ η} (h : NeverInterrupts env) (label : String) :
    ¬ CanFail env (.interrupted label) := by
  rintro (⟨spec, now, w, hl⟩ | ⟨timeout, d, hp, cut, now, w, ha⟩)
  · exact h.launch spec now w label hl
  · exact h.ready d.process hp d.check timeout cut now w label ha

/-! ## Launches that take no time -/

/-- Launches take no time, and a readiness check takes time only where it waits. -/
structure LaunchesAtOnce (env : Environment ε σ η) : Prop where
  /-- A launch is over at once. -/
  launch : ∀ spec now w, (env.launch spec now w).took = 0
  /-- A readiness check waits. -/
  ready : ∀ p check timeout, Activity.OnlyWaits (env.waitReady p check timeout)

theorem onlyWaits_onWorld {α : Type} {m : Activity ε σ α} (h : Activity.OnlyWaits m) :
    Activity.OnlyWaits (onWorld m : Act ε σ η α) := by
  unfold onWorld
  induction m with
  | done a => exact trivial
  | emit e next ih => exact ih h
  | read next ih => exact fun now s => ih now s.world (h now s.world)
  | write s next ih => exact fun now t => ih h
  | work ms next ih => exact ⟨h.1, ih h.2⟩
  | sleep ms next ih => exact ih h
  | await ms ready next ih => exact ih h

section OnlyWaits

variable {env : Environment ε σ η} (henv : LaunchesAtOnce env)

theorem onlyWaits_tellAll (events : List ε) : Activity.OnlyWaits (Activity.tellAll events : Activity ε σ Unit) := by
  induction events with
  | nil => exact trivial
  | cons e events ih => exact ih

include henv

theorem LaunchesAtOnce.launchOne (start : Nat) (spec : LaunchSpec) : Activity.OnlyWaits (launchOne env start spec) := by
  intro now s
  refine (onlyWaits_tellAll _).bind fun _ => .bind ⟨henv.launch spec now s.world, trivial⟩ fun _ => ?_
  cases (env.launch spec now s.world).result with
  | error e => exact trivial
  | ok h => exact fun _ _ _ _ => trivial

theorem LaunchesAtOnce.launchAll (start : Nat) (specs : List LaunchSpec) :
    Activity.OnlyWaits (launchAll env start specs) := by
  induction specs with
  | nil => exact trivial
  | cons spec specs ih =>
    refine (henv.launchOne start spec).bind fun r => ?_
    cases r with
    | error e => exact trivial
    | ok h =>
      refine ih.bind fun r => ?_
      cases r with
      | error e => exact trivial
      | ok more => exact trivial

theorem LaunchesAtOnce.awaitAll (timeout : Nat) (launched : List (LaunchSpec × η)) :
    Activity.OnlyWaits (awaitAll env timeout launched) := by
  induction launched with
  | nil => exact trivial
  | cons p launched ih =>
    obtain ⟨spec, h⟩ := p
    simp only [Supervisor.awaitAll]
    cases spec.ready with
    | none => exact ih
    | some check =>
      refine (onlyWaits_onWorld (henv.ready h check timeout)).bind fun r => ?_
      cases r with
      | error e => exact trivial
      | ok u => exact ih

theorem LaunchesAtOnce.launchGroup (options : RunOptions) (start index : Nat) (group : Group) :
    Activity.OnlyWaits (launchGroup env options start index group) := by
  refine fun _ _ => (henv.launchAll start group.specs).bind fun r => ?_
  cases r with
  | error e => exact trivial
  | ok launched =>
    refine fun _ _ => (henv.awaitAll options.readyTimeout launched).bind fun r => ?_
    cases r with
    | error e => exact trivial
    | ok u =>
      refine .bind (fun now s => ?_) fun _ => trivial
      dsimp only
      split
      · exact trivial
      · exact trivial

theorem LaunchesAtOnce.launchGroups (options : RunOptions) (start index : Nat) (groups : List Group) :
    Activity.OnlyWaits (launchGroups env options start index groups) := by
  induction groups generalizing index with
  | nil => exact trivial
  | cons group groups ih =>
    refine (henv.launchGroup options start index group).bind fun r => ?_
    cases r with
    | error e => exact trivial
    | ok u => exact ih (index + 1)

end OnlyWaits

/-! ## Surroundings that follow a script -/

/-- Processes that follow a script are launched at once. -/
theorem Scripted.launchesAtOnce (build : BuildScript) (scripts : List (String × ProcessScript)) :
    LaunchesAtOnce (Scripted.environment build scripts) := by
  refine ⟨fun spec now w => ?_, fun p check timeout => ?_⟩
  · simp only [Scripted.environment, Scripted.launch]
    split
    · rfl
    · rfl
  · simp only [Scripted.environment, Scripted.waitReady]
    split
    · exact trivial
    · unfold Scripted.wait
      split
      · exact trivial
      · exact trivial

/-- What is answered after a pause is what the script says. -/
theorem Scripted.result_of_wait {elapse : Nat → Nat → Nat → Nat} {cut : Option Nat} {ms : Option Nat}
    {answer r : Except LaunchError Unit} {now w : Nat}
    (h : ((do Scripted.wait ms; return answer : Activity Empty Nat (Except LaunchError Unit)).run elapse cut now w).result =
      some r) : r = answer := by
  cases ms with
  | none => exact (Option.some.inj h).symm
  | some ms =>
    simp only [Scripted.wait, Activity.pause, bind, Activity.bind, Activity.run] at h
    split at h
    · cases h
    · exact (Option.some.inj h).symm

theorem Scripted.failWith_eq_error {error : Option LaunchError} {e : LaunchError}
    (h : Scripted.failWith error = .error e) : error = some e := by
  cases error with
  | none => cases h
  | some e' =>
    cases h
    rfl

/-- Surroundings answer that they were interrupted only if a script says so. -/
theorem Scripted.neverInterrupts (build : BuildScript) (scripts : List (String × ProcessScript))
    (hbuild : ∀ label, build.error ≠ some (.interrupted label))
    (hlaunch : ∀ p ∈ scripts, ∀ label, p.2.launchError ≠ some (.interrupted label))
    (hready : ∀ p ∈ scripts, ∀ label, p.2.readyError ≠ some (.interrupted label)) :
    NeverInterrupts (Scripted.environment build scripts) := by
  have hscript : ∀ spec : LaunchSpec, (scripts.lookup spec.name).getD .prompt = .prompt ∨
      ∃ p ∈ scripts, (scripts.lookup spec.name).getD .prompt = p.2 := by
    intro spec
    cases hl : scripts.lookup spec.name with
    | none => exact Or.inl rfl
    | some script =>
      obtain ⟨before, after, rfl, -⟩ := List.lookup_eq_some_iff.1 hl
      exact Or.inr ⟨(spec.name, script), by simp, rfl⟩
  refine ⟨fun plan start w label h => ?_, fun spec now w label h => ?_, fun p hp check timeout cut now w label h => ?_⟩
  · exact hbuild label (Scripted.failWith_eq_error (Scripted.result_of_wait h).symm)
  · simp only [Scripted.environment, Scripted.launch] at h
    split at h
    · rename_i e he
      cases h
      rcases hscript spec with hs | ⟨p, hp, hs⟩
      · rw [hs] at he
        cases he
      · rw [hs] at he
        exact hlaunch p hp label he
    · cases h
  · obtain ⟨spec, now', w', hl⟩ := hp
    have hscript' : p.script = .prompt ∨ ∃ q ∈ scripts, p.script = q.2 := by
      simp only [Scripted.environment, Scripted.launch] at hl
      split at hl
      · cases hl
      · cases hl
        exact hscript spec
    simp only [Scripted.environment, Scripted.waitReady] at h
    split at h
    · simp only [Activity.pause, bind, Activity.bind, Activity.run] at h
      split at h
      · cases h
      · cases h
    · have he := Scripted.failWith_eq_error (Scripted.result_of_wait h).symm
      rcases hscript' with hs | ⟨q, hq, hs⟩
      · rw [hs] at he
        cases he
      · rw [hs] at he
        exact hready q hq label he

/-! ## Interrupted runs -/

/-- A run was interrupted while it launched a group of its plan. -/
structure InterruptedIn (name : η → String) (plan : Plan) (trace : List (Call η)) (f : Finished ε σ) (k : Nat)
    (group : Group) : Prop where
  /-- The group is in the plan. -/
  in_plan : plan.groups[k]? = some group
  /-- The run fails with the label of the group. -/
  failure_eq : f.failure = some (.interrupted group.label)
  /-- The report says that it was interrupted. -/
  interrupted_eq : f.report.interrupted = true
  /-- The group was announced last. -/
  announced_eq : announced f.events = (plan.groups.take (k + 1)).map Group.label
  /-- The launches are those of the groups up to this one. -/
  attempted_eq : attempted trace = (plan.groups.take (k + 1)).flatMap Group.specs
  /-- All of them have succeeded. -/
  launched_eq : (launched trace).map Prod.fst = (plan.groups.take (k + 1)).flatMap Group.specs
  /-- The report names what they have launched. -/
  records_eq : f.report.launched.map LaunchRecord.name = (launched trace).map fun p => name p.2

theorem announced_interruptEvents (now : Nat) (i : Option Interruption) :
    announced (interruptEvents now i : List (Nat × Notice ε)) = [] := by
  unfold interruptEvents
  split
  · rfl
  · rfl

/-- Nothing is announced while processes are stopped. -/
theorem Stopping.announced_eq {env : Environment ε σ η} {shutdown : Shutdown} {started : List (Started η)} {now later : Nat}
    {events : Events η} {records : List StopRecord} (h : Stopping env shutdown started now events records later) :
    announced events = [] := by
  induction h with
  | done now => rfl
  | stop passed more ih =>
    rw [announced_append, ih]
    rfl

section Run

variable (env : Environment ε σ η) (options : RunOptions) (plan : Plan) (interrupt : Nat → Option Interruption) (start : Nat)
  (world : σ)

/-- An interrupt that cuts the launch off comes before its end. -/
theorem lt_of_cutsLaunch {i : Interruption} (hi : interrupt (listensFrom env plan start world) = some i)
    (h : CutsLaunch env options plan interrupt start world) : i.instant < (launchRun env options plan start world).now := by
  obtain ⟨-, i', t, hi', ht, hlt⟩ := h
  rw [hi] at hi'
  cases hi'
  exact Nat.lt_of_lt_of_le hlt (Activity.lastWait_le_now (elapse env) _ _ _ ht)

/-- When launches take no time, an interrupt between the beginning and the end of the launch cuts it off. -/
theorem cutsLaunch_of_lt (henv : LaunchesAtOnce env) {i : Interruption}
    (hb : (builtRun env plan start world).result = some (.ok ()))
    (hi : interrupt (listensFrom env plan start world) = some i) (hle : listensFrom env plan start world ≤ i.instant)
    (hlt : i.instant < (launchRun env options plan start world).now) :
    CutsLaunch env options plan interrupt start world := by
  have hnow : (launchRun env options plan start world).now =
      (lastLaunchWait env options plan start world).getD (builtRun env plan start world).now :=
    (henv.launchGroups options start 0 plan.groups).now_eq _ _
  rw [builtRun_now] at hnow
  cases ht : lastLaunchWait env options plan start world with
  | none =>
    rw [hnow, ht, Option.getD_none] at hlt
    omega
  | some t =>
    rw [hnow, ht, Option.getD_some] at hlt
    exact ⟨hb, i, t, hi, ht, hlt⟩

/-- An interrupt that misses the launch does not cut it off. -/
theorem MissesLaunch.not_cutsLaunch (h : MissesLaunch env options plan interrupt start world) :
    ¬ CutsLaunch env options plan interrupt start world := by
  obtain ⟨i, hi, -, hwaited⟩ := h
  rintro ⟨-, i', t, hi', ht, hlt⟩
  cases hi.symm.trans hi'
  exact Nat.not_lt.2 (hwaited t ht) hlt

/-- An interrupt before the end of the launch cuts the launch off or misses it. -/
theorem cutsLaunch_or_missesLaunch (hb : (builtRun env plan start world).result = some (.ok ())) {i : Interruption}
    (hi : interrupt (listensFrom env plan start world) = some i)
    (hlt : i.instant < (launchRun env options plan start world).now) :
    CutsLaunch env options plan interrupt start world ∨ MissesLaunch env options plan interrupt start world := by
  by_cases hmiss : ∀ t, lastLaunchWait env options plan start world = some t → t ≤ i.instant
  · exact Or.inr ⟨i, hi, hlt, hmiss⟩
  · obtain ⟨t, ht⟩ := Classical.not_forall.1 hmiss
    obtain ⟨ht, hti⟩ := Classical.not_imp.1 ht
    exact Or.inl ⟨hb, i, t, hi, ht, Nat.lt_of_not_le hti⟩

/-- After an interrupt that misses it the launch goes on to its end. The run fails where the launch does, and is not
interrupted then; after a launch that succeeds the interrupt ends the run window. -/
theorem run_of_missesLaunch (hb : (builtRun env plan start world).result = some (.ok ()))
    (h : MissesLaunch env options plan interrupt start world) :
    (∀ e, (launchRun env options plan start world).result = some (.error e) →
        (run env options plan interrupt start world).failure = some e ∧
          (run env options plan interrupt start world).report.interrupted = false) ∧
      ((launchRun env options plan start world).result = some (.ok ()) →
        (run env options plan interrupt start world).failure = none ∧
          ((run env options plan interrupt start world).report.interrupted = true ↔ 0 < options.runFor)) := by
  obtain ⟨hf, hint⟩ := run_of_built env options plan interrupt start world hb
  have hno := h.not_cutsLaunch
  have hlaunch := launch_eq_launchRun env options plan interrupt start world
    (mt (cutsLaunch_iff env options plan interrupt start world hb).2 hno)
  refine ⟨fun e he => ?_, fun hok => ?_⟩
  · rw [hf, hint]
    simp only [driveLaunch, hlaunch, he, and_self]
  · have hnone := (driveWindow_interrupted env options plan (interrupt (listensFrom env plan start world))
      (launchRun env options plan start world).now (launchRun env options plan start world).state).1
    refine ⟨by rw [hf]; simp only [driveLaunch, hlaunch, hok, hnone], ?_⟩
    obtain ⟨i, hi, hlt, -⟩ := h
    refine (run_of_not_cutsLaunch env options plan interrupt start world hno).1.trans ⟨?_, fun hpos => ?_⟩
    · rintro ⟨-, -, -, -, -, hpos, -⟩
      exact hpos
    · exact ⟨hb, hok, hno, i, hi, hpos, Nat.lt_add_right _ hlt⟩

/-- A run whose launch is cut off was interrupted in a group of its plan. -/
theorem interruptedIn_of_cutsLaunch (h : CutsLaunch env options plan interrupt start world) :
    ∃ k group, InterruptedIn env.name plan (calls env options plan interrupt start world)
      (run env options plan interrupt start world) k group := by
  obtain ⟨⟨label, hf⟩, hi⟩ := run_of_cutsLaunch env options plan interrupt start world h
  have hrecords := run_record_names env options plan interrupt start world
  obtain ⟨hreport, hfailure, -, -, hown⟩ := run_recording env options plan interrupt start world
  obtain @⟨events, after, started, now, state, records, drive, stop, htold, -⟩ :=
    run_course env options plan interrupt start world
  have hcalls : calls env options plan interrupt start world = told events ++ told after := by
    rw [calls, htold, told_append, told_append, told_append, told_failureEvents, List.append_nil]
    exact List.append_nil _
  have hann : announced (run env options plan interrupt start world).events = announced events := by
    rw [← announced_own, ← hown, announced_own, htold, hfailure, hf]
    have hafter : announced ((now, .state state .terminating) :: after) = [] := stop.announced_eq
    rw [announced_append, announced_append, announced_append, hafter, List.append_nil]
    exact (List.append_nil _).trans (List.append_nil _)
  rw [hreport, hfailure, hf, hi] at drive
  cases drive with
  | interrupted launch =>
    obtain ⟨k, group, hk, rfl, hlabels, hatt, hl⟩ := launch.launched_of_cut
    obtain ⟨hatt', hl', -, -⟩ := views_of_stop stop.phase_eq
    -- the state is that of the group whose wait was cut off, and the label is looked up with it
    have hlabel : groupLabel plan (.launching (0 + k)) = group.label := by
      rw [Nat.zero_add, groupLabel, hk]
      rfl
    rw [told_append, told_append, told_buildEvents, told_interruptEvents, List.append_nil] at hcalls
    refine ⟨k, group, hk, by rw [hf, hlabel], hi, ?_, ?_, ?_, hrecords⟩
    · rw [hann, announced_append, announced_append, hlabels, announced_interruptEvents, List.append_nil]
      rfl
    · rw [hcalls, attempted_append, attempted_append, hatt, hatt', List.append_nil]
      rfl
    · rw [hcalls, launched_append, launched_append, List.map_append, List.map_append, hl, hl', List.map_nil, List.append_nil]
      rfl

/-- A run in which nothing but an interrupt answers so fails with an interrupt only if its launch is cut off. -/
theorem cutsLaunch_of_failure (henv : NeverInterrupts env) {label : String}
    (hf : (run env options plan interrupt start world).failure = some (.interrupted label)) :
    CutsLaunch env options plan interrupt start world := by
  obtain ⟨events, after, started, now, state, records, -, drive, -, -⟩ := run_trace env options plan interrupt start world
  have hi : (run env options plan interrupt start world).report.interrupted = true := by
    rw [hf] at drive
    generalize (run env options plan interrupt start world).report.interrupted = interrupted at drive
    -- of the courses that fail, only the launch that was cut off does so without an answer of the surroundings
    cases drive with
    | notBuilt answer => exact absurd answer (henv.build _ _ _ _)
    | notLaunched launch => exact absurd launch.canFail (henv.not_canFail label)
    | interrupted launch => rfl
  refine Classical.byContradiction fun hno => ?_
  obtain ⟨hiff, hnone⟩ := run_of_not_cutsLaunch env options plan interrupt start world hno
  rw [hnone (hiff.1 hi)] at hf
  cases hf

/-- An interrupt while a run launches and has still to wait fails it with the label of a group of which all processes, like
those of the groups before it, are launched and none of the others. No other run fails so. An interrupt of the run window
leaves the run without a failure and with all of its plan launched, and so does one that comes before the end of the launch
when the launch waits no more and succeeds. -/
theorem run_interrupted :
    (CutsLaunch env options plan interrupt start world →
        ∃ k group, InterruptedIn env.name plan (calls env options plan interrupt start world)
          (run env options plan interrupt start world) k group) ∧
      (NeverInterrupts env → ∀ label, (run env options plan interrupt start world).failure = some (.interrupted label) →
        CutsLaunch env options plan interrupt start world) ∧
      ((run env options plan interrupt start world).report.interrupted = true ↔
        CutsLaunch env options plan interrupt start world ∨ CutsWindow env options plan interrupt start world) ∧
      (CutsWindow env options plan interrupt start world →
        (run env options plan interrupt start world).failure = none ∧
          Complete plan.specs (calls env options plan interrupt start world)) ∧
      (∀ i, interrupt (listensFrom env plan start world) = some i →
        (CutsLaunch env options plan interrupt start world →
            i.instant < (launchRun env options plan start world).now) ∧
          (LaunchesAtOnce env → (builtRun env plan start world).result = some (.ok ()) →
            listensFrom env plan start world ≤ i.instant → i.instant < (launchRun env options plan start world).now →
            CutsLaunch env options plan interrupt start world) ∧
          ((builtRun env plan start world).result = some (.ok ()) →
            i.instant < (launchRun env options plan start world).now →
            (CutsLaunch env options plan interrupt start world ↔ ¬ MissesLaunch env options plan interrupt start world))) ∧
      ((builtRun env plan start world).result = some (.ok ()) → MissesLaunch env options plan interrupt start world →
        (∀ e, (launchRun env options plan start world).result = some (.error e) →
            (run env options plan interrupt start world).failure = some e ∧
              (run env options plan interrupt start world).report.interrupted = false) ∧
          ((launchRun env options plan start world).result = some (.ok ()) →
            (run env options plan interrupt start world).failure = none ∧
              ((run env options plan interrupt start world).report.interrupted = true ↔ 0 < options.runFor) ∧
              Complete plan.specs (calls env options plan interrupt start world))) := by
  refine ⟨interruptedIn_of_cutsLaunch env options plan interrupt start world,
    fun henv label hf => cutsLaunch_of_failure env options plan interrupt start world henv hf,
    interrupted_iff_cuts env options plan interrupt start world, fun hw => ?_,
    fun i hi => ⟨lt_of_cutsLaunch env options plan interrupt start world hi,
      fun henv hb hle hlt => cutsLaunch_of_lt env options plan interrupt start world henv hb hi hle hlt,
      fun hb hlt => ?_⟩, fun hb hmiss => ?_⟩
  · have hf := (run_of_not_cutsLaunch env options plan interrupt start world hw.2.2.1).2 hw
    exact ⟨hf, run_complete env options plan interrupt start world hf⟩
  · have hor := cutsLaunch_or_missesLaunch env options plan interrupt start world hb hi hlt
    exact ⟨fun hcut hmiss => hmiss.not_cutsLaunch env options plan interrupt start world hcut, hor.resolve_right⟩
  · obtain ⟨hfailed, hlaunched⟩ := run_of_missesLaunch env options plan interrupt start world hb hmiss
    refine ⟨hfailed, fun hok => ?_⟩
    obtain ⟨hf, hint⟩ := hlaunched hok
    exact ⟨hf, hint, run_complete env options plan interrupt start world hf⟩

end Run

/-- The only launch of a run takes ten milliseconds and nothing is waited for after it. An interrupt five milliseconds into it
comes while the run launches, but the run does not fail: it is interrupted in its window. -/
theorem run_outlastsInterrupt :
    let env := (Scripted.environment ⟨none, none⟩ []).launchingIn 10
    let options : RunOptions := ⟨1000, 500, Shutdown.standard⟩
    let monitor : LaunchSpec := ⟨"monitor", .server, "bin/monitor", [], ⟨"monitor.out", "monitor.err"⟩, none⟩
    let plan : Plan := ⟨.eight, [⟨"monitor", [monitor], 0⟩]⟩
    let interrupt : Nat → Option Interruption := fun _ => some ⟨5, none⟩
    listensFrom env plan 0 0 < 5 ∧ 5 < (launchRun env options plan 0 0).now ∧
      (run env options plan interrupt 0 0).report.interrupted = true ∧
      ¬ ∃ label, (run env options plan interrupt 0 0).failure = some (.interrupted label) := by
  refine ⟨by decide, by decide, by decide, ?_⟩
  rintro ⟨label, h⟩
  cases h

/-- The server is interrupted while it settles: the run was interrupted in the first group. -/
theorem run_interrupted_settling :
    let env := Scripted.environment ⟨none, none⟩ []
    let options : RunOptions := ⟨1000, 500, Shutdown.standard⟩
    let server : LaunchSpec := ⟨"server", .server, "bin/server", [], ⟨"server.out", "server.err"⟩, none⟩
    let plan : Plan := ⟨.eight, [⟨"server", [server], 100⟩, ⟨"monitor", [], 0⟩]⟩
    let interrupt : Nat → Option Interruption := fun _ => some ⟨50, none⟩
    NeverInterrupts env ∧ LaunchesAtOnce env ∧
      ∃ k group, InterruptedIn env.name plan (calls env options plan interrupt 0 0) (run env options plan interrupt 0 0) k
        group := by
  have hnever := Scripted.neverInterrupts ⟨none, none⟩ [] nofun (List.forall_mem_nil _) (List.forall_mem_nil _)
  refine ⟨hnever, Scripted.launchesAtOnce _ _, ?_⟩
  exact (run_interrupted _ _ _ _ _ _).1 ⟨rfl, ⟨50, none⟩, 100, rfl, rfl, by decide⟩

end StagedLaunch.Supervisor
