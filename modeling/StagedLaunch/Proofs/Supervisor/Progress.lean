import StagedLaunch.Proofs.Supervisor.Failure

/-!
# The states of a run and its progress lines

A run goes through its states in one line: it builds, launches group after group, runs if all of them are launched, stops its
processes and is done. It announces each group when it comes to the state in which it launches it, and prints nothing else
(`run_progresses`).

`steps` puts states and announcements into one list, so that both are read off the same course.
-/

namespace StagedLaunch.Supervisor

variable {ε σ η : Type}

/-! ## Steps -/

/-- A step that a run shows. -/
inductive Step where
  /-- It comes to a state. -/
  | enters (state : RunState)
  /-- It announces a group. -/
  | announces (label : String)
deriving DecidableEq, Repr

/-- The step that a notice tells of. -/
def step? : Notice ε → Option Step
  | .state _ new => some (.enters new)
  | .announced label => some (.announces label)
  | _ => none

/-- The steps of a run, in order. -/
def steps (events : List (Nat × Notice ε)) : List Step := events.filterMap fun e => step? e.2

/-- The change of the state that a notice tells of. -/
def transition? : Notice ε → Option (RunState × RunState)
  | .state old new => some (old, new)
  | _ => none

/-- The changes of the state of a run, in order. -/
def transitions (events : List (Nat × Notice ε)) : List (RunState × RunState) := events.filterMap fun e => transition? e.2

@[simp] theorem steps_append (a b : List (Nat × Notice ε)) : steps (a ++ b) = steps a ++ steps b := List.filterMap_append

@[simp] theorem transitions_append (a b : List (Nat × Notice ε)) :
    transitions (a ++ b) = transitions a ++ transitions b := List.filterMap_append

/-- The surroundings of a run take none of its steps. -/
theorem steps_own (events : List (Nat × Notice ε)) :
    steps (own events) = steps events ∧ transitions (own events) = transitions events := by
  unfold steps transitions own
  rw [List.filterMap_filterMap, List.filterMap_filterMap]
  refine ⟨?_, ?_⟩
  · congr 1
    funext ⟨now, n⟩
    cases n with
    | _ => rfl
  · congr 1
    funext ⟨now, n⟩
    cases n with
    | _ => rfl

/-- The state that a step comes to. -/
def Step.state? : Step → Option RunState
  | .enters state => some state
  | .announces _ => none

/-- The label that a step announces. -/
def Step.label? : Step → Option String
  | .enters _ => none
  | .announces label => some label

/-- The states that a run comes to are those to which its state changes. -/
theorem states_of_steps (events : List (Nat × Notice ε)) :
    (transitions events).map Prod.snd = (steps events).filterMap Step.state? := by
  unfold transitions steps
  rw [List.filterMap_filterMap, List.map_filterMap]
  congr 1
  funext ⟨now, n⟩
  cases n with
  | _ => rfl

theorem announced_of_steps (events : List (Nat × Notice ε)) : announced events = (steps events).filterMap Step.label? := by
  unfold announced steps
  rw [List.filterMap_filterMap]
  congr 1
  funext ⟨now, n⟩
  cases n with
  | _ => rfl

/-- Each change of the state begins where the one before it has ended. -/
def Linked : RunState → List (RunState × RunState) → RunState → Prop
  | first, [], last => first = last
  | first, (old, new) :: rest, last => first = old ∧ Linked new rest last

theorem Linked.append {first middle last : RunState} {a b : List (RunState × RunState)} (h : Linked first a middle)
    (h' : Linked middle b last) : Linked first (a ++ b) last := by
  induction a generalizing first with
  | nil =>
    cases h
    exact h'
  | cons c a ih => exact ⟨h.1, ih h.2⟩

/-! ## The launch -/

/-- The steps of the launch of groups, the first of which has an index. -/
def launchSteps : Nat → List Group → List Step
  | _, [] => []
  | index, group :: rest => .enters (.launching index) :: .announces group.label :: launchSteps (index + 1) rest

theorem states_launchSteps (index : Nat) (groups : List Group) :
    (launchSteps index groups).filterMap Step.state? = (List.range' index groups.length).map .launching := by
  induction groups generalizing index with
  | nil => rfl
  | cons group groups ih =>
    rw [List.length_cons, List.range'_succ, List.map_cons, ← ih]
    rfl

theorem labels_launchSteps (index : Nat) (groups : List Group) :
    (launchSteps index groups).filterMap Step.label? = groups.map Group.label := by
  induction groups generalizing index with
  | nil => rfl
  | cons group groups ih =>
    rw [List.map_cons, ← ih (index + 1)]
    rfl

/-- Within a group a run takes no steps. -/
theorem steps_of_ofGroup {events : List (Nat × Notice ε)} (h : ∀ e ∈ events, ofGroup e.2 = true) :
    steps events = [] ∧ transitions events = [] := by
  refine ⟨List.filterMap_eq_nil_iff.2 fun e he => ?_, List.filterMap_eq_nil_iff.2 fun e he => ?_⟩
  · have hg := h e he
    obtain ⟨now, n⟩ := e
    cases n with
    | state old new => cases hg
    | announced label => cases hg
    | _ => rfl
  · have hg := h e he
    obtain ⟨now, n⟩ := e
    cases n with
    | state old new => cases hg
    | _ => rfl

/-- A launch takes the steps of its first groups, and of all when it comes to its end. -/
theorem Launching.steps_eq {env : Environment ε σ η} {timeout start index now later : Nat} {old new : RunState}
    {groups : List Group} {events : Events η} {started : List (Started η)} {outcome : Option (Except LaunchError Unit)}
    (h : Launching env timeout start index old groups now events started later new outcome) :
    ∃ k, k ≤ groups.length ∧ steps events = launchSteps index (groups.take k) ∧ Linked old (transitions events) new ∧
      (outcome = some (.ok ()) → k = groups.length) := by
  induction h with
  | done index state now => exact ⟨0, Nat.le_refl _, rfl, rfl, fun _ => rfl⟩
  | @stopped index old group rest _ _ _ _ _ launch stopped =>
    obtain ⟨hsteps, htrans⟩ := steps_of_ofGroup launch.ofGroup
    refine ⟨1, by simp, ?_, ?_, fun ho => absurd ho stopped⟩
    · rw [steps_append, hsteps]
      rfl
    · rw [transitions_append, htrans]
      exact ⟨rfl, rfl⟩
  | @next index old group rest _ _ _ _ _ _ _ _ _ launch others ih =>
    obtain ⟨hsteps, htrans⟩ := steps_of_ofGroup launch.ofGroup
    obtain ⟨k, hk, hmore, hlinked, hall⟩ := ih
    refine ⟨k + 1, by simpa using hk, ?_, ?_, fun ho => by simpa using hall ho⟩
    · rw [steps_append, steps_append, hsteps, hmore]
      rfl
    · rw [transitions_append, transitions_append, htrans]
      exact ⟨rfl, hlinked⟩

/-- States that are come to, and nothing that is announced. -/
theorem filterMap_enters (states : List RunState) :
    (states.map Step.enters).filterMap Step.state? = states ∧ (states.map Step.enters).filterMap Step.label? = [] := by
  rw [List.filterMap_map, List.filterMap_map]
  exact ⟨List.filterMap_some, List.filterMap_eq_nil_iff.2 fun _ _ => rfl⟩

/-! ## The whole run -/

theorem steps_interruptEvents (now : Nat) (i : Option Interruption) :
    steps (interruptEvents now i : Events η) = [] ∧ transitions (interruptEvents now i : Events η) = [] := by
  unfold interruptEvents
  split
  · exact ⟨rfl, rfl⟩
  · exact ⟨rfl, rfl⟩

theorem steps_failureEvents (now : Nat) (failure : Option LaunchError) :
    steps (failureEvents now failure : Events η) = [] ∧ transitions (failureEvents now failure : Events η) = [] := by
  cases failure with
  | none => exact ⟨rfl, rfl⟩
  | some e => exact ⟨rfl, rfl⟩

/-- While processes are stopped a run takes no steps. -/
theorem Stopping.steps_eq {env : Environment ε σ η} {shutdown : Shutdown} {started : List (Started η)} {now later : Nat}
    {events : Events η} {records : List StopRecord} (h : Stopping env shutdown started now events records later) :
    steps events = [] ∧ transitions events = [] := by
  induction h with
  | done now => exact ⟨rfl, rfl⟩
  | stop passed more ih =>
    rw [steps_append, transitions_append, ih.1, ih.2]
    exact ⟨rfl, rfl⟩

/-- Before its processes are stopped, a run builds, launches its first groups and, if it does not fail, runs. -/
theorem Driving.steps_eq {env : Environment ε σ η} {options : RunOptions} {plan : Plan} {i : Option Interruption}
    {start built now : Nat} {events : Events η} {started : List (Started η)} {state : RunState}
    {failure : Option LaunchError} {interrupted : Bool}
    (h : Driving env options plan i start built events started now state failure interrupted) :
    ∃ (k : Nat) (window : List RunState), k ≤ plan.groups.length ∧
      steps events = .enters .building :: launchSteps 0 (plan.groups.take k) ++ window.map .enters ∧
      Linked .idle (transitions events) state ∧
      (failure = none ∧ k = plan.groups.length ∧ window = [.running] ∨ failure ≠ none ∧ window = []) := by
  cases h with
  | notBuilt answer => exact ⟨0, [], Nat.zero_le _, rfl, ⟨rfl, rfl⟩, Or.inr ⟨nofun, rfl⟩⟩
  | notLaunched launch =>
    obtain ⟨k, hk, hsteps, hlinked, -⟩ := launch.steps_eq
    refine ⟨k, [], hk, ?_, ?_, Or.inr ⟨nofun, rfl⟩⟩
    · rw [steps_append, hsteps, List.map_nil, List.append_nil]
      rfl
    · rw [transitions_append]
      exact ⟨rfl, hlinked⟩
  | interrupted launch =>
    obtain ⟨k, hk, hsteps, hlinked, -⟩ := launch.steps_eq
    obtain ⟨hnone, hnone'⟩ := steps_interruptEvents (η := η) now i
    refine ⟨k, [], hk, ?_, ?_, Or.inr ⟨nofun, rfl⟩⟩
    · rw [steps_append, steps_append, hsteps, hnone]
      rfl
    · rw [transitions_append, transitions_append, hnone', List.append_nil]
      exact ⟨rfl, hlinked⟩
  | ran launch whole =>
    obtain ⟨k, hk, hsteps, hlinked, hall⟩ := launch.steps_eq
    refine ⟨k, [.running], hk, ?_, ?_, Or.inl ⟨rfl, hall rfl, rfl⟩⟩
    · rw [steps_append, steps_append, steps_append, hsteps]
      exact List.append_nil _
    · rw [transitions_append, transitions_append, transitions_append, List.append_assoc]
      exact ⟨rfl, hlinked.append ⟨rfl, rfl⟩⟩
  | cutShort launch cut =>
    obtain ⟨k, hk, hsteps, hlinked, hall⟩ := launch.steps_eq
    obtain ⟨hnone, hnone'⟩ := steps_interruptEvents (η := η) now i
    refine ⟨k, [.running], hk, ?_, ?_, Or.inl ⟨rfl, hall rfl, rfl⟩⟩
    · rw [steps_append, steps_append, steps_append, steps_append, hsteps, hnone]
      exact List.append_nil _
    · rw [transitions_append, transitions_append, transitions_append, transitions_append, hnone', List.append_assoc]
      exact ⟨rfl, hlinked.append ⟨rfl, rfl⟩⟩

/-- What a run prints of its own is a line for each group that it announces. -/
theorem output_eq_announced (f : Finished ε σ) :
    f.output (fun _ => []) =
      (announced f.events).flatMap fun label => (Notice.announced label : Notice ε).output fun _ => [] := by
  unfold Finished.output announced
  induction f.events with
  | nil => rfl
  | cons e events ih =>
    obtain ⟨now, n⟩ := e
    rw [List.flatMap_cons, ih]
    cases n with
    | announced label => rfl
    | _ => rfl

section Run

variable (env : Environment ε σ η) (options : RunOptions) (plan : Plan) (interrupt : Nat → Option Interruption) (start : Nat)
  (world : σ)

/-- The launch of a run comes to its end: all groups are launched, without an error and without an interrupt. -/
def LaunchCompletes : Prop :=
  (builtRun env plan start world).result = some (.ok ()) ∧ (launchRun env options plan start world).result = some (.ok ()) ∧
    ¬ CutsLaunch env options plan interrupt start world

/-- A run does not fail exactly when its launch comes to its end. -/
theorem failure_eq_none_iff :
    (run env options plan interrupt start world).failure = none ↔
      LaunchCompletes env options plan interrupt start world := by
  obtain ⟨e | u, hb⟩ := builtRun_some env plan start world
  · refine iff_of_false ?_ ?_
    · rw [(run_of_not_built env options plan interrupt start world hb).1]
      exact nofun
    · rintro ⟨hok, -⟩
      cases hb.symm.trans hok
  · by_cases hcut : CutsLaunch env options plan interrupt start world
    · obtain ⟨⟨label, hf⟩, -⟩ := run_of_cutsLaunch env options plan interrupt start world hcut
      refine iff_of_false ?_ fun h => h.2.2 hcut
      rw [hf]
      exact nofun
    · rw [failure_of_launch env options plan interrupt start world hb hcut]
      obtain ⟨r, hr⟩ : ∃ r, (launchRun env options plan start world).result = some r :=
        Activity.run_none_some (elapse env) _ _ _
      rw [hr]
      refine ⟨fun hnone => ⟨hb, ?_, hcut⟩, fun h => ?_⟩
      · cases r with
        | error e => cases hnone
        | ok v => exact hr
      · cases hr.symm.trans h.2.1
        rfl

/-- The launch comes to its end exactly when the build, every launch and every readiness check are answered without an error
and no interrupt cuts it off. -/
theorem launchCompletes_iff :
    LaunchCompletes env options plan interrupt start world ↔
      firstError (calls env options plan interrupt start world) = none ∧
        ¬ CutsLaunch env options plan interrupt start world :=
  (failure_eq_none_iff env options plan interrupt start world).symm.trans
    (ok_iff_firstError env options plan interrupt start world)

end Run

/-- What holds of the states and the output of a run that gets to its first `k` groups; `completes` says that its launch
comes to its end, and `window` holds the state of running if the run gets to it. -/
structure Progresses (plan : Plan) (completes : Prop) (k : Nat) (window : List RunState) (f : Finished ε σ) : Prop where
  /-- The plan has that many groups. -/
  le_length : k ≤ plan.groups.length
  /-- A run comes to run exactly when its launch comes to its end, and then it has got to all groups. -/
  window_eq : completes ∧ k = plan.groups.length ∧ window = [.running] ∨ ¬ completes ∧ window = []
  /-- The state changes from the first one to the last, each time from the state in which the run is. -/
  linked : Linked .idle (transitions f.events) .done
  /-- A run builds, launches its groups in order, runs if it comes to that, stops its processes, and is done. -/
  states_eq : (transitions f.events).map Prod.snd =
    .building :: (List.range k).map .launching ++ window ++ [.terminating, .done]
  /-- Each group is announced once, right when its launch begins. -/
  steps_eq : steps f.events = .enters .building :: launchSteps 0 (plan.groups.take k) ++ window.map .enters ++
    [.enters .terminating, .enters .done]
  /-- It prints a line for each of these groups. -/
  output_eq : f.output (fun _ => []) = (plan.groups.take k).flatMap fun g => (s!"Launching {g.label}\n").toUTF8.toList
  /-- It ends in the last state. -/
  state_eq : f.report.state = .done

/-- Every run goes through its states in one line and announces the groups that it launches. It comes to run when the build,
every launch and every readiness check of its plan succeed and no interrupt cuts its launch off. -/
theorem run_progresses (env : Environment ε σ η) (options : RunOptions) (plan : Plan)
    (interrupt : Nat → Option Interruption) (start : Nat) (world : σ) :
    (∃ k window, Progresses plan (LaunchCompletes env options plan interrupt start world) k window
      (run env options plan interrupt start world)) ∧
      (LaunchCompletes env options plan interrupt start world ↔
        firstError (calls env options plan interrupt start world) = none ∧
          ¬ CutsLaunch env options plan interrupt start world) ∧
      (LaunchCompletes env options plan interrupt start world →
        .built (.ok ()) ∈ calls env options plan interrupt start world ∧
          Complete plan.specs (calls env options plan interrupt start world)) := by
  have hcompletes := failure_eq_none_iff env options plan interrupt start world
  obtain ⟨hreport, hfailure, -, -, hown⟩ := run_recording env options plan interrupt start world
  obtain @⟨events, after, started, now, state, records, drive, stop, htold, hrun⟩ :=
    run_course env options plan interrupt start world
  rw [hfailure] at drive htold
  obtain ⟨k, window, hk, hdrive, hlinked, hwindow⟩ := drive.steps_eq
  obtain ⟨hstop, hstop'⟩ := stop.steps_eq
  obtain ⟨hfailed, hfailed'⟩ := steps_failureEvents (η := η) now (run env options plan interrupt start world).failure
  have hsteps : steps (run env options plan interrupt start world).events =
      .enters .building :: launchSteps 0 (plan.groups.take k) ++ window.map .enters ++
        [.enters .terminating, .enters .done] := by
    have hafter : steps ((now, .state state .terminating) :: after) = [.enters .terminating] := by
      show .enters .terminating :: steps after = _
      rw [hstop]
    rw [← (steps_own _).1, ← hown, (steps_own _).1, htold, steps_append, steps_append, steps_append, hdrive, hfailed, hafter,
      List.append_nil, List.append_assoc]
    rfl
  have htrans : Linked .idle (transitions (run env options plan interrupt start world).events) .done := by
    have hafter : transitions ((now, .state state .terminating) :: after) = [(state, .terminating)] := by
      show (state, .terminating) :: transitions after = _
      rw [hstop']
    rw [← (steps_own _).2, ← hown, (steps_own _).2, htold, transitions_append, transitions_append, transitions_append,
      hfailed', hafter, List.append_nil, List.append_assoc]
    exact hlinked.append ⟨rfl, rfl, rfl⟩
  refine ⟨⟨k, window, hk, ?_, htrans, ?_, hsteps, ?_, ?_⟩, launchCompletes_iff env options plan interrupt start world,
    fun hall => ?_⟩
  · rwa [hcompletes, Ne, hcompletes] at hwindow
  · have hlength : (plan.groups.take k).length = k := List.length_take_of_le hk
    have hbuild : Step.state? (.enters .building) = some .building := rfl
    rw [states_of_steps, hsteps, List.filterMap_append, List.filterMap_append, (filterMap_enters window).1,
      List.filterMap_cons_some hbuild, states_launchSteps, hlength, ← List.range_eq_range']
    rfl
  · have hbuild : Step.label? (.enters .building) = none := rfl
    rw [output_eq_announced, announced_of_steps, hsteps, List.filterMap_append, List.filterMap_append,
      (filterMap_enters window).2, List.filterMap_cons_none hbuild, labels_launchSteps, List.append_nil, List.flatMap_append,
      List.flatMap_map]
    exact List.append_nil _
  · rw [← hreport, hrun]
  · have hok := hcompletes.2 hall
    exact ⟨built_of_ok env options plan interrupt start world hok, run_complete env options plan interrupt start world hok⟩

end StagedLaunch.Supervisor
