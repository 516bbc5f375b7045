import StagedLaunch.Proofs.Supervisor.LaunchTrace

/-!
# The instants of a course

When the notices of a run are told: the launches of a group from its beginning on, its readiness checks one right after the
other, and the offsets of the report, which are the instants of the launches (`Launching.offsets_eq`).
-/

namespace StagedLaunch.Supervisor

variable {ε σ η : Type}

/-- The call of a launch. -/
def isLaunchCall : Notice ε → Bool
  | .launching _ => true
  | _ => false

/-- The answer to a launch that has succeeded. -/
def isLaunched : Notice ε → Bool
  | .launched _ (.ok _) => true
  | _ => false

/-- The call of a readiness check. -/
def isAwait : Notice ε → Bool
  | .awaiting _ _ _ => true
  | _ => false

/-- The answer to a readiness check. -/
def isReady : Notice ε → Bool
  | .ready _ _ => true
  | _ => false

/-- The call that stops a process. -/
def isStopCall : Notice ε → Bool
  | .terminating _ _ => true
  | _ => false

/-- The instants of the notices of a kind, in order. -/
def instants (kind : Notice ε → Bool) (events : List (Nat × Notice ε)) : List Nat :=
  (events.filter fun e => kind e.2).map Prod.fst

@[simp] theorem instants_append (kind : Notice ε → Bool) (a b : List (Nat × Notice ε)) :
    instants kind (a ++ b) = instants kind a ++ instants kind b := by
  unfold instants
  rw [List.filter_append, List.map_append]

theorem instants_eq_nil_iff {kind : Notice ε → Bool} {events : List (Nat × Notice ε)} :
    instants kind events = [] ↔ ∀ e ∈ events, kind e.2 = false := by
  unfold instants
  rw [List.map_eq_nil_iff, List.filter_eq_nil_iff]
  simp

/-- Notices about the run as a whole are neither launches nor stops. -/
theorem instants_of_ofRun {events : List (Nat × Notice ε)} (h : ∀ e ∈ events, ofRun e.2 = true) :
    instants isLaunchCall events = [] ∧ instants isLaunched events = [] ∧ instants isStopCall events = [] := by
  simp only [instants_eq_nil_iff]
  refine ⟨fun e he => ?_, fun e he => ?_, fun e he => ?_⟩
  · have hrun := h e he
    generalize e.2 = n at hrun ⊢
    cases n with
    | launching spec => cases hrun
    | _ => rfl
  · have hrun := h e he
    generalize e.2 = n at hrun ⊢
    cases n with
    | launched spec r => cases hrun
    | _ => rfl
  · have hrun := h e he
    generalize e.2 = n at hrun ⊢
    cases n with
    | terminating name shutdown => cases hrun
    | _ => rfl

/-- A notice of the run itself stands for one of all. -/
theorem mem_own {events : List (Nat × Notice ε)} {e : Nat × Notice Empty} (h : e ∈ own events) :
    ∃ n, (e.1, n) ∈ events ∧ n.own? = some e.2 := by
  obtain ⟨⟨now, n⟩, hn, hown⟩ := List.mem_filterMap.1 h
  obtain ⟨m, hm, rfl⟩ := Option.map_eq_some_iff.1 hown
  exact ⟨n, hn, hm⟩

/-- Notices about the run as a whole are still so when the surroundings are left out. -/
theorem ofRun_own {events : List (Nat × Notice ε)} (h : ∀ e ∈ events, ofRun e.2 = true) :
    ∀ e ∈ own events, ofRun e.2 = true := by
  rintro ⟨now, m⟩ he
  obtain ⟨n, hn, hm⟩ := mem_own he
  have hrun := h _ hn
  cases n with
  | told e => cases hm
  | _ =>
    cases hm
    exact hrun

/-! ## The notices of the parts -/

@[simp] theorem own_launchEvents (spec : LaunchSpec) (before after : Nat) (result : Except LaunchError η)
    (answer : Except LaunchError (String × Option Nat)) :
    own (launchEvents spec before after result answer) = [(before, .launching spec), (after, .launched spec answer)] := rfl

@[simp] theorem own_awaitEvents (timeout : Nat) (d : Due η) (before : Nat) :
    own (awaitEvents timeout d before) = [(before, .awaiting d.spec d.check timeout)] := rfl

@[simp] theorem own_readyEvents (d : Due η) (after : Nat) (result : Except LaunchError Unit) :
    own (readyEvents d after result) = [(after, .ready d.spec result)] := rfl

@[simp] theorem own_groupEvents (index : Nat) (old : RunState) (group : Group) (now : Nat) :
    own (groupEvents index old group now : Events η) =
      [(now, .state old (.launching index)), (now, .announced group.label)] := rfl

@[simp] theorem own_buildEvents (plan : Plan) (start built : Nat) (result : Except LaunchError Unit) :
    own (buildEvents plan start built result : Events η) =
      [(start, .state .idle .building), (start, .building), (built, .built result)] := rfl

@[simp] theorem own_openEvents (options : RunOptions) (plan : Plan) (old : RunState) (now : Nat) :
    own (openEvents options plan old now : Events η) =
      [(now, .state old .running), (now, .running plan.size options.runFor)] := rfl

@[simp] theorem own_stopEvents (env : Environment ε σ η) (shutdown : Shutdown) (h : η) (before after : Nat)
    (outcome : StopOutcome) :
    own (stopEvents env shutdown h before after outcome) =
      [(before, .terminating (env.name h) shutdown), (after, .terminated (env.name h) outcome)] := rfl

/-- The notices of a kind that is none of those of a settling group. -/
theorem instants_settleEvents (group : Group) (spawned ready : Nat) (kind : Notice Empty → Bool)
    (hk : ∀ label ms, kind (.settling label ms) = false) :
    instants kind (own (settleEvents group spawned ready : Events η)) = [] := by
  unfold settleEvents
  split
  · rfl
  · have h := hk group.label (group.settle - (ready - spawned))
    simp [own, Notice.own?, instants, h]

/-! ## Launches -/

section Spawning

variable {env : Environment ε σ η} {start now later : Nat} {specs : List LaunchSpec} {events : Events η}
  {started : List (Started η)} {failure : Option LaunchError}

/-- Nothing but launches is told while processes are launched. -/
theorem Spawning.instants_eq_nil (h : Spawning env start specs now events started later failure)
    (kind : Notice Empty → Bool) (hcall : ∀ spec, kind (.launching spec) = false)
    (hanswer : ∀ spec r, kind (.launched spec r) = false) : instants kind (own events) = [] := by
  induction h with
  | done now => rfl
  | failed rest answer => simp [instants, hcall, hanswer]
  | launched pid answer more ih =>
    rw [own_append, instants_append, ih]
    simp [instants, hcall, hanswer]

/-- The first launch, if there is any to call, is called at once. -/
theorem Spawning.called (h : Spawning env start specs now events started later failure) (hspecs : specs ≠ []) :
    (instants isLaunchCall (own events)).head? = some now := by
  cases h with
  | done => exact absurd rfl hspecs
  | failed rest answer => rfl
  | launched pid answer more => rfl

/-- The processes are launched one after the other, each at the instant that its record gives. -/
theorem Spawning.launched_at (h : Spawning env start specs now events started later failure) (hstart : start ≤ now) :
    instants isLaunched (own events) = started.map (fun p => start + p.record.offset) ∧
      (instants isLaunched (own events)).Pairwise (· ≤ ·) ∧
      ∀ t ∈ instants isLaunched (own events), now ≤ t ∧ t ≤ later := by
  induction h with
  | done now => exact ⟨rfl, .nil, List.forall_mem_nil _⟩
  | failed rest answer => exact ⟨rfl, .nil, List.forall_mem_nil _⟩
  | @launched spec rest now took later _ _ _ h pid events started _ answer more ih =>
    obtain ⟨hat, hsorted, hbounds⟩ := ih (by omega)
    have hle := more.le
    have hcons : instants isLaunched (own (launchEvents spec now (now + took) (.ok h) (.ok (env.name h, pid)) ++ events)) =
        (now + took) :: instants isLaunched (own events) := rfl
    rw [hcons]
    refine ⟨?_, ?_, ?_⟩
    · rw [hat, List.map_cons]
      congr 1
      dsimp only
      omega
    · exact List.pairwise_cons.2 ⟨fun t ht => (hbounds t ht).1, hsorted⟩
    · rw [List.forall_mem_cons]
      refine ⟨by omega, fun t ht => ?_⟩
      have := hbounds t ht
      omega

/-- All processes are launched when the last of them is. -/
theorem Spawning.last_launched (h : Spawning env start specs now events started later none) :
    (instants isLaunched (own events)).getLast?.getD now = later := by
  generalize hf : (none : Option LaunchError) = failure at h
  induction h with
  | done now => rfl
  | failed rest answer => cases hf
  | @launched spec rest now took later _ _ _ h pid events started _ answer more ih =>
    have hcons : instants isLaunched (own (launchEvents spec now (now + took) (.ok h) (.ok (env.name h, pid)) ++ events)) =
        (now + took) :: instants isLaunched (own events) := rfl
    rw [hcons, List.getLast?_cons, Option.getD_some]
    exact ih hf

/-- When launches take no time, all processes are launched at once. -/
theorem Spawning.at_once (h : Spawning env start specs now events started later failure)
    (hlaunch : ∀ spec now w, (env.launch spec now w).took = 0) : ∀ t ∈ instants isLaunched (own events), t = now := by
  induction h with
  | done now => exact List.forall_mem_nil _
  | failed rest answer => exact List.forall_mem_nil _
  | @launched spec rest now took later w _ _ h pid events started _ answer more ih =>
    have htook : took = 0 := by
      have := hlaunch spec now w
      rw [answer] at this
      exact this
    subst htook
    have hcons : instants isLaunched (own (launchEvents spec now (now + 0) (.ok h) (.ok (env.name h, pid)) ++ events)) =
        now :: instants isLaunched (own events) := rfl
    rw [hcons, List.forall_mem_cons]
    exact ⟨rfl, ih⟩

end Spawning

/-! ## Readiness -/

section Awaiting

variable {env : Environment ε σ η} {timeout now later : Nat} {due : List (Due η)} {events : Events η}
  {outcome : Option (Except LaunchError Unit)}

/-- Nothing but readiness checks is told while readiness is waited for. -/
theorem Awaiting.instants_eq_nil (h : Awaiting env timeout due now events later outcome) (kind : Notice Empty → Bool)
    (hcall : ∀ spec check ms, kind (.awaiting spec check ms) = false) (hanswer : ∀ spec r, kind (.ready spec r) = false) :
    instants kind (own events) = [] := by
  induction h with
  | done now => rfl
  | ready passed more ih =>
    rw [own_append, own_append, instants_append, instants_append, ih]
    simp [instants, hcall, hanswer]
  | failed rest passed answer =>
    rw [own_append, instants_append]
    simp [instants, hcall, hanswer]
  | cut d rest passed => simp [instants, hcall]

/-- The time that readiness checks take, given when they are called and when they answer. -/
def waitTime : List Nat → List Nat → Nat
  | before :: called, after :: answered => (after - before) + waitTime called answered
  | _, _ => 0

/-- When all checks pass, they take the whole time, one right after the other. -/
theorem Awaiting.waitTime_eq (h : Awaiting env timeout due now events later (some (.ok ()))) :
    waitTime (instants isAwait (own events)) (instants isReady (own events)) = later - now := by
  generalize ho : some (Except.ok ()) = outcome at h
  induction h with
  | done now => exact (Nat.sub_self now).symm
  | @ready d rest before after later events outcome passed more ih =>
    have hawait : instants isAwait (own (awaitEvents timeout d before ++ readyEvents d after (.ok ()) ++ events)) =
        before :: instants isAwait (own events) := rfl
    have hready : instants isReady (own (awaitEvents timeout d before ++ readyEvents d after (.ok ()) ++ events)) =
        after :: instants isReady (own events) := rfl
    have hle := more.le
    rw [hawait, hready, waitTime, ih ho]
    omega
  | failed rest passed answer => cases ho
  | cut d rest passed => cases ho

end Awaiting

/-! ## Groups -/

section GroupLaunch

variable {env : Environment ε σ η} {timeout start now later : Nat} {group : Group} {events : Events η}
  {started : List (Started η)} {outcome : Option (Except LaunchError Unit)}

/-- A group launches its processes first; after that it waits. -/
theorem GroupLaunch.spawn (h : GroupLaunch env timeout start group now events started later outcome) :
    ∃ a rest spawned failure, events = a ++ rest ∧ Spawning env start group.specs now a started spawned failure ∧
      spawned ≤ later ∧
      ∀ kind : Notice Empty → Bool, (∀ spec check ms, kind (.awaiting spec check ms) = false) →
        (∀ spec r, kind (.ready spec r) = false) → (∀ label ms, kind (.settling label ms) = false) →
        instants kind (own rest) = [] := by
  cases h with
  | notSpawned spawn => exact ⟨_, [], _, _, (List.append_nil _).symm, spawn, Nat.le_refl _, fun _ _ _ _ => rfl⟩
  | notReady spawn await stopped =>
    exact ⟨_, _, _, _, rfl, spawn, await.le, fun kind hcall hanswer _ => await.instants_eq_nil kind hcall hanswer⟩
  | notSettled spawn await passed =>
    refine ⟨_, _, _, _, List.append_assoc .., spawn, Nat.le_trans await.le passed, fun kind hcall hanswer hsettle => ?_⟩
    rw [own_append, instants_append, await.instants_eq_nil kind hcall hanswer, instants_settleEvents _ _ _ kind hsettle]
    rfl
  | settled spawn await =>
    refine ⟨_, _, _, _, List.append_assoc .., spawn, Nat.le_trans await.le (Nat.le_add_right _ _),
      fun kind hcall hanswer hsettle => ?_⟩
    rw [own_append, instants_append, await.instants_eq_nil kind hcall hanswer, instants_settleEvents _ _ _ kind hsettle]
    rfl

theorem GroupLaunch.launched_at (h : GroupLaunch env timeout start group now events started later outcome)
    (hstart : start ≤ now) :
    instants isLaunched (own events) = started.map (fun p => start + p.record.offset) ∧
      (instants isLaunched (own events)).Pairwise (· ≤ ·) ∧
      ∀ t ∈ instants isLaunched (own events), now ≤ t ∧ t ≤ later := by
  obtain ⟨a, rest, spawned, failure, rfl, spawn, hle, hrest⟩ := h.spawn
  have hquiet := hrest isLaunched (fun _ _ _ => rfl) (fun _ _ => rfl) fun _ _ => rfl
  obtain ⟨hat, hsorted, hbounds⟩ := spawn.launched_at hstart
  rw [own_append, instants_append, hquiet, List.append_nil]
  exact ⟨hat, hsorted, fun t ht => ⟨(hbounds t ht).1, Nat.le_trans (hbounds t ht).2 hle⟩⟩

/-- The first launch of a group is called at its beginning. -/
theorem GroupLaunch.called (h : GroupLaunch env timeout start group now events started later outcome)
    (hspecs : group.specs ≠ []) : (instants isLaunchCall (own events)).head? = some now := by
  obtain ⟨a, rest, spawned, failure, rfl, spawn, -, hrest⟩ := h.spawn
  rw [own_append, instants_append, hrest isLaunchCall (fun _ _ _ => rfl) (fun _ _ => rfl) fun _ _ => rfl, List.append_nil]
  exact spawn.called hspecs

/-- When launches take no time, all processes of a group are launched at its beginning. -/
theorem GroupLaunch.at_once (h : GroupLaunch env timeout start group now events started later outcome)
    (hlaunch : ∀ spec now w, (env.launch spec now w).took = 0) : ∀ t ∈ instants isLaunched (own events), t = now := by
  obtain ⟨a, rest, spawned, failure, rfl, spawn, -, hrest⟩ := h.spawn
  rw [own_append, instants_append, hrest isLaunched (fun _ _ _ => rfl) (fun _ _ => rfl) fun _ _ => rfl, List.append_nil]
  exact spawn.at_once hlaunch

/-- No process is stopped while a group is launched. -/
theorem GroupLaunch.not_stopped (h : GroupLaunch env timeout start group now events started later outcome) :
    instants isStopCall (own events) = [] := by
  obtain ⟨a, rest, spawned, failure, rfl, spawn, -, hrest⟩ := h.spawn
  rw [own_append, instants_append, hrest isStopCall (fun _ _ _ => rfl) (fun _ _ => rfl) fun _ _ => rfl, List.append_nil]
  exact spawn.instants_eq_nil isStopCall (fun _ => rfl) fun _ _ => rfl

/-- A group is over when it is ready and has settled, counted from the launch of its last process: the time to settle and the
time of the readiness checks overlap. -/
theorem GroupLaunch.later_eq (h : GroupLaunch env timeout start group now events started later (some (.ok ()))) :
    later = (instants isLaunched (own events)).getLast?.getD now +
      max group.settle (waitTime (instants isAwait (own events)) (instants isReady (own events))) := by
  cases h with
  | notReady spawn await stopped => exact absurd rfl stopped
  | @settled _ spawned ready a b spawn await =>
    have hle := await.le
    have hlast := spawn.last_launched
    have hwait := await.waitTime_eq
    simp only [own_append, instants_append]
    rw [await.instants_eq_nil isLaunched (fun _ _ _ => rfl) fun _ _ => rfl,
      spawn.instants_eq_nil isAwait (fun _ => rfl) fun _ _ => rfl,
      spawn.instants_eq_nil isReady (fun _ => rfl) fun _ _ => rfl,
      instants_settleEvents _ _ _ isLaunched fun _ _ => rfl,
      instants_settleEvents _ _ _ isAwait fun _ _ => rfl,
      instants_settleEvents _ _ _ isReady fun _ _ => rfl]
    simp only [List.append_nil, List.nil_append, hlast, hwait]
    omega

end GroupLaunch

/-! ## One group after another -/

theorem Launching.launched_at {env : Environment ε σ η} {timeout start index now later : Nat} {old new : RunState}
    {groups : List Group} {events : Events η} {started : List (Started η)} {outcome : Option (Except LaunchError Unit)}
    (h : Launching env timeout start index old groups now events started later new outcome) (hstart : start ≤ now) :
    instants isLaunched (own events) = started.map (fun p => start + p.record.offset) ∧
      (instants isLaunched (own events)).Pairwise (· ≤ ·) ∧
      ∀ t ∈ instants isLaunched (own events), now ≤ t ∧ t ≤ later := by
  have hgroup : ∀ (index : Nat) (old : RunState) (group : Group) (now : Nat) (events : Events η),
      instants isLaunched (own (groupEvents index old group now ++ events)) = instants isLaunched (own events) :=
    fun _ _ _ _ _ => rfl
  induction h with
  | done index state now => exact ⟨rfl, .nil, List.forall_mem_nil _⟩
  | stopped rest launch stopped =>
    rw [hgroup]
    exact launch.launched_at hstart
  | next launch others ih =>
    have hle := launch.le
    have hle' := others.le
    obtain ⟨hat, hsorted, hbounds⟩ := launch.launched_at hstart
    obtain ⟨hat', hsorted', hbounds'⟩ := ih (Nat.le_trans hstart hle)
    rw [own_append, instants_append, hgroup]
    refine ⟨?_, ?_, ?_⟩
    · rw [hat, hat', List.map_append]
    · refine List.pairwise_append.2 ⟨hsorted, hsorted', fun t ht t' ht' => ?_⟩
      exact Nat.le_trans (hbounds t ht).2 (hbounds' t' ht').1
    · rw [List.forall_mem_append]
      refine ⟨fun t ht => ?_, fun t ht => ?_⟩
      · exact ⟨(hbounds t ht).1, Nat.le_trans (hbounds t ht).2 hle'⟩
      · exact ⟨Nat.le_trans hle (hbounds' t ht).1, (hbounds' t ht).2⟩

/-- No process is stopped while a plan is launched. -/
theorem Launching.not_stopped {env : Environment ε σ η} {timeout start index now later : Nat} {old new : RunState}
    {groups : List Group} {events : Events η} {started : List (Started η)} {outcome : Option (Except LaunchError Unit)}
    (h : Launching env timeout start index old groups now events started later new outcome) :
    instants isStopCall (own events) = [] := by
  induction h with
  | done index state now => rfl
  | stopped rest launch stopped =>
    rw [own_append, instants_append, launch.not_stopped]
    rfl
  | next launch others ih =>
    rw [own_append, own_append, instants_append, instants_append, launch.not_stopped, ih]
    rfl

section Driving

variable {env : Environment ε σ η} {options : RunOptions} {plan : Plan} {i : Option Interruption} {start built now : Nat}
  {events : Events η} {started : List (Started η)} {state : RunState} {failure : Option LaunchError} {interrupted : Bool}

/-- The offsets of the report are the instants of the launches from the start of the run on. -/
theorem Driving.launched_at (h : Driving env options plan i start built events started now state failure interrupted)
    (hbuilt : start ≤ built) :
    instants isLaunched (own events) = started.map (fun p => start + p.record.offset) ∧
      (instants isLaunched (own events)).Pairwise (· ≤ ·) := by
  rcases h.parts with ⟨e, rfl, rfl, -⟩ | ⟨launch, rest, later, last, outcome, rfl, hrest, launching, -⟩
  · exact ⟨rfl, .nil⟩
  · obtain ⟨hat, hsorted, -⟩ := launching.launched_at hbuilt
    obtain ⟨-, hnone, -⟩ := instants_of_ofRun (ofRun_own hrest)
    have hsame : instants isLaunched (own (buildEvents plan start built (.ok ()) ++ launch ++ rest)) =
        instants isLaunched (own launch) := by
      rw [own_append, own_append, instants_append, instants_append, hnone, List.append_nil]
      rfl
    rw [hsame]
    exact ⟨hat, hsorted⟩

theorem Driving.not_stopped (h : Driving env options plan i start built events started now state failure interrupted) :
    instants isStopCall (own events) = [] := by
  rcases h.parts with ⟨e, rfl, -⟩ | ⟨launch, rest, later, last, outcome, rfl, hrest, launching, -⟩
  · rfl
  · obtain ⟨-, -, hnone⟩ := instants_of_ofRun (ofRun_own hrest)
    rw [own_append, own_append, instants_append, instants_append, launching.not_stopped, hnone]
    rfl

end Driving

end StagedLaunch.Supervisor
