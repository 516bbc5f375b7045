import StagedLaunch.Proofs.Activity
import StagedLaunch.Supervisor.Basic

/-!
# The calls of a run

`Environment.recording` is an environment that does what another does and tells, instead of what that tells, each call with
the process that it is about. Statements about the calls of a run are about its run in the recording environment, `calls`.
`run_recording` says that recording changes nothing else: the report, the failure, the instant of the end, the state and the
notices of the run itself are the same.
-/

namespace StagedLaunch

variable {ε ε' κ σ η α β : Type}

/-- An activity between a call and its answer, which it tells instead of what it told. -/
def Activity.recorded (m : Activity ε σ α) (call : κ) (answer : α → κ) : Activity κ σ α := do
  Activity.tell call
  let a ← m.silent
  Activity.tell (answer a)
  return a

/-- The recorded activity runs as before; its answer is told when there is one. -/
theorem Activity.run_recorded (elapse : Nat → Nat → σ → σ) (cut : Option Nat) (m : Activity ε σ α) (call : κ)
    (answer : α → κ) (now : Nat) (s : σ) :
    (m.recorded call answer).run elapse cut now s =
      ⟨(m.run elapse cut now s).result, (m.run elapse cut now s).now, (m.run elapse cut now s).state,
        (now, call) ::
          ((m.run elapse cut now s).result.toList.map fun a => ((m.run elapse cut now s).now, answer a))⟩ := by
  have ht : (Activity.tell call).run elapse cut now s = ⟨some (), now, s, [(now, call)]⟩ := rfl
  have hs : (m.silent : Activity κ σ α).run elapse cut now s = _ := run_silent m now s
  rw [recorded, run_bind_some ht]
  cases hr : (m.run elapse cut now s).result with
  | some a =>
    rw [hr] at hs
    rw [run_bind_some hs]
    rfl
  | none =>
    rw [hr] at hs
    rw [run_bind_none hs]
    rfl

namespace Supervisor

/-- A call that a run makes of what it works with, or the answer to one. A launch has its answer at once. -/
inductive Call (η : Type) where
  /-- The build is called. -/
  | build (plan : Plan)
  /-- The build answers. -/
  | built (result : Except LaunchError Unit)
  /-- A launch is called and answers. -/
  | launch (spec : LaunchSpec) (result : Except LaunchError η)
  /-- A process is asked for its readiness. -/
  | await (process : η) (check : ReadyCheck) (timeout : Nat)
  /-- A readiness check answers. -/
  | awaited (process : η) (result : Except LaunchError Unit)
  /-- A process is to stop. -/
  | stop (process : η) (shutdown : Shutdown)
  /-- Stopping a process has come to an end. -/
  | stopped (process : η) (outcome : StopOutcome)

end Supervisor

open Supervisor (Call)

/-- The environment that does the same and tells its calls. -/
def Environment.recording (env : Environment ε σ η) : Environment (Call η) σ η where
  elapse := env.elapse
  build plan := (env.build plan).recorded (.build plan) .built
  launch spec now s :=
    ⟨[.launch spec (env.launch spec now s).result], (env.launch spec now s).took, (env.launch spec now s).state,
      (env.launch spec now s).result⟩
  name := env.name
  pid := env.pid
  waitReady h check timeout := (env.waitReady h check timeout).recorded (.await h check timeout) (.awaited h)
  terminate h shutdown := (env.terminate h shutdown).recorded (.stop h shutdown) (.stopped h)

/-- A notice of the run itself, apart from what its surroundings tell. -/
def Notice.own? : Notice ε → Option (Notice Empty)
  | .state old new => some (.state old new)
  | .building => some .building
  | .built result => some (.built result)
  | .announced label => some (.announced label)
  | .launching spec => some (.launching spec)
  | .launched spec result => some (.launched spec result)
  | .awaiting spec check timeout => some (.awaiting spec check timeout)
  | .ready spec result => some (.ready spec result)
  | .settling label ms => some (.settling label ms)
  | .running processes ms => some (.running processes ms)
  | .windowOver => some .windowOver
  | .signalled signal => some (.signalled signal)
  | .stoppedEarly => some .stoppedEarly
  | .failed e => some (.failed e)
  | .terminating name shutdown => some (.terminating name shutdown)
  | .terminated name outcome => some (.terminated name outcome)
  | .told _ => none

/-- What the surroundings tell. -/
def Notice.told? : Notice ε → Option ε
  | .told e => some e
  | _ => none

namespace Supervisor

/-- The notices of a run itself with their instants. -/
def own (events : List (Nat × Notice ε)) : List (Nat × Notice Empty) :=
  events.filterMap fun e => e.2.own?.map fun n => (e.1, n)

/-- What the surroundings of a run tell. -/
def told (events : List (Nat × Notice ε)) : List ε := events.filterMap fun e => e.2.told?

/-- The calls of a run, in order. -/
def calls (env : Environment ε σ η) (options : RunOptions) (plan : Plan) (interrupt : Nat → Option Interruption)
    (start : Nat) (world : σ) : List (Call η) :=
  told (run env.recording options plan interrupt start world).events

@[simp] theorem own_append (a b : List (Nat × Notice ε)) : own (a ++ b) = own a ++ own b := List.filterMap_append

@[simp] theorem told_append (a b : List (Nat × Notice ε)) : told (a ++ b) = told a ++ told b := List.filterMap_append

/-- What the surroundings tell is none of the notices of the run itself. -/
@[simp] theorem own_map_told (events : List (Nat × ε)) : own (events.map fun e => (e.1, Notice.told e.2)) = [] := by
  induction events with
  | nil => rfl
  | cons e events ih => exact ih

/-! ## What a run works with, within a run -/

theorem passUntil_onWorld (env : Environment ε σ η) (ready : Nat → σ → Bool) (ms now : Nat) (s : Session σ η) :
    Activity.passUntil (elapse env) (fun now t => ready now t.world) ms now s =
      ((Activity.passUntil env.elapse ready ms now s.world).1,
        { s with world := (Activity.passUntil env.elapse ready ms now s.world).2 }) := by
  induction ms generalizing now s with
  | zero => rfl
  | succ ms ih =>
    simp only [Activity.passUntil]
    split
    · rfl
    · exact ih _ _

/-- An activity of what a run works with leaves what the run keeps of its own. -/
theorem run_onWorld (env : Environment ε σ η) (cut : Option Nat) (m : Activity ε' σ α) (now : Nat) (s : Session σ η) :
    (onWorld m).run (elapse env) cut now s =
      ⟨(m.run env.elapse cut now s.world).result, (m.run env.elapse cut now s.world).now,
        { s with world := (m.run env.elapse cut now s.world).state },
        (m.run env.elapse cut now s.world).events.map fun e => (e.1, .told e.2)⟩ := by
  induction m generalizing now s with
  | done a => rfl
  | emit e next ih =>
    have := ih now s
    simp only [onWorld, Activity.onPart, Activity.run] at this ⊢
    rw [this]
    rfl
  | read next ih => exact ih now s.world now s
  | write w next ih => exact ih now { s with world := w }
  | work ms next ih => exact ih _ _
  | sleep ms next ih =>
    simp only [onWorld, Activity.onPart, Activity.run]
    split
    · rfl
    · exact ih _ _
  | await ms ready next ih =>
    simp only [onWorld, Activity.onPart, Activity.run, passUntil_onWorld]
    split
    · split
      · exact ih _ _
      · rfl
    · exact ih _ _

/-- The call and the answer of a recorded activity are told at its ends. -/
theorem run_onWorld_recorded {env : Environment ε σ η} {cut : Option Nat} {m : Activity ε σ α} {now later : Nat}
    {s : Session σ η} {r : Option α} {world : σ} {events : List (Nat × ε)} (call : Call η) (answer : α → Call η)
    (h : m.run env.elapse cut now s.world = ⟨r, later, world, events⟩) :
    (onWorld (m.recorded call answer)).run (elapse env) cut now s =
      ⟨r, later, { s with world := world }, (now, .told call) :: (r.toList.map fun a => (later, .told (answer a)))⟩ := by
  rw [run_onWorld, Activity.run_recorded, h]
  cases r with
  | none => rfl
  | some a => rfl

/-! ## Recording changes nothing -/

/-- What a run of a part is apart from what its surroundings tell. -/
def outline (r : Run (Notice ε) (Session σ η) α) : Run (Notice Empty) (Session σ η) α :=
  ⟨r.result, r.now, r.state, own r.events⟩

/-- Two parts of a run do the same, apart from what their surroundings tell. -/
def Alike (env : Environment ε σ η) (m : Act ε σ η α) (m' : Act ε' σ η α) : Prop :=
  ∀ cut now s, outline (m.run (elapse env) cut now s) = outline (m'.run (elapse env) cut now s)

namespace Alike

variable {env : Environment ε σ η}

theorem pure (a : α) : Alike env (Pure.pure a) (Pure.pure a : Act ε' σ η α) := fun _ _ _ => rfl

theorem read {f : Nat → Session σ η → Act ε σ η α} {f' : Nat → Session σ η → Act ε' σ η α}
    (h : ∀ now s, Alike env (f now s) (f' now s)) : Alike env (.read f) (.read f') :=
  fun cut now s => h now s cut now s

theorem write (t : Session σ η) {m : Act ε σ η α} {m' : Act ε' σ η α} (h : Alike env m m') :
    Alike env (.write t m) (.write t m') :=
  fun cut now _ => h cut now t

theorem emit {n : Notice ε} {n' : Notice ε'} (hn : n.own? = n'.own?) {m : Act ε σ η α} {m' : Act ε' σ η α}
    (h : Alike env m m') : Alike env (.emit n m) (.emit n' m') := by
  intro cut now s
  have hr := h cut now s
  simp only [outline, Run.mk.injEq] at hr ⊢
  simp only [Activity.run, own, List.filterMap_cons, hn]
  refine ⟨hr.1, hr.2.1, hr.2.2.1, ?_⟩
  have he := hr.2.2.2
  simp only [own] at he
  rw [he]

theorem tell {n : Notice ε} {n' : Notice ε'} (hn : n.own? = n'.own?) :
    Alike env (Activity.tell n) (Activity.tell n' : Act ε' σ η Unit) :=
  emit hn (pure ())

theorem tellAll (events : List ε) (events' : List ε') :
    Alike env (Activity.tellAll (events.map Notice.told)) (Activity.tellAll (events'.map Notice.told)) := by
  have h : ∀ {κ : Type} (l : List κ) (cut : Option Nat) (now : Nat) (s : Session σ η),
      outline ((Activity.tellAll (l.map Notice.told) : Act κ σ η Unit).run (elapse env) cut now s) =
        ⟨some (), now, s, []⟩ := by
    intro κ l cut now s
    induction l with
    | nil => rfl
    | cons e l ih => exact ih
  intro cut now s
  rw [h, h]

theorem bind {m : Act ε σ η α} {m' : Act ε' σ η α} {f : α → Act ε σ η β} {f' : α → Act ε' σ η β}
    (h : Alike env m m') (hf : ∀ a, Alike env (f a) (f' a)) : Alike env (m >>= f) (m' >>= f') := by
  intro cut now s
  have hr := h cut now s
  rcases hm : m.run (elapse env) cut now s with ⟨r, later, t, ev⟩
  rcases hm' : m'.run (elapse env) cut now s with ⟨r', later', t', ev'⟩
  rw [hm, hm'] at hr
  simp only [outline, Run.mk.injEq] at hr
  obtain ⟨rfl, rfl, rfl, hev⟩ := hr
  cases r with
  | none =>
    rw [Activity.run_bind_none hm, Activity.run_bind_none hm']
    simp only [outline, hev]
  | some a =>
    rw [Activity.run_bind_some hm, Activity.run_bind_some hm']
    have ha := hf a cut later t
    simp only [outline, Run.mk.injEq] at ha
    simp only [outline, Run.after_result, Run.after_now, Run.after_state, Run.after_events, own_append, hev, ha]

/-- What the surroundings do is the same however they tell of it. -/
theorem onWorld {m : Activity ε σ α} {m' : Activity ε' σ α}
    (h : ∀ cut now w, (m.run env.elapse cut now w).result = (m'.run env.elapse cut now w).result ∧
      (m.run env.elapse cut now w).now = (m'.run env.elapse cut now w).now ∧
      (m.run env.elapse cut now w).state = (m'.run env.elapse cut now w).state) :
    Alike env (Supervisor.onWorld m) (Supervisor.onWorld m') := by
  intro cut now s
  obtain ⟨h1, h2, h3⟩ := h cut now s.world
  simp only [run_onWorld, outline, own_map_told, h1, h2, h3]

theorem recorded (m : Activity ε σ α) (call : Call η) (answer : α → Call η) :
    Alike env (Supervisor.onWorld m) (Supervisor.onWorld (m.recorded call answer)) :=
  onWorld fun cut now w => by simp only [Activity.run_recorded, and_self]

theorem setState (new : RunState) : Alike env (setState new) (Supervisor.setState new : Act ε' σ η Unit) :=
  read fun _ _ => emit rfl (write _ (pure ()))

theorem look (f : Nat → Session σ η → α) : Alike env (Activity.look f) (Activity.look f : Act ε' σ η α) :=
  read fun _ _ => pure _

theorem change (f : Nat → Session σ η → Session σ η) :
    Alike env (Activity.change f) (Activity.change f : Act ε' σ η Unit) :=
  read fun _ _ => write _ (pure ())

theorem pause (ms : Nat) : Alike env (Activity.pause ms) (Activity.pause ms : Act ε' σ η Unit) := by
  intro cut now s
  simp only [Activity.pause, Activity.run]
  split
  · rfl
  · rfl

theorem busy (ms : Nat) : Alike env (Activity.busy ms) (Activity.busy ms : Act ε' σ η Unit) := fun _ _ _ => rfl

end Alike

variable (env : Environment ε σ η)

theorem build_alike (plan : Plan) : Alike env (build env plan) (build env.recording plan) :=
  (Alike.setState _).bind fun _ => (Alike.tell (by rfl)).bind fun _ => (Alike.recorded _ _ _).bind fun _ =>
    (Alike.tell (by rfl)).bind fun _ => Alike.pure _

theorem launchOne_alike (start : Nat) (spec : LaunchSpec) :
    Alike env (launchOne env start spec) (launchOne env.recording start spec) := by
  refine .emit (by rfl) (.read fun now s => .write _ ?_)
  refine (Alike.tellAll _ [_]).bind fun _ => (Alike.busy _).bind fun _ => ?_
  simp only [Environment.recording]
  cases (env.launch spec now s.world).result with
  | error e => exact (Alike.tell (by rfl)).bind fun _ => .pure _
  | ok h =>
    exact (Alike.look _).bind fun _ => (Alike.change _).bind fun _ => (Alike.tell (by rfl)).bind fun _ => .pure _

theorem launchAll_alike (start : Nat) (specs : List LaunchSpec) :
    Alike env (launchAll env start specs) (launchAll env.recording start specs) := by
  induction specs with
  | nil => exact .pure _
  | cons spec specs ih =>
    refine (launchOne_alike env start spec).bind fun r => ?_
    cases r with
    | error e => exact .pure _
    | ok h =>
      refine ih.bind fun r => ?_
      cases r with
      | error e => exact .pure _
      | ok more => exact .pure _

theorem awaitAll_alike (timeout : Nat) (launched : List (LaunchSpec × η)) :
    Alike env (awaitAll env timeout launched) (awaitAll env.recording timeout launched) := by
  induction launched with
  | nil => exact .pure _
  | cons p launched ih =>
    obtain ⟨spec, h⟩ := p
    simp only [awaitAll]
    cases spec.ready with
    | none => exact ih
    | some check =>
      refine (Alike.tell (by rfl)).bind fun _ => (Alike.recorded _ _ _).bind fun r => (Alike.tell (by rfl)).bind fun _ => ?_
      cases r with
      | error e => exact .pure _
      | ok u => exact ih

theorem settle_alike (group : Group) (spawned : Nat) :
    Alike env (settle group spawned) (settle group spawned : Act (Call η) σ η Unit) := by
  refine .read fun now s => ?_
  dsimp only
  split
  · exact .pure _
  · exact .emit (by rfl) (.pause _)

theorem launchGroup_alike (options : RunOptions) (start index : Nat) (group : Group) :
    Alike env (launchGroup env options start index group) (launchGroup env.recording options start index group) := by
  refine (Alike.setState _).bind fun _ => (Alike.tell (by rfl)).bind fun _ =>
    (launchAll_alike env start group.specs).bind fun r => ?_
  cases r with
  | error e => exact .pure _
  | ok launched =>
    refine (Alike.look _).bind fun spawned => (awaitAll_alike env options.readyTimeout launched).bind fun r => ?_
    cases r with
    | error e => exact .pure _
    | ok u => exact (settle_alike env group spawned).bind fun _ => .pure _

theorem launchGroups_alike (options : RunOptions) (start index : Nat) (groups : List Group) :
    Alike env (launchGroups env options start index groups) (launchGroups env.recording options start index groups) := by
  induction groups generalizing index with
  | nil => exact .pure _
  | cons group groups ih =>
    refine (launchGroup_alike env options start index group).bind fun r => ?_
    cases r with
    | error e => exact .pure _
    | ok u => exact ih (index + 1)

theorem window_alike (options : RunOptions) (plan : Plan) :
    Alike env (window options plan) (window options plan : Act (Call η) σ η Unit) :=
  ((Alike.setState _).bind fun _ => .tell (by rfl)).bind fun _ =>
    (Alike.pause _).bind fun _ => .tell (by rfl)

theorem stopAll_alike (shutdown : Shutdown) (started : List (Started η)) :
    Alike env (stopAll env shutdown started) (stopAll env.recording shutdown started) := by
  induction started with
  | nil => exact .pure _
  | cons p started ih =>
    exact (Alike.tell (by rfl)).bind fun _ => (Alike.recorded _ _ _).bind fun _ => (Alike.tell (by rfl)).bind fun _ =>
      ih.bind fun _ => .pure _

theorem finish_alike (options : RunOptions) (failure : Option LaunchError) :
    Alike env (finish env options failure) (finish env.recording options failure) := by
  have h : Alike env (teardown env options.shutdown) (teardown env.recording options.shutdown) :=
    .read fun _ s => (Alike.setState _).bind fun _ => stopAll_alike env options.shutdown s.started
  cases failure with
  | none => exact h.bind fun _ => (Alike.setState _).bind fun _ => .pure _
  | some e => exact (Alike.tell (by rfl)).bind fun _ => h.bind fun _ => (Alike.setState _).bind fun _ => .pure _

/-- What has become of a run before its processes are stopped, apart from what its surroundings tell. -/
def Drive.outline (d : Drive ε σ η) : Drive Empty σ η := ⟨d.failure, d.interrupted, d.now, d.session, own d.events⟩

theorem own_interruptEvents (ε ε' : Type) (now : Nat) (i : Option Interruption) :
    own (interruptEvents now i : List (Nat × Notice ε)) = own (interruptEvents now i : List (Nat × Notice ε')) := by
  simp only [interruptEvents]
  split
  · rfl
  · rfl

theorem driveWindow_alike (options : RunOptions) (plan : Plan) (i : Option Interruption) (now : Nat) (s : Session σ η) :
    (driveWindow env options plan i now s).outline = (driveWindow env.recording options plan i now s).outline := by
  have h := window_alike env options plan (i.map Interruption.instant) now s
  simp only [Supervisor.outline, Run.mk.injEq] at h
  obtain ⟨hr, hn, hs, he⟩ := h
  have helapse : elapse env.recording = elapse env := rfl
  simp only [driveWindow, helapse, hr]
  split
  · simp only [Drive.outline, hn, hs, he]
  · simp only [Drive.outline, own_append, hn, hs, he, own_interruptEvents ε (Call η)]
    rfl

theorem driveLaunch_alike (options : RunOptions) (plan : Plan) (i : Option Interruption) (start now : Nat)
    (s : Session σ η) :
    (driveLaunch env options plan i start now s).outline =
      (driveLaunch env.recording options plan i start now s).outline := by
  have h := launchGroups_alike env options start 0 plan.groups (i.map Interruption.instant) now s
  simp only [Supervisor.outline, Run.mk.injEq] at h
  obtain ⟨hr, hn, hs, he⟩ := h
  have helapse : elapse env.recording = elapse env := rfl
  simp only [driveLaunch, helapse, ← hr, ← hn, ← hs]
  split
  · simp only [Drive.outline, own_append, he, own_interruptEvents ε (Call η)]
  · simp only [Drive.outline, he]
  · have hw := driveWindow_alike env options plan i
      ((launchGroups env options start 0 plan.groups).run (elapse env) (i.map Interruption.instant) now s).now
      ((launchGroups env options start 0 plan.groups).run (elapse env) (i.map Interruption.instant) now s).state
    simp only [Drive.outline, Drive.mk.injEq] at hw ⊢
    simp only [own_append, hw, he, and_self]

theorem drive_alike (options : RunOptions) (plan : Plan) (interrupt : Nat → Option Interruption) (start : Nat) (world : σ) :
    (drive env options plan interrupt start world).outline =
      (drive env.recording options plan interrupt start world).outline := by
  have h := build_alike env plan none start ⟨world, .idle, []⟩
  simp only [Supervisor.outline, Run.mk.injEq] at h
  obtain ⟨hr, hn, hs, he⟩ := h
  have helapse : elapse env.recording = elapse env := rfl
  simp only [drive, helapse, ← hr, ← hn, ← hs]
  split
  · simp only [Drive.outline, he]
  · simp only [Drive.outline, he]
  · have hl := driveLaunch_alike env options plan
      (interrupt ((build env plan).run (elapse env) none start ⟨world, .idle, []⟩).now) start
      ((build env plan).run (elapse env) none start ⟨world, .idle, []⟩).now
      ((build env plan).run (elapse env) none start ⟨world, .idle, []⟩).state
    simp only [Drive.outline, Drive.mk.injEq] at hl ⊢
    simp only [own_append, hl, he, and_self]

/-- Recording the calls of a run changes nothing of it but what its surroundings tell. -/
theorem run_recording (options : RunOptions) (plan : Plan) (interrupt : Nat → Option Interruption) (start : Nat)
    (world : σ) :
    let f := run env options plan interrupt start world
    let f' := run env.recording options plan interrupt start world
    f'.report = f.report ∧ f'.failure = f.failure ∧ f'.now = f.now ∧ f'.world = f.world ∧ own f'.events = own f.events := by
  have hd := drive_alike env options plan interrupt start world
  simp only [Drive.outline, Drive.mk.injEq] at hd
  obtain ⟨hf, hi, hn, hs, he⟩ := hd
  have h := finish_alike env options (drive env options plan interrupt start world).failure none
    (drive env options plan interrupt start world).now (drive env options plan interrupt start world).session
  simp only [outline, Run.mk.injEq] at h
  obtain ⟨hr, hn', hs', he'⟩ := h
  have helapse : elapse env.recording = elapse env := rfl
  simp only [run, helapse, ← hf, ← hi, ← hn, ← hs, ← hr, ← hn', ← hs', own_append, he, he', and_self]

end Supervisor

end StagedLaunch
