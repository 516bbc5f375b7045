import StagedLaunch.Machine.Launching
import StagedLaunch.Proofs.SideBySide

/-!
# Machines side by side

Two machines do the same with the processes of a run when every step does: asking for an exit, trying a check, sending a
signal, and letting time pass (`Machine.DoSame`). Then waiting for readiness and stopping a process end alike on both, and so
does the build when its commands do (`Machine.BuildSame`).
-/

namespace StagedLaunch

variable {σ τ : Type}

/-- Two machines do the same with some processes in states that are related. A signal is only sent to a process whose exit was
not seen. -/
structure Machine.DoSame (m : Machine σ) (m' : Machine τ) (P : Child → Prop) (S : Watched σ → Watched τ → Prop) : Prop where
  /-- The states stay related while time passes. -/
  elapse : KeptInTime m.elapseWatched m'.elapseWatched S
  /-- The same exits were seen. -/
  seen_eq : ∀ {c w w'}, P c → S w w' → c.seenExit? w' = c.seenExit? w
  /-- Asking for an exit has the same answer. -/
  poll_eq : ∀ {c w w'}, P c → S w w' → (c.poll m' w').1 = (c.poll m w).1
  /-- Asking for an exit leaves related states. -/
  poll : ∀ {c w w'}, P c → S w w' → S (c.poll m w).2 (c.poll m' w').2
  /-- A check passes on both or on none. -/
  passes_eq : ∀ {c w w'} (probe : Probe), P c → S w w' →
    probe.passes m' c.spec.output.stdout w'.machine = probe.passes m c.spec.output.stdout w.machine
  /-- A signal to a group leaves related states. -/
  signalGroup : ∀ {c w w'} (signal : Signal), P c → S w w' → c.seenExit? w = none →
    S { w with machine := m.signalGroup c.pid signal w.machine } { w' with machine := m'.signalGroup c.pid signal w'.machine }
  /-- A signal to a process succeeds on both or fails alike. -/
  signal_eq : ∀ {c w w'} (signal : Signal), P c → S w w' → c.seenExit? w = none →
    (m'.signal c.pid signal w'.machine).1 = (m.signal c.pid signal w.machine).1
  /-- A signal to a process leaves related states. -/
  signal : ∀ {c w w'} (signal : Signal), P c → S w w' → c.seenExit? w = none →
    S { w with machine := (m.signal c.pid signal w.machine).2 } { w' with machine := (m'.signal c.pid signal w'.machine).2 }

namespace Child

variable {m : Machine σ} {m' : Machine τ} {P : Child → Prop} {S : Watched σ → Watched τ → Prop} {c : Child}
  {cut : Option Nat} {now : Nat} {w : Watched σ} {w' : Watched τ}

theorem seenExit?_of_pid? {pid : Nat} (h : c.pid? w = some pid) : c.seenExit? w = none ∧ pid = c.pid := by
  unfold pid? at h
  split at h
  · cases h
  · rename_i hseen
    exact ⟨hseen, (Option.some.inj h).symm⟩

section Same

variable (hm : m.DoSame m' P S) (hc : P c)
include hm hc

theorem same_pid? (h : S w w') : c.pid? w' = c.pid? w := by
  simp only [pid?, hm.seen_eq hc h]

theorem same_isSettled (h : S w w') : c.isSettled m' w' = c.isSettled m w := by
  simp only [isSettled, hm.poll_eq hc h]

theorem same_exit? (h : S w w') :
    EndsAlike (fun _ => S) ((c.exit? m).run m.elapseWatched cut now w) ((c.exit? m').run m'.elapseWatched cut now w') := by
  refine .bind (.act (hm.poll_eq hc h) (hm.poll hc h)) (fun r later v v' hv => ?_) fun _ _ => id
  rcases r with e | status
  · exact .bind (.tell _ _ hv) (fun _ _ _ _ hv => .pure _ hv) fun _ _ => id
  · exact .pure _ hv

theorem same_ensureRunning (h : S w w') :
    EndsAlike (fun _ => S) ((c.ensureRunning m).run m.elapseWatched cut now w)
      ((c.ensureRunning m').run m'.elapseWatched cut now w') := by
  refine .bind (same_exit? hm hc h) (fun status later v v' hv => ?_) fun _ _ => id
  cases status with
  | some status => exact .pure _ hv
  | none => exact .pure _ hv

theorem same_awaitExit (ms : Nat) (h : S w w') :
    EndsAlike (fun _ => S) ((c.awaitExit m ms).run m.elapseWatched cut now w)
      ((c.awaitExit m' ms).run m'.elapseWatched cut now w') := by
  unfold awaitExit
  split
  · exact .pure _ h
  · exact .bind (.waitFor hm.elapse (fun _ _ _ => same_isSettled hm hc) ms h)
      (fun _ _ _ _ hv => .act (hm.poll_eq hc hv) (hm.poll hc hv)) fun _ _ => id

/-! ## Readiness -/

theorem same_grace (check : ReadyCheck) (h : S w w') :
    EndsAlike (fun _ => S) ((c.grace m check).run m.elapseWatched cut now w)
      ((c.grace m' check).run m'.elapseWatched cut now w') := by
  refine .bind (.pause hm.elapse _ h) (fun _ _ _ _ hv => ?_) fun _ _ => id
  refine .bind (same_ensureRunning hm hc hv) (fun r _ _ _ hv => ?_) fun _ _ => id
  rcases r with e | u
  · exact .pure _ hv
  · exact .bind (.tell _ _ hv) (fun _ _ _ _ hv => .pure _ hv) fun _ _ => id

theorem same_tryUntil (check : ReadyCheck) (probe : Probe) (timeout deadline tries : Nat) (h : S w w') :
    EndsAlike (fun _ => S) ((c.tryUntil m check probe timeout deadline tries).run m.elapseWatched cut now w)
      ((c.tryUntil m' check probe timeout deadline tries).run m'.elapseWatched cut now w') := by
  induction tries generalizing now w w' with
  | zero => exact .pure _ h
  | succ tries ih =>
    refine .bind (same_ensureRunning hm hc h) (fun r later v v' hv => ?_) fun _ _ => id
    rcases r with e | u
    · exact .pure _ hv
    · refine .bind (.look (congrArg (later, ·) (hm.passes_eq probe hc hv)) hv) (fun looked _ _ _ hv => ?_) fun _ _ => id
      obtain ⟨at', passed⟩ := looked
      dsimp only
      split
      · exact same_grace hm hc check hv
      · split
        · exact .pure _ hv
        · exact .bind (.pause hm.elapse _ hv) (fun _ _ _ _ hv => ih hv) fun _ _ => id

theorem same_waitReady (check : ReadyCheck) (timeout : Nat) (h : S w w') :
    EndsAlike (fun _ => S) ((c.waitReady m check timeout).run m.elapseWatched cut now w)
      ((c.waitReady m' check timeout).run m'.elapseWatched cut now w') := by
  cases check with
  | delay ms => exact .bind (.pause hm.elapse _ h) (fun _ _ _ _ hv => same_ensureRunning hm hc hv) fun _ _ => id
  | udpBound port => exact same_tryUntil hm hc _ _ _ _ _ h
  | tcp port => exact same_tryUntil hm hc _ _ _ _ _ h
  | log pattern =>
    simp only [waitReady]
    split
    · exact same_tryUntil hm hc _ _ _ _ _ h
    · exact .pure _ h

/-! ## Stopping -/

theorem same_signalGroup (signal : Signal) (h : S w w') :
    EndsAlike (fun _ => S) ((c.signalGroup m signal).run m.elapseWatched cut now w)
      ((c.signalGroup m' signal).run m'.elapseWatched cut now w') := by
  simp only [Child.signalGroup, Activity.run, same_pid? hm hc h]
  split
  · rename_i pid hpid
    obtain ⟨hseen, rfl⟩ := seenExit?_of_pid? hpid
    exact ⟨rfl, rfl, hm.signalGroup signal hc h hseen⟩
  · exact .pure _ h

theorem same_signal (signal : Signal) (h : S w w') :
    EndsAlike (fun _ => S) ((c.signal m signal).run m.elapseWatched cut now w)
      ((c.signal m' signal).run m'.elapseWatched cut now w') := by
  simp only [Child.signal, Activity.run, same_pid? hm hc h]
  split
  · rename_i pid hpid
    obtain ⟨hseen, rfl⟩ := seenExit?_of_pid? hpid
    exact ⟨congrArg some (hm.signal_eq signal hc h hseen), rfl, hm.signal signal hc h hseen⟩
  · exact .pure _ h

theorem same_announce (signal : StopSignal) (h : S w w') :
    EndsAlike (fun _ => S) ((c.announce signal).run m.elapseWatched cut now w)
      ((c.announce signal).run m'.elapseWatched cut now w') := by
  simp only [announce, Activity.run, same_pid? hm hc h]
  split
  · exact .tell _ _ h
  · exact .pure _ h

theorem same_stopStage (signal : StopSignal) (ms : Nat) (h : S w w') :
    EndsAlike (fun _ => S) ((c.stopStage m signal ms).run m.elapseWatched cut now w)
      ((c.stopStage m' signal ms).run m'.elapseWatched cut now w') := by
  refine .bind (same_announce hm hc signal h) (fun _ _ _ _ hv => ?_) fun _ _ => id
  refine .bind (same_signalGroup hm hc signal.signal hv) (fun _ _ _ _ hv => ?_) fun _ _ => id
  refine .bind (same_signal hm hc signal.signal hv) (fun _ _ _ _ hv => ?_) fun _ _ => id
  refine .bind (same_awaitExit hm hc ms hv) (fun r _ _ _ hv => ?_) fun _ _ => id
  rcases r with e | _ | status
  · exact .pure _ hv
  · exact .pure _ hv
  · exact .pure _ hv

theorem same_stopStages (stages : List (StopSignal × Nat)) (h : S w w') :
    EndsAlike (fun _ => S) ((c.stopStages m stages).run m.elapseWatched cut now w)
      ((c.stopStages m' stages).run m'.elapseWatched cut now w') := by
  induction stages generalizing now w w' with
  | nil => exact .pure _ h
  | cons stage stages ih =>
    refine .bind (same_stopStage hm hc stage.1 stage.2 h) (fun outcome _ _ _ hv => ?_) fun _ _ => id
    cases outcome with
    | some outcome => exact .pure _ hv
    | none => exact ih hv

theorem same_kill (h : S w w') :
    EndsAlike (fun _ => S) ((c.kill m).run m.elapseWatched cut now w) ((c.kill m').run m'.elapseWatched cut now w') := by
  refine .bind (same_signalGroup hm hc .kill h) (fun _ _ _ _ hv => ?_) fun _ _ => id
  refine .bind (same_signal hm hc .kill hv) (fun r _ _ _ hv => ?_) fun _ _ => id
  rcases r with e | u
  · exact .pure _ hv
  · refine .bind (same_awaitExit hm hc killWait hv) (fun r _ _ _ hv => ?_) fun _ _ => id
    rcases r with e | _ | status
    · exact .pure _ hv
    · exact .pure _ hv
    · exact .pure _ hv

theorem same_terminate (shutdown : Shutdown) (h : S w w') :
    EndsAlike (fun _ => S) ((c.terminate m shutdown).run m.elapseWatched cut now w)
      ((c.terminate m' shutdown).run m'.elapseWatched cut now w') := by
  refine .bind (same_exit? hm hc h) (fun status _ _ _ hv => ?_) fun _ _ => id
  cases status with
  | some status => exact .pure _ hv
  | none =>
    refine .bind (same_stopStages hm hc shutdown.stages hv) (fun outcome _ _ _ hv => ?_) fun _ _ => id
    cases outcome with
    | some outcome => exact .pure _ hv
    | none => exact same_kill hm hc hv

end Same

end Child

/-! ## Building -/

/-- The commands of a build. -/
def BuildStage.steps : BuildStage → List BuildStep
  | .commands steps => steps
  | .prebuilt => []

/-- Two machines run build commands alike and have the same executables. `S done` relates their states when the commands
`done` were run. -/
structure Machine.BuildSame (m : Machine σ) (m' : Machine τ) (S : List BuildStep → Watched σ → Watched τ → Prop) : Prop where
  /-- The states stay related while time passes. -/
  elapse : ∀ done, KeptInTime m.elapseWatched m'.elapseWatched (S done)
  /-- A command writes the same. -/
  output_eq : ∀ {done w w'} (step : BuildStep), S done w w' →
    (m'.command step w'.machine).output = (m.command step w.machine).output
  /-- A command takes the same time after its last output. -/
  rest_eq : ∀ {done w w'} (step : BuildStep), S done w w' →
    (m'.command step w'.machine).rest = (m.command step w.machine).rest
  /-- A command ends alike. -/
  result_eq : ∀ {done w w'} (step : BuildStep), S done w w' →
    (m'.command step w'.machine).result = (m.command step w.machine).result
  /-- A command leaves related states. -/
  command : ∀ {done w w'} (step : BuildStep), S done w w' →
    S (done ++ [step]) { w with machine := (m.command step w.machine).state }
      { w' with machine := (m'.command step w'.machine).state }
  /-- The same executables are there. -/
  verify_eq : ∀ {done w w'} (plan : Plan), S done w w' →
    (m'.files w'.machine).verify plan = (m.files w.machine).verify plan

namespace BuildStage

variable {m : Machine σ} {m' : Machine τ} {S : List BuildStep → Watched σ → Watched τ → Prop} {done : List BuildStep}
  {cut : Option Nat} {now : Nat} {w : Watched σ} {w' : Watched τ}

theorem same_follow (hm : m.BuildSame m' S) {r : CommandRun σ} {r' : CommandRun τ} (hrest : r'.rest = r.rest)
    (hresult : r'.result = r.result) (output : List (Nat × List UInt8)) (h : S done w w') :
    EndsAlike (fun _ => S done) ((follow r output).yielding.run m.elapseWatched cut now w)
      ((follow r' output).yielding.run m'.elapseWatched cut now w') := by
  induction output generalizing now w w' with
  | nil =>
    simp only [follow, hrest, hresult, Activity.yielding_bind, Activity.yielding_busy, Activity.yielding_pure]
    exact .bind (.pause (hm.elapse done) _ h) (fun _ _ _ _ hv => .pure _ hv) fun _ _ => id
  | cons piece output ih =>
    simp only [follow, Activity.yielding_bind, Activity.yielding_busy, Activity.yielding_tell]
    refine .bind (.pause (hm.elapse done) _ h) (fun _ _ _ _ hv => ?_) fun _ _ => id
    exact .bind (.tell _ _ hv) (fun _ _ _ _ hv => ih hv) fun _ _ => id

theorem same_runStep (hm : m.BuildSame m' S) (step : BuildStep) (h : S done w w') :
    EndsAlike (fun _ => S (done ++ [step])) ((runStep m step).yielding.run m.elapseWatched cut now w)
      ((runStep m' step).yielding.run m'.elapseWatched cut now w') := by
  have hact : (Activity.act fun _ w => (m.command step w.machine, { w with machine := (m.command step w.machine).state }) :
      MachineAct σ (CommandRun σ)).run m.elapseWatched cut now w =
    ⟨some (m.command step w.machine), now, { w with machine := (m.command step w.machine).state }, []⟩ := rfl
  have hact' : (Activity.act fun _ w => (m'.command step w.machine, { w with machine := (m'.command step w.machine).state }) :
      MachineAct τ (CommandRun τ)).run m'.elapseWatched cut now w' =
    ⟨some (m'.command step w'.machine), now, { w' with machine := (m'.command step w'.machine).state }, []⟩ := rfl
  simp only [runStep, logRecord, Activity.yielding_bind, Activity.yielding_tell, Activity.yielding_act,
    Activity.run_bind_some (Activity.run_tell _ now w), Activity.run_bind_some (Activity.run_tell _ now w'),
    Activity.run_bind_some hact, Activity.run_bind_some hact', hm.output_eq step h]
  refine (((EndsAlike.bind (same_follow hm (hm.rest_eq step h) (hm.result_eq step h) _ (hm.command step h))
    (fun r _ _ _ hv => ?_) fun _ _ => id).after _ _).after _ _).after _ _
  rcases r with e | status
  · exact .pure _ hv
  · dsimp only
    split
    · exact .bind (.tell _ _ hv) (fun _ _ _ _ hv => .pure _ hv) fun _ _ => id
    · exact .pure _ hv

/-- Build steps are run in order, and all of them when none fails. -/
theorem same_runSteps (hm : m.BuildSame m' S) (steps : List BuildStep) (h : S done w w') :
    EndsAlike (fun r v v' => ∃ ran, ran <+: steps ∧ (r = some (.ok ()) → ran = steps) ∧ S (done ++ ran) v v')
      ((runSteps m steps).yielding.run m.elapseWatched cut now w)
      ((runSteps m' steps).yielding.run m'.elapseWatched cut now w') := by
  induction steps generalizing done now w w' with
  | nil => exact ⟨rfl, rfl, [], List.prefix_refl _, fun _ => rfl, by rwa [List.append_nil]⟩
  | cons step steps ih =>
    have hfirst : [step] <+: step :: steps := List.prefix_append [step] steps
    simp only [runSteps, Activity.yielding_bind]
    refine .bind (same_runStep hm step h) (fun r later v v' hv => ?_) fun v v' hv => ⟨[step], hfirst, nofun, hv⟩
    rcases r with e | u
    · exact ⟨rfl, rfl, [step], hfirst, nofun, hv⟩
    · refine (ih hv).mono fun r v v' ⟨ran, hran, hall, hv⟩ => ⟨step :: ran, ?_, fun hr => by rw [hall hr], ?_⟩
      · exact List.prefix_cons_inj step |>.2 hran
      · rwa [List.append_assoc] at hv

/-- A build runs its steps in order, and all of them when it succeeds, up to where it is cut off. -/
theorem same_yielding (hm : m.BuildSame m' S) (stage : BuildStage) (plan : Plan) (cut : Option Nat) (now : Nat)
    (h : S [] w w') :
    EndsAlike (fun r v v' => ∃ ran, ran <+: stage.steps ∧ (r = some (.ok ()) → ran = stage.steps) ∧ S ran v v')
      ((stage.build m plan).yielding.run m.elapseWatched cut now w)
      ((stage.build m' plan).yielding.run m'.elapseWatched cut now w') := by
  cases stage with
  | prebuilt =>
    exact ⟨congrArg some (hm.verify_eq plan h), rfl, [], List.prefix_refl _, fun _ => rfl, h⟩
  | commands steps =>
    simp only [build, Activity.yielding_bind]
    refine .bind (same_runSteps hm steps h) (fun r later v v' ⟨ran, hran, hall, hv⟩ => ?_)
      fun v v' ⟨ran, hran, _, hv⟩ => ⟨ran, hran, nofun, hv⟩
    rw [List.nil_append] at hv
    rcases r with e | u
    · exact ⟨rfl, rfl, ran, hran, nofun, hv⟩
    · exact ⟨congrArg some (hm.verify_eq plan hv), rfl, ran, hran, fun _ => hall rfl, hv⟩

/-- A build that is not cut off does not yield. -/
theorem same_build (hm : m.BuildSame m' S) (stage : BuildStage) (plan : Plan) (h : S [] w w') :
    EndsAlike (fun r v v' => ∃ ran, ran <+: stage.steps ∧ (r = some (.ok ()) → ran = stage.steps) ∧ S ran v v')
      ((stage.build m plan).run m.elapseWatched none now w) ((stage.build m' plan).run m'.elapseWatched none now w') := by
  have hsame := same_yielding hm stage plan none now h
  rwa [Activity.run_yielding, Activity.run_yielding] at hsame

end BuildStage

/-! ## One machine -/

/-- What is done with some processes keeps what `I` says about a machine. -/
structure Machine.Keeps (m : Machine σ) (P : Child → Prop) (I : Watched σ → Prop) : Prop where
  /-- It is kept while time passes. -/
  elapse : ∀ {w} (now later : Nat), I w → I (m.elapseWatched now later w)
  /-- Asking for an exit keeps it. -/
  poll : ∀ {c w}, P c → I w → I (c.poll m w).2
  /-- A signal to a group keeps it. -/
  signalGroup : ∀ {c w} (signal : Signal), P c → I w → c.seenExit? w = none →
    I { w with machine := m.signalGroup c.pid signal w.machine }
  /-- A signal to a process keeps it. -/
  signal : ∀ {c w} (signal : Signal), P c → I w → c.seenExit? w = none →
    I { w with machine := (m.signal c.pid signal w.machine).2 }

namespace Machine.Keeps

variable {m : Machine σ} {P : Child → Prop} {I : Watched σ → Prop} {c : Child} {w : Watched σ}

theorem doSame (h : m.Keeps P I) : m.DoSame m P fun w w' => w' = w ∧ I w where
  elapse := by
    rintro now later w w' ⟨rfl, hw⟩
    exact ⟨rfl, h.elapse now later hw⟩
  seen_eq := by
    rintro c w w' - ⟨rfl, -⟩
    rfl
  poll_eq := by
    rintro c w w' - ⟨rfl, -⟩
    rfl
  poll := by
    rintro c w w' hc ⟨rfl, hw⟩
    exact ⟨rfl, h.poll hc hw⟩
  passes_eq := by
    rintro c w w' probe - ⟨rfl, -⟩
    rfl
  signalGroup := by
    rintro c w w' signal hc ⟨rfl, hw⟩ hseen
    exact ⟨rfl, h.signalGroup signal hc hw hseen⟩
  signal_eq := by
    rintro c w w' signal - ⟨rfl, -⟩ -
    rfl
  signal := by
    rintro c w w' signal hc ⟨rfl, hw⟩ hseen
    exact ⟨rfl, h.signal signal hc hw hseen⟩

theorem waitReady (h : m.Keeps P I) (hc : P c) (cut : Option Nat) (check : ReadyCheck) (timeout now : Nat) (hw : I w) :
    I ((c.waitReady m check timeout).run m.elapseWatched cut now w).state :=
  (Child.same_waitReady h.doSame hc check timeout ⟨rfl, hw⟩).state.2

theorem terminate (h : m.Keeps P I) (hc : P c) (shutdown : Shutdown) (now : Nat) (hw : I w) :
    I ((c.terminate m shutdown).run m.elapseWatched none now w).state :=
  (Child.same_terminate h.doSame hc shutdown ⟨rfl, hw⟩).state.2

end Machine.Keeps

/-- Build commands keep what `I` says about a machine on which some of them were run. -/
structure Machine.BuildKeeps (m : Machine σ) (I : List BuildStep → Watched σ → Prop) : Prop where
  /-- It is kept while time passes. -/
  elapse : ∀ {done w} (now later : Nat), I done w → I done (m.elapseWatched now later w)
  /-- A command keeps it. -/
  command : ∀ {done w} (step : BuildStep), I done w → I (done ++ [step]) { w with machine := (m.command step w.machine).state }

namespace Machine.BuildKeeps

variable {m : Machine σ} {I : List BuildStep → Watched σ → Prop} {w : Watched σ}

theorem buildSame (h : m.BuildKeeps I) : m.BuildSame m fun done w w' => w' = w ∧ I done w where
  elapse := by
    rintro done now later w w' ⟨rfl, hw⟩
    exact ⟨rfl, h.elapse now later hw⟩
  output_eq := by
    rintro done w w' step ⟨rfl, -⟩
    rfl
  rest_eq := by
    rintro done w w' step ⟨rfl, -⟩
    rfl
  result_eq := by
    rintro done w w' step ⟨rfl, -⟩
    rfl
  command := by
    rintro done w w' step ⟨rfl, hw⟩
    exact ⟨rfl, h.command step hw⟩
  verify_eq := by
    rintro done w w' plan ⟨rfl, -⟩
    rfl

theorem build (h : m.BuildKeeps I) (stage : BuildStage) (plan : Plan) (now : Nat) (hw : I [] w) :
    let r := (stage.build m plan).run m.elapseWatched none now w
    ∃ ran, ran <+: stage.steps ∧ (r.result = some (.ok ()) → ran = stage.steps) ∧ I ran r.state := by
  obtain ⟨ran, hran, hall, -, hv⟩ := (BuildStage.same_build h.buildSame stage plan ⟨rfl, hw⟩).state
  exact ⟨ran, hran, hall, hv⟩

/-- Wherever a build is cut off, it has run the first of its steps. -/
theorem yielding (h : m.BuildKeeps I) (stage : BuildStage) (plan : Plan) (cut : Option Nat) (now : Nat) (hw : I [] w) :
    ∃ ran, ran <+: stage.steps ∧ I ran ((stage.build m plan).yielding.run m.elapseWatched cut now w).state := by
  obtain ⟨ran, hran, -, -, hv⟩ := (BuildStage.same_yielding h.buildSame stage plan cut now ⟨rfl, hw⟩).state
  exact ⟨ran, hran, hv⟩

end Machine.BuildKeeps

end StagedLaunch
