import Mathlib.Algebra.Ring.Nat
import StagedLaunch.Proofs.Machine.Child

/-!
# Stopping a process

A process is stopped stage by stage. A stage is come to when all stages before it have taken their whole time without an
answer (`ComesTo`); then its signal is sent, first to the group and then to the process, and the exit is waited for. How the
process is said to have ended follows from where that ends (`StagesEnd`): `terminate_escalates` says that for every machine.
-/

namespace StagedLaunch

namespace Shutdown

/-- The signals by which a process is to be stopped: those of the stages that have any time, and the one that kills. -/
def signals (s : Shutdown) : List Signal :=
  (if 0 < s.interruptMs then [.interrupt] else []) ++ (if 0 < s.terminateMs then [.terminate] else []) ++ [.kill]

/-- The time that is configured for a signal. -/
def time (s : Shutdown) : StopSignal → Nat
  | .interrupt => s.interruptMs.toNat
  | .terminate => s.terminateMs.toNat

/-- The time after which a signal is due: the interrupt comes first, and the signal to terminate when that has had its time. -/
def delay (s : Shutdown) : StopSignal → Nat
  | .interrupt => 0
  | .terminate => s.interruptMs.toNat

/-- The signals that have any time, each with the time that is configured for it. -/
def requests (s : Shutdown) : List (StopSignal × Nat) :=
  (if 0 < s.interruptMs then [(.interrupt, s.time .interrupt)] else []) ++
    if 0 < s.terminateMs then [(.terminate, s.time .terminate)] else []

variable {shutdown : Shutdown}

/-- The stages of a shutdown are its requests. -/
theorem stages_eq (shutdown : Shutdown) : shutdown.stages = shutdown.requests := by
  unfold stages requests
  simp only [UInt64.lt_iff_toNat_lt, UInt64.toNat_zero, List.filter_cons, List.filter_nil, gt_iff_lt, decide_eq_true_eq, time]
  split
  · rfl
  · rfl

/-- Every stage of a shutdown has some time. -/
theorem stages_pos (shutdown : Shutdown) : ∀ stage ∈ shutdown.stages, 0 < stage.2 := by
  intro stage hstage
  exact of_decide_eq_true (List.mem_filter.1 hstage).2

/-- The signals of a shutdown are those of its requests, and the one that kills. -/
theorem signals_eq (shutdown : Shutdown) :
    shutdown.signals = shutdown.requests.map (fun request => request.1.signal) ++ [.kill] := by
  unfold signals requests
  split
  · split
    · rfl
    · rfl
  · split
    · rfl
    · rfl

/-- The requests take the time that is configured. -/
theorem sum_requests (shutdown : Shutdown) :
    (shutdown.requests.map Prod.snd).sum = shutdown.time .interrupt + shutdown.time .terminate := by
  unfold requests
  simp only [UInt64.lt_iff_toNat_lt, UInt64.toNat_zero, time]
  split
  · split
    · simp
    · simp
      omega
  · split
    · simp
      omega
    · simp
      omega

/-- Every request has the time that is configured for it, and those before it take the time after which it is due. -/
theorem time_of_split {passed rest : List (StopSignal × Nat)} {signal : StopSignal} {ms : Nat}
    (h : shutdown.requests = passed ++ (signal, ms) :: rest) :
    ms = shutdown.time signal ∧ (passed.map Prod.snd).sum = shutdown.delay signal := by
  have hzero : ¬0 < shutdown.interruptMs → shutdown.interruptMs.toNat = 0 := fun hno => by
    rw [UInt64.lt_iff_toNat_lt, UInt64.toNat_zero] at hno
    omega
  unfold requests at h
  rcases passed with _ | ⟨first, _ | ⟨second, passed⟩⟩
  · -- the first request is the interrupt, unless that has no time
    split at h
    · cases h
      exact ⟨rfl, rfl⟩
    · split at h
      · rename_i hi _
        cases h
        exact ⟨rfl, (hzero hi).symm⟩
      · cases h
  · split at h
    · split at h
      · cases h
        exact ⟨rfl, rfl⟩
      · cases h
    · split at h
      · cases h
      · cases h
  · have hlength := congrArg List.length h
    split at hlength
    · split at hlength
      · simp at hlength
      · simp at hlength
    · split at hlength
      · simp at hlength
      · simp at hlength

end Shutdown

namespace Child

variable {σ : Type} (m : Machine σ) (c : Child)

/-! ## Where stopping a process comes to -/

/-- A signal is sent to the group of a process and then to the process: the answer to the second, and what is left. -/
def sent (signal : Signal) (w : Watched σ) : Except OsError Unit × Watched σ :=
  let r := m.signal c.pid signal (m.signalGroup c.pid signal w.machine)
  (r.1, { w with machine := r.2 })

/-- From one stage on, stopping a process comes to another: the stages between them take their whole time, in which nothing
is learned about the exit. A stage is given with those after it, the instant at which it begins, and what is there then. -/
inductive ComesTo : List (StopSignal × Nat) → Nat → Watched σ → List (StopSignal × Nat) → Nat → Watched σ → Prop where
  | here (stages : List (StopSignal × Nat)) (now : Nat) (w : Watched σ) : ComesTo stages now w stages now w
  | expired {signal : StopSignal} {ms now later : Nat} {w w' : Watched σ} {stages rest : List (StopSignal × Nat)}
      (expires : c.Expires m ms now (c.sent m signal.signal w).2)
      (more : ComesTo stages (now + ms) (c.askedAfter m ms now (c.sent m signal.signal w).2) rest later w') :
      ComesTo ((signal, ms) :: stages) now w rest later w'

/-- Where the stages of a shutdown end, and with what: in the wait of one of them, or after all of them with the kill. -/
inductive StagesEnd (stages : List (StopSignal × Nat)) (now : Nat) (w : Watched σ) : StopOutcome → Prop where
  | stopped {signal : StopSignal} {ms later : Nat} {rest : List (StopSignal × Nat)} {w' : Watched σ}
      (comes : c.ComesTo m stages now w ((signal, ms) :: rest) later w')
      (exit : c.SeesExit m ms later (c.sent m signal.signal w').2) : StagesEnd stages now w (.stopped signal)
  | waitFailed {signal : StopSignal} {ms later : Nat} {rest : List (StopSignal × Nat)} {w' : Watched σ} {e : OsError}
      (comes : c.ComesTo m stages now w ((signal, ms) :: rest) later w')
      (fails : c.WaitFails m ms later (c.sent m signal.signal w').2 e) : StagesEnd stages now w (.failed e.message)
  | notKilled {later : Nat} {w' : Watched σ} {e : OsError} (comes : c.ComesTo m stages now w [] later w')
      (refused : (c.sent m .kill w').1 = .error e) : StagesEnd stages now w (.failed e.message)
  | killed {later : Nat} {w' : Watched σ} (comes : c.ComesTo m stages now w [] later w')
      (accepted : (c.sent m .kill w').1 = .ok ()) (exit : c.SeesExit m killWait later (c.sent m .kill w').2) :
      StagesEnd stages now w .killed
  | killFailed {later : Nat} {w' : Watched σ} {e : OsError} (comes : c.ComesTo m stages now w [] later w')
      (accepted : (c.sent m .kill w').1 = .ok ()) (fails : c.WaitFails m killWait later (c.sent m .kill w').2 e) :
      StagesEnd stages now w (.failed e.message)
  | survived {later : Nat} {w' : Watched σ} (comes : c.ComesTo m stages now w [] later w')
      (accepted : (c.sent m .kill w').1 = .ok ()) (expires : c.Expires m killWait later (c.sent m .kill w').2) :
      StagesEnd stages now w (.failed "still running 500ms after kill")

/-! ## Signals -/

/-- A signal is sent. -/
def isSignal : MachineNotice → Bool
  | .signalledGroup _ _ => true
  | .signalled _ _ => true
  | _ => false

/-- The signals that were sent, with their instants. -/
def signalEvents (events : List (Nat × MachineNotice)) : List (Nat × MachineNotice) := events.filter fun e => isSignal e.2

@[simp] theorem signalEvents_append (a b : List (Nat × MachineNotice)) :
    signalEvents (a ++ b) = signalEvents a ++ signalEvents b := List.filter_append ..

/-- What is logged sends no signal. -/
theorem signalEvents_logged (now : Nat) (records : List Record) :
    signalEvents (records.map fun r => (now, .logged r)) = [] := by
  simp [signalEvents, isSignal]

/-- What is told when a signal is sent to the group of a process and then to the process. -/
def orderEvents (now : Nat) (signal : Signal) : List (Nat × MachineNotice) :=
  [(now, .signalledGroup c.pid signal), (now, .signalled c.pid signal)]

/-- What is told of a stage. -/
def stageEvents (now : Nat) (signal : StopSignal) : List (Nat × MachineNotice) :=
  (now, .logged ⟨.debug, "sending signal",
    [("process", .text c.spec.name), ("pid", .number c.pid), ("signal", .quoted signal.label)]⟩) ::
      c.orderEvents now signal.signal

/-- The outcome of a stage, if it has one. -/
def stageOutcome (signal : StopSignal) : Except OsError (Option ExitStatus) → Option StopOutcome
  | .ok (some _) => some (.stopped signal)
  | .ok none => none
  | .error e => some (.failed e.message)

/-- A stage in which there was something to learn has an outcome. -/
theorem exists_stageOutcome (signal : StopSignal) {answer : Except OsError (Option ExitStatus)} (h : answer ≠ .ok none) :
    ∃ outcome, stageOutcome signal answer = some outcome := by
  rcases answer with e | _ | status
  · exact ⟨_, rfl⟩
  · exact absurd rfl h
  · exact ⟨_, rfl⟩

/-- How a process that was killed is said to have ended. -/
def killOutcome : Except OsError (Option ExitStatus) → StopOutcome
  | .ok (some _) => .killed
  | .ok none => .failed "still running 500ms after kill"
  | .error e => .failed e.message

/-- Stopping a process from a stage on. -/
def stopFrom (stages : List (StopSignal × Nat)) : MachineAct σ StopOutcome := do
  match ← c.stopStages m stages with
  | some outcome => return outcome
  | none => c.kill m

section Runs

variable {m c} {w w' : Watched σ} {now later : Nat}

theorem run_signalGroup (hseen : c.seenExit? w = none) (signal : Signal) :
    (c.signalGroup m signal).run m.elapseWatched none now w =
      ⟨some (), now, { w with machine := m.signalGroup c.pid signal w.machine }, [(now, .signalledGroup c.pid signal)]⟩ := by
  simp only [signalGroup, Activity.run, pid?_of_unseen hseen]
  rfl

theorem run_signal (hseen : c.seenExit? w = none) (signal : Signal) :
    (c.signal m signal).run m.elapseWatched none now w =
      ⟨some (m.signal c.pid signal w.machine).1, now, { w with machine := (m.signal c.pid signal w.machine).2 },
        [(now, .signalled c.pid signal)]⟩ := by
  simp only [Child.signal, Activity.run, pid?_of_unseen hseen]
  rfl

theorem run_announce (hseen : c.seenExit? w = none) (signal : StopSignal) :
    (c.announce signal).run m.elapseWatched none now w =
      ⟨some (), now, w, [(now, .logged ⟨.debug, "sending signal",
        [("process", .text c.spec.name), ("pid", .number c.pid), ("signal", .quoted signal.label)]⟩)]⟩ := by
  simp only [announce, Activity.run, pid?_of_unseen hseen]
  rfl

/-- A stage sends its signal and has the outcome of its wait. -/
theorem run_stopStage (hseen : c.seenExit? w = none) {signal : StopSignal} {ms : Nat}
    {answer : Except OsError (Option ExitStatus)}
    (hwait : (c.awaitExit m ms).run m.elapseWatched none now (c.sent m signal.signal w).2 = ⟨some answer, later, w', []⟩) :
    (c.stopStage m signal ms).run m.elapseWatched none now w =
      ⟨some (stageOutcome signal answer), later, w', c.stageEvents now signal⟩ := by
  have hgroup : c.seenExit? { w with machine := m.signalGroup c.pid signal.signal w.machine } = none := hseen
  rw [stopStage, Activity.run_bind_some (run_announce hseen signal),
    Activity.run_bind_some (run_signalGroup hseen signal.signal), Activity.run_bind_some (run_signal hgroup signal.signal)]
  have hwait' : (c.awaitExit m ms).run m.elapseWatched none now
      { w with machine := (m.signal c.pid signal.signal (m.signalGroup c.pid signal.signal w.machine)).2 } =
        ⟨some answer, later, w', []⟩ := hwait
  rw [Activity.run_bind_some hwait']
  rcases answer with e | _ | status
  · rfl
  · rfl
  · rfl

/-- A kill that is refused. -/
theorem run_kill_of_refused (hseen : c.seenExit? w = none) {e : OsError} (hkill : (c.sent m .kill w).1 = .error e) :
    (c.kill m).run m.elapseWatched none now w =
      ⟨some (.failed e.message), now, (c.sent m .kill w).2, c.orderEvents now .kill⟩ := by
  have hgroup : c.seenExit? { w with machine := m.signalGroup c.pid .kill w.machine } = none := hseen
  have hanswer : (m.signal c.pid .kill (m.signalGroup c.pid .kill w.machine)).1 = .error e := hkill
  rw [kill, Activity.run_bind_some (run_signalGroup hseen .kill), Activity.run_bind_some (run_signal hgroup .kill)]
  simp only [hanswer]
  rfl

/-- A kill that is accepted has the outcome of the wait after it. -/
theorem run_kill_of_accepted (hseen : c.seenExit? w = none) (hkill : (c.sent m .kill w).1 = .ok ())
    {answer : Except OsError (Option ExitStatus)}
    (hwait : (c.awaitExit m killWait).run m.elapseWatched none now (c.sent m .kill w).2 = ⟨some answer, later, w', []⟩) :
    (c.kill m).run m.elapseWatched none now w = ⟨some (killOutcome answer), later, w', c.orderEvents now .kill⟩ := by
  have hgroup : c.seenExit? { w with machine := m.signalGroup c.pid .kill w.machine } = none := hseen
  have hanswer : (m.signal c.pid .kill (m.signalGroup c.pid .kill w.machine)).1 = .ok () := hkill
  have hwait' : (c.awaitExit m killWait).run m.elapseWatched none now
      { w with machine := (m.signal c.pid .kill (m.signalGroup c.pid .kill w.machine)).2 } =
        ⟨some answer, later, w', []⟩ := hwait
  rw [kill, Activity.run_bind_some (run_signalGroup hseen .kill), Activity.run_bind_some (run_signal hgroup .kill)]
  simp only [hanswer]
  rw [Activity.run_bind_some hwait']
  rcases answer with e | _ | status
  · rfl
  · rfl
  · rfl

/-- After a kill that is accepted the exit is waited for. -/
theorem exists_run_kill (hseen : c.seenExit? w = none) (hkill : (c.sent m .kill w).1 = .ok ()) (now : Nat) :
    ∃ k answer, (c.kill m).run m.elapseWatched none now w =
      ⟨some (killOutcome answer), now + k, c.askedAfter m k now (c.sent m .kill w).2, c.orderEvents now .kill⟩ := by
  rcases expires_or_firstAnswer m c killWait now (c.sent m .kill w).2 with h | ⟨k, answer, h⟩
  · exact ⟨_, _, run_kill_of_accepted hseen hkill (h.run_awaitExit (by decide))⟩
  · exact ⟨_, _, run_kill_of_accepted hseen hkill (h.run_awaitExit (by decide))⟩

/-- A stage with an outcome is the last. -/
theorem run_stopFrom_of_outcome {signal : StopSignal} {ms : Nat} {rest : List (StopSignal × Nat)} {outcome : StopOutcome}
    {events : List (Nat × MachineNotice)}
    (h : (c.stopStage m signal ms).run m.elapseWatched none now w = ⟨some (some outcome), later, w', events⟩) :
    (c.stopFrom m ((signal, ms) :: rest)).run m.elapseWatched none now w = ⟨some outcome, later, w', events⟩ := by
  have hstages : (c.stopStages m ((signal, ms) :: rest)).run m.elapseWatched none now w =
      ⟨some (some outcome), later, w', events⟩ := by
    rw [stopStages, Activity.run_bind_some h]
    simp [Run.after, Activity.run, pure]
  rw [stopFrom, Activity.run_bind_some hstages]
  simp [Run.after, Activity.run, pure]

/-- A stage without an outcome is followed by the others. -/
theorem run_stopFrom_of_none {signal : StopSignal} {ms : Nat} {rest : List (StopSignal × Nat)}
    {events : List (Nat × MachineNotice)}
    (h : (c.stopStage m signal ms).run m.elapseWatched none now w = ⟨some none, later, w', events⟩) :
    (c.stopFrom m ((signal, ms) :: rest)).run m.elapseWatched none now w =
      ((c.stopFrom m rest).run m.elapseWatched none later w').after events := by
  have hstages : (c.stopStages m ((signal, ms) :: rest)).run m.elapseWatched none now w =
      ((c.stopStages m rest).run m.elapseWatched none later w').after events := by
    rw [stopStages, Activity.run_bind_some h]
  obtain ⟨outcome, houtcome⟩ := Activity.run_none_some m.elapseWatched (c.stopStages m rest) later w'
  rcases hrest : (c.stopStages m rest).run m.elapseWatched none later w' with ⟨r, last, w'', more⟩
  rw [hrest] at hstages houtcome
  dsimp only at houtcome
  subst houtcome
  rw [stopFrom, stopFrom, Activity.run_bind_some hstages, Activity.run_bind_some hrest]
  simp [Run.after]

end Runs

/-! ## From one stage to another -/

section Stages

variable {m c} {stages rest : List (StopSignal × Nat)} {w w' : Watched σ} {now later : Nat} {outcome : StopOutcome}

theorem comesTo_nil_iff : c.ComesTo m [] now w rest later w' ↔ rest = [] ∧ later = now ∧ w' = w := by
  constructor
  · intro h
    cases h with
    | here => exact ⟨rfl, rfl, rfl⟩
  · rintro ⟨rfl, rfl, rfl⟩
    exact .here _ _ _

theorem comesTo_cons_iff {signal : StopSignal} {ms : Nat} :
    c.ComesTo m ((signal, ms) :: stages) now w rest later w' ↔
      rest = (signal, ms) :: stages ∧ later = now ∧ w' = w ∨
        c.Expires m ms now (c.sent m signal.signal w).2 ∧
          c.ComesTo m stages (now + ms) (c.askedAfter m ms now (c.sent m signal.signal w).2) rest later w' := by
  constructor
  · intro h
    cases h with
    | here => exact Or.inl ⟨rfl, rfl, rfl⟩
    | expired expires more => exact Or.inr ⟨expires, more⟩
  · rintro (⟨rfl, rfl, rfl⟩ | ⟨expires, more⟩)
    · exact .here _ _ _
    · exact .expired expires more

/-- The stages that were passed have taken all their time. -/
theorem ComesTo.passed (h : c.ComesTo m stages now w rest later w') :
    ∃ passed, stages = passed ++ rest ∧ later = now + (passed.map Prod.snd).sum := by
  induction h with
  | here stages now w => exact ⟨[], rfl, rfl⟩
  | @expired signal ms now _ _ _ _ _ expires more ih =>
    obtain ⟨passed, rfl, rfl⟩ := ih
    exact ⟨(signal, ms) :: passed, rfl, by rw [List.map_cons, List.sum_cons, Nat.add_assoc]⟩

/-- A process whose exit was not seen at one stage is come to at another without it. -/
theorem ComesTo.unseen (h : c.ComesTo m stages now w rest later w') (hseen : c.seenExit? w = none) :
    c.seenExit? w' = none := by
  induction h with
  | here stages now w => exact hseen
  | expired expires more ih => exact ih expires.unseen

/-- Stopping a process ends as from any stage that it comes to. -/
theorem ComesTo.result_eq (h : c.ComesTo m stages now w rest later w') (hseen : c.seenExit? w = none)
    (htime : ∀ stage ∈ stages, 0 < stage.2) :
    ((c.stopFrom m stages).run m.elapseWatched none now w).result =
      ((c.stopFrom m rest).run m.elapseWatched none later w').result := by
  induction h with
  | here stages now w => rfl
  | expired expires more ih =>
    obtain ⟨hms, hstages⟩ := List.forall_mem_cons.1 htime
    rw [run_stopFrom_of_none (run_stopStage hseen (expires.run_awaitExit hms)), Run.after_result]
    exact ih expires.unseen hstages

/-- The time of the stages that are left. -/
theorem ComesTo.time (h : c.ComesTo m stages now w rest later w') (htime : ∀ stage ∈ stages, 0 < stage.2) :
    ∀ stage ∈ rest, 0 < stage.2 := by
  obtain ⟨passed, rfl, -⟩ := h.passed
  exact fun stage hstage => htime stage (List.mem_append_right passed hstage)

/-- Stopping a process ends where its stages end. -/
theorem StagesEnd.result_eq (h : c.StagesEnd m stages now w outcome) (hseen : c.seenExit? w = none)
    (htime : ∀ stage ∈ stages, 0 < stage.2) :
    ((c.stopFrom m stages).run m.elapseWatched none now w).result = some outcome := by
  cases h with
  | stopped comes exit =>
    obtain ⟨k, status, hanswer⟩ := exit
    have hms := (List.forall_mem_cons.1 (comes.time htime)).1
    rw [comes.result_eq hseen htime,
      run_stopFrom_of_outcome (run_stopStage (comes.unseen hseen) (hanswer.run_awaitExit hms))]
  | waitFailed comes fails =>
    obtain ⟨k, hanswer⟩ := fails
    have hms := (List.forall_mem_cons.1 (comes.time htime)).1
    rw [comes.result_eq hseen htime,
      run_stopFrom_of_outcome (run_stopStage (comes.unseen hseen) (hanswer.run_awaitExit hms))]
  | notKilled comes refused =>
    rw [comes.result_eq hseen htime]
    exact congrArg Run.result (run_kill_of_refused (comes.unseen hseen) refused)
  | killed comes accepted exit =>
    obtain ⟨k, status, hanswer⟩ := exit
    rw [comes.result_eq hseen htime]
    exact congrArg Run.result (run_kill_of_accepted (comes.unseen hseen) accepted (hanswer.run_awaitExit (by decide)))
  | killFailed comes accepted fails =>
    obtain ⟨k, hanswer⟩ := fails
    rw [comes.result_eq hseen htime]
    exact congrArg Run.result (run_kill_of_accepted (comes.unseen hseen) accepted (hanswer.run_awaitExit (by decide)))
  | survived comes accepted expires =>
    rw [comes.result_eq hseen htime]
    exact congrArg Run.result (run_kill_of_accepted (comes.unseen hseen) accepted (expires.run_awaitExit (by decide)))

/-- Where the stages after one that expires end, it ends with them. -/
theorem StagesEnd.cons {signal : StopSignal} {ms : Nat} (expires : c.Expires m ms now (c.sent m signal.signal w).2)
    (h : c.StagesEnd m stages (now + ms) (c.askedAfter m ms now (c.sent m signal.signal w).2) outcome) :
    c.StagesEnd m ((signal, ms) :: stages) now w outcome := by
  cases h with
  | stopped comes exit => exact .stopped (.expired expires comes) exit
  | waitFailed comes fails => exact .waitFailed (.expired expires comes) fails
  | notKilled comes refused => exact .notKilled (.expired expires comes) refused
  | killed comes accepted exit => exact .killed (.expired expires comes) accepted exit
  | killFailed comes accepted fails => exact .killFailed (.expired expires comes) accepted fails
  | survived comes accepted late => exact .survived (.expired expires comes) accepted late

/-- Stages have an end. -/
theorem exists_stagesEnd (m : Machine σ) (c : Child) (stages : List (StopSignal × Nat)) (now : Nat) (w : Watched σ) :
    ∃ outcome, c.StagesEnd m stages now w outcome := by
  induction stages generalizing now w with
  | nil =>
    have here : c.ComesTo m [] now w [] now w := .here _ _ _
    rcases hkill : (c.sent m .kill w).1 with e | u
    · exact ⟨_, .notKilled here hkill⟩
    · rcases wait_cases m c killWait now (c.sent m .kill w).2 with h | h | ⟨e, h⟩
      · exact ⟨_, .survived here hkill h⟩
      · exact ⟨_, .killed here hkill h⟩
      · exact ⟨_, .killFailed here hkill h⟩
  | cons stage stages ih =>
    obtain ⟨signal, ms⟩ := stage
    rcases wait_cases m c ms now (c.sent m signal.signal w).2 with h | h | ⟨e, h⟩
    · obtain ⟨outcome, houtcome⟩ := ih (now + ms) (c.askedAfter m ms now (c.sent m signal.signal w).2)
      exact ⟨outcome, houtcome.cons h⟩
    · exact ⟨_, .stopped (.here _ _ _) h⟩
    · exact ⟨_, .waitFailed (.here _ _ _) h⟩

/-- How a process is said to have ended is where its stages end. -/
theorem result_eq_iff (hseen : c.seenExit? w = none) (htime : ∀ stage ∈ stages, 0 < stage.2) :
    ((c.stopFrom m stages).run m.elapseWatched none now w).result = some outcome ↔ c.StagesEnd m stages now w outcome := by
  constructor
  · intro h
    obtain ⟨outcome', hends⟩ := exists_stagesEnd m c stages now w
    cases h.symm.trans (hends.result_eq hseen htime)
    exact hends
  · exact fun h => h.result_eq hseen htime

end Stages

/-! ## The signals that are sent -/

/-- From a stage on, a signal is sent at an instant: stopping a process then comes to the stage of it, or, past all stages,
to the kill. -/
def Sends (stages : List (StopSignal × Nat)) (now : Nat) (w : Watched σ) (later : Nat) (signal : Signal) : Prop :=
  (∃ stop ms rest w', c.ComesTo m stages now w ((stop, ms) :: rest) later w' ∧ signal = stop.signal) ∨
    ∃ w', c.ComesTo m stages now w [] later w' ∧ signal = .kill

section Signals

variable {m c} {stages : List (StopSignal × Nat)} {w : Watched σ} {now later : Nat}

theorem sends_nil_iff {signal : Signal} : c.Sends m [] now w later signal ↔ later = now ∧ signal = .kill := by
  unfold Sends
  simp only [comesTo_nil_iff]
  constructor
  · rintro (⟨stop, ms, rest, w', ⟨h, -⟩, -⟩ | ⟨w', ⟨-, hlater, -⟩, hsignal⟩)
    · cases h
    · exact ⟨hlater, hsignal⟩
  · rintro ⟨hlater, hsignal⟩
    exact Or.inr ⟨w, ⟨trivial, hlater, rfl⟩, hsignal⟩

theorem sends_cons_iff {stop : StopSignal} {ms : Nat} {signal : Signal} :
    c.Sends m ((stop, ms) :: stages) now w later signal ↔
      later = now ∧ signal = stop.signal ∨
        c.Expires m ms now (c.sent m stop.signal w).2 ∧
          c.Sends m stages (now + ms) (c.askedAfter m ms now (c.sent m stop.signal w).2) later signal := by
  unfold Sends
  simp only [comesTo_cons_iff]
  constructor
  · rintro (⟨stop', ms', rest, w', ⟨h, rfl, rfl⟩ | ⟨expires, more⟩, rfl⟩ | ⟨w', ⟨h, -⟩ | ⟨expires, more⟩, rfl⟩)
    · cases h
      exact Or.inl ⟨rfl, rfl⟩
    · exact Or.inr ⟨expires, Or.inl ⟨stop', ms', rest, w', more, rfl⟩⟩
    · cases h
    · exact Or.inr ⟨expires, Or.inr ⟨w', more, rfl⟩⟩
  · rintro (⟨rfl, rfl⟩ | ⟨expires, ⟨stop', ms', rest, w', more, rfl⟩ | ⟨w', more, rfl⟩⟩)
    · exact Or.inl ⟨stop, ms, stages, w, Or.inl ⟨rfl, rfl, rfl⟩, rfl⟩
    · exact Or.inl ⟨stop', ms', rest, w', Or.inr ⟨expires, more⟩, rfl⟩
    · exact Or.inr ⟨w', Or.inr ⟨expires, more⟩, rfl⟩

/-- The signals of stages are sent one after the other, each to the group and to the process, as far as the stages are come
to. -/
theorem stopFrom_sends (now : Nat) (hseen : c.seenExit? w = none) (htime : ∀ stage ∈ stages, 0 < stage.2) :
    ∃ orders : List (Nat × Signal),
      signalEvents ((c.stopFrom m stages).run m.elapseWatched none now w).events =
          orders.flatMap (fun o => c.orderEvents o.1 o.2) ∧
        orders.map Prod.snd <+: stages.map (fun stage => stage.1.signal) ++ [.kill] ∧
        ∀ later signal, (later, signal) ∈ orders ↔ c.Sends m stages now w later signal := by
  induction stages generalizing now w with
  | nil =>
    refine ⟨[(now, .kill)], ?_, List.prefix_refl _, fun later signal => ?_⟩
    · have hstop : c.stopFrom m [] = c.kill m := rfl
      rw [hstop]
      rcases hkill : (c.sent m .kill w).1 with e | u
      · rw [run_kill_of_refused hseen hkill]
        rfl
      · obtain ⟨k, answer, hrun⟩ := exists_run_kill hseen hkill now
        rw [hrun]
        rfl
    · rw [sends_nil_iff, List.mem_singleton, Prod.mk.injEq]
  | cons stage stages ih =>
    obtain ⟨stop, ms⟩ := stage
    obtain ⟨hms, hstages⟩ := List.forall_mem_cons.1 htime
    rcases expires_or_firstAnswer m c ms now (c.sent m stop.signal w).2 with h | ⟨k, answer, h⟩
    · obtain ⟨orders, hevents, hprefix, horders⟩ := ih (now + ms) h.unseen hstages
      refine ⟨(now, stop.signal) :: orders, ?_, ?_, fun later signal => ?_⟩
      · rw [run_stopFrom_of_none (run_stopStage hseen (h.run_awaitExit hms)), Run.after_events, signalEvents_append, hevents]
        rfl
      · exact (List.prefix_cons_inj _).2 hprefix
      · rw [List.mem_cons, horders, sends_cons_iff, Prod.mk.injEq]
        simp only [h, true_and]
    · -- the stage is the last, whatever its outcome
      have hnot : ¬ c.Expires m ms now (c.sent m stop.signal w).2 := fun hexpires =>
        h.settled (h.answer_eq.symm.trans (hexpires k h.le))
      obtain ⟨outcome, houtcome⟩ := exists_stageOutcome stop h.settled
      have hstage := run_stopStage hseen (h.run_awaitExit hms)
      rw [houtcome] at hstage
      refine ⟨[(now, stop.signal)], ?_, ?_, fun later signal => ?_⟩
      · rw [run_stopFrom_of_outcome hstage]
        rfl
      · exact (List.prefix_cons_inj _).2 (List.nil_prefix)
      · rw [sends_cons_iff, List.mem_singleton, Prod.mk.injEq]
        simp only [hnot, false_and, or_false]

end Signals

/-! ## Stopping a process -/

section Terminate

variable (m : Machine σ) (c : Child) (shutdown : Shutdown) (now : Nat) (w : Watched σ)

/-- Stopping a process that has not exited comes to a stage. -/
def Comes (rest : List (StopSignal × Nat)) (later : Nat) (w' : Watched σ) : Prop :=
  (∀ status, (c.poll m w).1 ≠ .ok (some status)) ∧ c.ComesTo m shutdown.requests now (c.poll m w).2 rest later w'

/-- What holds when a process is stopped. -/
structure Escalates (r : Run MachineNotice (Watched σ) StopOutcome) : Prop where
  /-- There is an outcome. -/
  ends : ∃ outcome, r.result = some outcome
  /-- Signals are sent in the order of the configuration, each to the group and then to the process, and each exactly when
  all stages before it have taken all their time without an answer. -/
  signals_eq : ∃ orders : List (Nat × Signal),
    signalEvents r.events = orders.flatMap (fun o => c.orderEvents o.1 o.2) ∧
      orders.map Prod.snd <+: shutdown.signals ∧
      ∀ later signal, (later, signal) ∈ orders ↔
        (∃ stop ms rest w', c.Comes m shutdown now w ((stop, ms) :: rest) later w' ∧ signal = stop.signal) ∨
          ∃ w', c.Comes m shutdown now w [] later w' ∧ signal = .kill
  /-- A stage begins when those before it have taken all their time. -/
  passed : ∀ rest later w', c.Comes m shutdown now w rest later w' →
    ∃ passed, shutdown.requests = passed ++ rest ∧ later = now + (passed.map Prod.snd).sum
  /-- A signal is sent when the time of those before it is over, and has the time that is configured for it. -/
  timed : ∀ signal ms rest later w', c.Comes m shutdown now w ((signal, ms) :: rest) later w' →
    later = now + shutdown.delay signal ∧ ms = shutdown.time signal
  /-- The kill comes when the time of both is over. -/
  kill_timed : ∀ later w', c.Comes m shutdown now w [] later w' →
    later = now + (shutdown.interruptMs.toNat + shutdown.terminateMs.toNat)
  /-- The process had exited before any signal exactly when that was found at first. -/
  alreadyExited_iff : ∀ code, r.result = some (.alreadyExited code) ↔
    ∃ status, (c.poll m w).1 = .ok (some status) ∧ code = status.code?
  /-- The process was stopped by a signal exactly when its exit was seen in the stage of it. -/
  stopped_iff : ∀ signal, r.result = some (.stopped signal) ↔
    ∃ ms rest later w', c.Comes m shutdown now w ((signal, ms) :: rest) later w' ∧
      c.SeesExit m ms later (c.sent m signal.signal w').2
  /-- The process was killed exactly when its exit was seen after the kill, in the time for that. -/
  killed_iff : r.result = some .killed ↔
    ∃ later w', c.Comes m shutdown now w [] later w' ∧ (c.sent m .kill w').1 = .ok () ∧
      c.SeesExit m 500 later (c.sent m .kill w').2
  /-- Stopping fails exactly when a wait or the kill fails, or the process still runs after the kill. -/
  failed_iff : ∀ error, r.result = some (.failed error) ↔
    (∃ signal ms rest later w' e, c.Comes m shutdown now w ((signal, ms) :: rest) later w' ∧
        c.WaitFails m ms later (c.sent m signal.signal w').2 e ∧ error = e.message) ∨
      ∃ later w', c.Comes m shutdown now w [] later w' ∧
        ((∃ e, (c.sent m .kill w').1 = .error e ∧ error = e.message) ∨
          (c.sent m .kill w').1 = .ok () ∧
            ((∃ e, c.WaitFails m 500 later (c.sent m .kill w').2 e ∧ error = e.message) ∨
              c.Expires m 500 later (c.sent m .kill w').2 ∧ error = "still running 500ms after kill"))
  /-- A process that is killed was not stopped by any stage. -/
  killed_last : r.result = some .killed → ∀ signal ms rest later w',
    c.Comes m shutdown now w ((signal, ms) :: rest) later w' → c.Expires m ms later (c.sent m signal.signal w').2

/-- A process that has exited is left alone. -/
theorem run_terminate_of_exited {status : ExitStatus} (h : (c.poll m w).1 = .ok (some status)) :
    (c.terminate m shutdown).run m.elapseWatched none now w =
      ⟨some (.alreadyExited status.code?), now, (c.poll m w).2, []⟩ := by
  rw [terminate, Activity.run_bind_some (run_exit?_of_exited _ _ _ h)]
  rfl

/-- A process that has not exited is stopped stage by stage. -/
theorem run_terminate_of_running (h : ∀ status, (c.poll m w).1 ≠ .ok (some status)) :
    ∃ before, signalEvents before = [] ∧ (c.terminate m shutdown).run m.elapseWatched none now w =
      ((c.stopFrom m shutdown.stages).run m.elapseWatched none now (c.poll m w).2).after before := by
  obtain ⟨records, hexit⟩ := run_exit?_of_running m.elapseWatched none now h
  refine ⟨_, signalEvents_logged now records, ?_⟩
  rw [terminate, Activity.run_bind_some hexit]
  rfl

theorem escalates_of_exited {status : ExitStatus} (h : (c.poll m w).1 = .ok (some status)) :
    c.Escalates m shutdown now w ⟨some (.alreadyExited status.code?), now, (c.poll m w).2, []⟩ := by
  have hno : ∀ rest later w', ¬ c.Comes m shutdown now w rest later w' := fun _ _ _ hcomes => hcomes.1 status h
  refine
    { ends := ⟨_, rfl⟩
      signals_eq := ⟨[], rfl, List.nil_prefix, fun later signal => iff_of_false (List.not_mem_nil) ?_⟩
      passed := fun rest later w' hcomes => absurd hcomes (hno _ _ _)
      timed := fun signal ms rest later w' hcomes => absurd hcomes (hno _ _ _)
      kill_timed := fun later w' hcomes => absurd hcomes (hno _ _ _)
      alreadyExited_iff := fun code => ⟨fun hr => ⟨status, h, ?_⟩, ?_⟩
      stopped_iff := fun signal => iff_of_false nofun ?_
      killed_iff := iff_of_false nofun ?_
      failed_iff := fun error => iff_of_false nofun ?_
      killed_last := nofun }
  · rintro (⟨stop, ms, rest, w', hcomes, -⟩ | ⟨w', hcomes, -⟩)
    · exact hno _ _ _ hcomes
    · exact hno _ _ _ hcomes
  · cases hr
    rfl
  · rintro ⟨status', hpoll, rfl⟩
    cases h.symm.trans hpoll
    rfl
  · rintro ⟨ms, rest, later, w', hcomes, -⟩
    exact hno _ _ _ hcomes
  · rintro ⟨later, w', hcomes, -⟩
    exact hno _ _ _ hcomes
  · rintro (⟨signal, ms, rest, later, w', e, hcomes, -⟩ | ⟨later, w', hcomes, -⟩)
    · exact hno _ _ _ hcomes
    · exact hno _ _ _ hcomes

theorem escalates_of_running (h : ∀ status, (c.poll m w).1 ≠ .ok (some status))
    {r : Run MachineNotice (Watched σ) StopOutcome}
    (hends : ∀ outcome, r.result = some outcome ↔ c.StagesEnd m shutdown.requests now (c.poll m w).2 outcome)
    (hsends : ∃ orders : List (Nat × Signal), signalEvents r.events = orders.flatMap (fun o => c.orderEvents o.1 o.2) ∧
      orders.map Prod.snd <+: shutdown.signals ∧
      ∀ later signal, (later, signal) ∈ orders ↔ c.Sends m shutdown.requests now (c.poll m w).2 later signal) :
    c.Escalates m shutdown now w r := by
  have hcomes : ∀ rest later w', c.Comes m shutdown now w rest later w' ↔
      c.ComesTo m shutdown.requests now (c.poll m w).2 rest later w' := fun rest later w' =>
    ⟨And.right, fun hcomes => ⟨h, hcomes⟩⟩
  have hstopped : ∀ signal, r.result = some (.stopped signal) ↔
      ∃ ms rest later w', c.Comes m shutdown now w ((signal, ms) :: rest) later w' ∧
        c.SeesExit m ms later (c.sent m signal.signal w').2 := by
    intro signal
    simp only [hends, hcomes]
    constructor
    · intro hend
      cases hend with
      | stopped comes exit => exact ⟨_, _, _, _, comes, exit⟩
    · rintro ⟨ms, rest, later, w', comes, exit⟩
      exact .stopped comes exit
  have hfailed : ∀ error, r.result = some (.failed error) ↔
      (∃ signal ms rest later w' e, c.Comes m shutdown now w ((signal, ms) :: rest) later w' ∧
          c.WaitFails m ms later (c.sent m signal.signal w').2 e ∧ error = e.message) ∨
        ∃ later w', c.Comes m shutdown now w [] later w' ∧
          ((∃ e, (c.sent m .kill w').1 = .error e ∧ error = e.message) ∨
            (c.sent m .kill w').1 = .ok () ∧
              ((∃ e, c.WaitFails m killWait later (c.sent m .kill w').2 e ∧ error = e.message) ∨
                c.Expires m killWait later (c.sent m .kill w').2 ∧ error = "still running 500ms after kill")) := by
    intro error
    simp only [hends, hcomes]
    constructor
    · intro hend
      cases hend with
      | waitFailed comes fails => exact Or.inl ⟨_, _, _, _, _, _, comes, fails, rfl⟩
      | notKilled comes refused => exact Or.inr ⟨_, _, comes, Or.inl ⟨_, refused, rfl⟩⟩
      | killFailed comes accepted fails => exact Or.inr ⟨_, _, comes, Or.inr ⟨accepted, Or.inl ⟨_, fails, rfl⟩⟩⟩
      | survived comes accepted expires => exact Or.inr ⟨_, _, comes, Or.inr ⟨accepted, Or.inr ⟨expires, rfl⟩⟩⟩
    · rintro (⟨signal, ms, rest, later, w', e, comes, fails, rfl⟩ |
        ⟨later, w', comes, ⟨e, refused, rfl⟩ | ⟨accepted, ⟨e, fails, rfl⟩ | ⟨expires, rfl⟩⟩⟩)
      · exact .waitFailed comes fails
      · exact .notKilled comes refused
      · exact .killFailed comes accepted fails
      · exact .survived comes accepted expires
  refine
    { ends := ?_
      signals_eq := ?_
      passed := fun rest later w' hc => ((hcomes _ _ _).1 hc).passed
      timed := fun signal ms rest later w' hc => ?_
      kill_timed := fun later w' hc => ?_
      alreadyExited_iff := fun code => iff_of_false ?_ ?_
      stopped_iff := hstopped
      killed_iff := ?_
      failed_iff := hfailed
      killed_last := ?_ }
  · obtain ⟨outcome, hend⟩ := exists_stagesEnd m c shutdown.requests now (c.poll m w).2
    exact ⟨outcome, (hends outcome).2 hend⟩
  · obtain ⟨orders, hevents, hprefix, horders⟩ := hsends
    refine ⟨orders, hevents, hprefix, fun later signal => ?_⟩
    simp only [horders, Sends, hcomes]
  · obtain ⟨passed, hrequests, rfl⟩ := ((hcomes _ _ _).1 hc).passed
    obtain ⟨rfl, hsum⟩ := Shutdown.time_of_split hrequests
    exact ⟨by rw [hsum], rfl⟩
  · obtain ⟨passed, hrequests, rfl⟩ := ((hcomes _ _ _).1 hc).passed
    rw [List.append_nil] at hrequests
    rw [← hrequests, Shutdown.sum_requests]
    rfl
  · rw [hends]
    exact nofun
  · rintro ⟨status, hpoll, -⟩
    exact h status hpoll
  · simp only [hends, hcomes]
    constructor
    · intro hend
      cases hend with
      | killed comes accepted exit => exact ⟨_, _, comes, accepted, exit⟩
    · rintro ⟨later, w', comes, accepted, exit⟩
      exact .killed comes accepted exit
  · intro hkilled signal ms rest later w' hc
    -- any other end of the wait would be an outcome of its own
    rcases wait_cases m c ms later (c.sent m signal.signal w').2 with hw | hw | ⟨e, hw⟩
    · exact hw
    · cases hkilled.symm.trans ((hstopped signal).2 ⟨ms, rest, later, w', hc, hw⟩)
    · cases hkilled.symm.trans ((hfailed e.message).2 (Or.inl ⟨signal, ms, rest, later, w', e, hc, hw, rfl⟩))

/-- A process that has exited is left alone; any other is stopped stage by stage, each stage coming after those before it
have taken all their time, and how it is said to have ended is where that comes to its end. -/
theorem terminate_escalates :
    c.Escalates m shutdown now w ((c.terminate m shutdown).run m.elapseWatched none now w) := by
  by_cases h : ∃ status, (c.poll m w).1 = .ok (some status)
  · obtain ⟨status, hstatus⟩ := h
    rw [run_terminate_of_exited m c shutdown now w hstatus]
    exact escalates_of_exited m c shutdown now w hstatus
  · have hrunning : ∀ status, (c.poll m w).1 ≠ .ok (some status) := fun status hstatus => h ⟨status, hstatus⟩
    have hseen := unseen_of_poll hrunning
    obtain ⟨before, hbefore, hrun⟩ := run_terminate_of_running m c shutdown now w hrunning
    have hpos := shutdown.stages_pos
    rw [Shutdown.stages_eq] at hrun hpos
    obtain ⟨orders, hevents, hprefix, horders⟩ := stopFrom_sends now hseen hpos
    rw [hrun]
    refine escalates_of_running m c shutdown now w hrunning (fun outcome => ?_) ⟨orders, ?_, ?_, horders⟩
    · exact result_eq_iff hseen hpos
    · rw [Run.after_events, signalEvents_append, hbefore, hevents]
      rfl
    · rwa [Shutdown.signals_eq]

end Terminate

/-- A process that takes no notice of an interrupt and exits 2 ms after the request to terminate. -/
example :
    let m : Machine (Option Nat) :=
      { elapse := fun now later left => left.map fun ms => ms - (later - now)
        files := fun _ => ⟨[], [], []⟩
        withFiles := fun _ left => left
        sockets := fun _ => []
        accepts := fun _ _ => false
        command := fun _ left => ⟨[], 0, left, .ok (.exited 0)⟩
        spawn := fun _ _ _ left => (.ok 7, left)
        poll := fun _ left => (.ok (if left = some 0 then some (.exited 0) else none), left)
        signalGroup := fun _ _ left => left
        signal := fun _ signal left => (.ok (), if signal = .terminate then some 2 else left) }
    let c : Child := ⟨⟨"server", .server, "bin/server", [], ⟨"server.out", "server.err"⟩, none⟩, 0, 7⟩
    let r := (c.terminate m ⟨3, 5⟩).run m.elapseWatched none 0 (.fresh none)
    r.result = some (.stopped .terminate) ∧ r.now = 5 ∧ signalEvents r.events =
      [(0, .signalledGroup 7 .interrupt), (0, .signalled 7 .interrupt), (3, .signalledGroup 7 .terminate),
        (3, .signalled 7 .terminate)] := by
  decide

end Child

end StagedLaunch
