import StagedLaunch.Proofs.Machine.Readiness

/-!
# How soon a wait ends

A process that is watched exits at some instant, or never (`HasExit`). A wait keeps its time (`KeepsTime`) when it ends within
the timeout, the time between two tries and the moment after the last, and when an exit of the process ends it within that
moment. Every check that is tried keeps its time, whatever the process does. A delay does not: it takes all of its own time,
whatever the timeout, and an exit is noticed when it is over. `waitReady_keepsTime` says both.
-/

namespace StagedLaunch

/-- The exit of a process that has ended by an instant; it ends at an instant with a status, or never. -/
def exitBy (exit : Option (Nat × ExitStatus)) (now : Nat) : Option ExitStatus :=
  (exit.filter fun e => e.1 ≤ now).map Prod.snd

theorem exitBy_eq_some_iff {exit : Option (Nat × ExitStatus)} {now : Nat} {status : ExitStatus} :
    exitBy exit now = some status ↔ ∃ t, exit = some (t, status) ∧ t ≤ now := by
  simp only [exitBy, Option.map_eq_some_iff, Option.filter_eq_some_iff, decide_eq_true_eq]
  constructor
  · rintro ⟨⟨t, _⟩, ⟨hexit, ht⟩, rfl⟩
    exact ⟨t, hexit, ht⟩
  · rintro ⟨t, hexit, ht⟩
    exact ⟨(t, status), ⟨hexit, ht⟩, rfl⟩

theorem exitBy_eq_none_iff {exit : Option (Nat × ExitStatus)} {now : Nat} :
    exitBy exit now = none ↔ ∀ t status, exit = some (t, status) → now < t := by
  simp only [Option.eq_none_iff_forall_ne_some, ne_eq, exitBy_eq_some_iff]
  constructor
  · exact fun h t status hexit => Nat.lt_of_not_le fun ht => h status ⟨t, hexit, ht⟩
  · rintro h status ⟨t, hexit, ht⟩
    exact Nat.not_le_of_lt (h t status hexit) ht

namespace Child

variable {σ : Type} (m : Machine σ) (c : Child)

/-! ## The exit of a process -/

/-- What there can be at an instant, when from another on a process is only waited for and asked for its exit. -/
inductive Watches (now : Nat) (w : Watched σ) : Nat → Watched σ → Prop where
  | here : Watches now w now w
  | asked {later : Nat} {w' : Watched σ} (h : Watches now w later w') : Watches now w later (c.poll m w').2
  | passed {later last : Nat} {w' : Watched σ} (h : Watches now w later w') (hle : later ≤ last) :
      Watches now w last (m.elapseWatched later last w')

/-- From an instant on a process has an exit: however long it is waited for and however often it is asked, asking does not
fail and shows the exit from the instant of it on. -/
def HasExit (exit : Option (Nat × ExitStatus)) (now : Nat) (w : Watched σ) : Prop :=
  ∀ later w', c.Watches m now w later w' → (c.poll m w').1 = .ok (exitBy exit later)

section Exit

variable {m c} {probe : Probe} {exit : Option (Nat × ExitStatus)} {now later k : Nat} {w w' : Watched σ} {status : ExitStatus}

theorem Watches.trans {last : Nat} {w'' : Watched σ} (h : c.Watches m now w later w') (h' : c.Watches m later w' last w'') :
    c.Watches m now w last w'' := by
  induction h' with
  | here => exact h
  | asked _ ih => exact ih.asked
  | passed _ hle ih => exact ih.passed hle

/-- In a try a process has only been waited for and asked for its exit. -/
theorem watches_beforeTry (m : Machine σ) (c : Child) (k now : Nat) (w : Watched σ) :
    c.Watches m now w (now + pollInterval * k) (c.beforeTry m k now w) := by
  induction k generalizing now w with
  | zero => exact .here
  | succ k ih =>
    have hfirst : c.Watches m now w (now + pollInterval) (m.elapseWatched now (now + pollInterval) (c.poll m w).2) :=
      Watches.here.asked.passed (Nat.le_add_right now pollInterval)
    rw [← now_add_pollInterval]
    exact hfirst.trans (ih _ _)

theorem watches_afterTry (m : Machine σ) (c : Child) (k now : Nat) (w : Watched σ) :
    c.Watches m now w (now + pollInterval * k + readyGrace) (c.afterTry m k now w) :=
  (watches_beforeTry m c k now w).asked.passed (Nat.le_add_right _ readyGrace)

/-- A try finds the exit of a process that has ended by then. -/
theorem HasExit.exitsAt_iff (h : c.HasExit m exit now w) :
    c.ExitsAt m k now w status ↔ exitBy exit (now + pollInterval * k) = some status := by
  rw [ExitsAt, answerInTry, h _ _ (watches_beforeTry m c k now w), Except.ok.injEq]

theorem HasExit.runsAt_iff (h : c.HasExit m exit now w) :
    c.RunsAt m k now w ↔ exitBy exit (now + pollInterval * k) = none := by
  simp only [RunsAt, h.exitsAt_iff, Option.eq_none_iff_forall_ne_some, ne_eq]

theorem HasExit.leavesAfter_iff (h : c.HasExit m exit now w) :
    c.LeavesAfter m k now w status ↔ exitBy exit (now + pollInterval * k + readyGrace) = some status := by
  rw [LeavesAfter, h _ _ (watches_afterTry m c k now w), Except.ok.injEq]

theorem HasExit.staysAfter_iff (h : c.HasExit m exit now w) :
    c.StaysAfter m k now w ↔ exitBy exit (now + pollInterval * k + readyGrace) = none := by
  simp only [StaysAfter, h.leavesAfter_iff, Option.eq_none_iff_forall_ne_some, ne_eq]

/-- An exit comes after the try before the one that a wait has come to. -/
theorem HasExit.le_of_comesToTry (h : c.HasExit m exit now w) {deadline t : Nat} (hexit : exit = some (t, status))
    (hcomes : c.ComesToTry m probe deadline k now w) : now + pollInterval * k ≤ max now t + pollInterval := by
  cases k with
  | zero => exact Nat.le_trans (Nat.le_max_left now t) (Nat.le_add_right _ _)
  | succ k =>
    have hruns := h.runsAt_iff.1 (hcomes k (Nat.lt_succ_self k)).1
    have ht := exitBy_eq_none_iff.1 hruns t status hexit
    rw [← now_add_pollInterval]
    omega

end Exit

/-! ## Keeping time -/

/-- Between two instants a check has passed: a delay when it is over, and any other in a try. -/
def HasPassed (check : ReadyCheck) (now : Nat) (w : Watched σ) (later : Nat) : Prop :=
  (∃ ms, check = .delay ms ∧ now + ms ≤ later) ∨
    ∃ probe k, check.probe? = some probe ∧ now + pollInterval * k ≤ later ∧ c.PassesAt m probe k now w

/-- A wait for a check keeps its time. -/
structure KeepsTime (check : ReadyCheck) (timeout : Nat) (exit : Option (Nat × ExitStatus)) (now : Nat) (w : Watched σ)
    (r : Run MachineNotice (Watched σ) (Except LaunchError Unit)) : Prop where
  /-- There is an answer within the timeout, the time between two tries and the moment after the last. -/
  in_time : r.now ≤ now + timeout + pollInterval + readyGrace
  /-- When the process still runs and the check has not passed by then, the process is not ready. -/
  not_ready : ¬ c.HasPassed m check now w r.now → exitBy exit r.now = none →
    r.result = some (.error (.notReady c.spec.name timeout))
  /-- An exit that comes before the wait is over ends it, no later than a moment after. -/
  prompt : ∀ t status, exit = some (t, status) → t ≤ r.now →
    r.result = some (.error (.exitedEarly c.spec.name status.code?)) ∧ r.now ≤ max now t + readyGrace

/-- A wait takes a delay, neither more nor less, and looks for the exit of the process when that is over. -/
structure TakesDelay (ms : Nat) (exit : Option (Nat × ExitStatus)) (now : Nat)
    (r : Run MachineNotice (Watched σ) (Except LaunchError Unit)) : Prop where
  /-- The answer comes with the end of the delay. -/
  now_eq : r.now = now + ms
  /-- The process is ready unless it has ended by then. -/
  result_eq : r.result = some (match exitBy exit (now + ms) with
    | some status => .error (.exitedEarly c.spec.name status.code?)
    | none => .ok ())

section Keeping

variable {m c} {probe : Probe} {check : ReadyCheck} {exit : Option (Nat × ExitStatus)} {timeout now k later : Nat}
  {w w' : Watched σ} {outcome : Except LaunchError Unit} {events : List (Nat × MachineNotice)}

/-- A wait that ends in a try keeps its time. -/
theorem keepsTime_of_tryEnds (hexit : c.HasExit m exit now w) (hprobe : check.probe? = some probe)
    (hcomes : c.ComesToTry m probe (now + timeout) k now w)
    (hend : c.TryEnds m probe timeout (now + timeout) k now w outcome later w') :
    c.KeepsTime m check timeout exit now w ⟨some outcome, later, w', events⟩ := by
  have hlt := hcomes.lt
  have hgrace : pollInterval ≤ readyGrace := by decide
  -- the exit was not there in the try before, so that a try which finds it comes no more than an interval later
  have hsoon : ∀ t status, exit = some (t, status) → now + pollInterval * k ≤ max now t + pollInterval :=
    fun t status ht => hexit.le_of_comesToTry ht hcomes
  have hpassed : c.PassesAt m probe k now w → c.HasPassed m check now w (now + pollInterval * k + readyGrace) :=
    fun passes => Or.inr ⟨probe, k, hprobe, Nat.le_add_right _ readyGrace, passes⟩
  cases hend with
  | @exited status exits =>
    have hby := hexit.exitsAt_iff.1 exits
    refine { in_time := ?_, not_ready := ?_, prompt := ?_ }
    · dsimp only
      omega
    · intro _ hnone
      cases hby.symm.trans hnone
    · intro t status' heq _
      obtain ⟨t', heq', -⟩ := exitBy_eq_some_iff.1 hby
      cases heq.symm.trans heq'
      have := hsoon t status heq
      exact ⟨rfl, by dsimp only; omega⟩
  | ready runs passes stays =>
    refine { in_time := ?_, not_ready := ?_, prompt := ?_ }
    · dsimp only
      omega
    · intro hnot _
      exact absurd (hpassed passes) hnot
    · intro t status heq ht
      have hstays := exitBy_eq_none_iff.1 (hexit.staysAfter_iff.1 stays) t status heq
      exact absurd ht (Nat.not_le_of_lt hstays)
  | @left status runs passes leaves =>
    have hby := hexit.leavesAfter_iff.1 leaves
    refine { in_time := ?_, not_ready := ?_, prompt := ?_ }
    · dsimp only
      omega
    · intro hnot _
      exact absurd (hpassed passes) hnot
    · intro t status' heq _
      obtain ⟨t', heq', -⟩ := exitBy_eq_some_iff.1 hby
      cases heq.symm.trans heq'
      have hlate := exitBy_eq_none_iff.1 (hexit.runsAt_iff.1 runs) t status heq
      exact ⟨rfl, by dsimp only; omega⟩
  | late runs fails past =>
    refine { in_time := ?_, not_ready := ?_, prompt := ?_ }
    · dsimp only
      omega
    · intro _ _
      rfl
    · intro t status heq ht
      have hruns := exitBy_eq_none_iff.1 (hexit.runsAt_iff.1 runs) t status heq
      exact absurd ht (Nat.not_le_of_lt hruns)

/-- A delay is waited for whatever the timeout. -/
theorem takesDelay_of_hasExit (hexit : c.HasExit m exit now w) (ms timeout : Nat) :
    c.TakesDelay ms exit now ((c.waitReady m (.delay ms) timeout).run m.elapseWatched none now w) := by
  have hpause : (Activity.pause ms : MachineAct σ Unit).run m.elapseWatched none now w =
    ⟨some (), now + ms, m.elapseWatched now (now + ms) w, []⟩ := rfl
  have hpoll := hexit _ _ (Watches.here.passed (Nat.le_add_right now ms))
  rw [waitReady, Activity.run_bind_some hpause]
  cases hby : exitBy exit (now + ms) with
  | some status =>
    rw [hby] at hpoll
    rw [run_ensureRunning_of_exited _ _ _ hpoll]
    exact ⟨rfl, by rw [hby]; rfl⟩
  | none =>
    obtain ⟨records, hrun⟩ := run_ensureRunning_of_running m.elapseWatched none (now + ms) fun status hstatus => by
      cases hstatus.symm.trans (hpoll.trans (congrArg Except.ok hby))
    rw [hrun]
    exact ⟨rfl, by rw [hby]; rfl⟩

end Keeping

/-- Whatever a process does, a check that is tried keeps its time, and a delay takes all of its own. -/
theorem waitReady_keepsTime {exit : Option (Nat × ExitStatus)} {now : Nat} {w : Watched σ} (hexit : c.HasExit m exit now w)
    (check : ReadyCheck) (timeout : Nat) :
    let r := (c.waitReady m check timeout).run m.elapseWatched none now w
    (∀ probe, check.probe? = some probe → c.KeepsTime m check timeout exit now w r) ∧
      ∀ ms, check = .delay ms → c.TakesDelay ms exit now r := by
  intro r
  refine ⟨fun probe hprobe => ?_, ?_⟩
  · obtain ⟨k, outcome, later, w', events, hrun, -, hcomes, hend⟩ := run_awaitProbe m c probe check timeout now w
    have hr : r = ⟨some outcome, later, w', events⟩ := by rw [← hrun, ← waitReady_of_probe m c probe hprobe]
    rw [hr]
    exact keepsTime_of_tryEnds hexit hprobe hcomes hend
  · rintro ms rfl
    exact takesDelay_of_hasExit hexit ms timeout

end Child

/-! ## A process with a timetable -/

/-- A machine with a process that exits by a timetable, and with ports that are open from an instant on. The state is the
instant. -/
def Machine.timetable (exit : Option (Nat × ExitStatus)) (opens : Nat) : Machine Nat where
  elapse _ later _ := later
  files _ := ⟨[], [], []⟩
  withFiles _ s := s
  sockets _ := []
  accepts _ s := opens ≤ s
  command _ s := ⟨[], 0, s, .ok (.exited 0)⟩
  spawn _ _ _ s := (.ok 7, s)
  poll _ s := (.ok (exitBy exit s), s)
  signalGroup _ _ s := s
  signal _ _ s := (.ok (), s)

namespace Child

/-- The clock of a machine with a timetable is right, and an exit that was seen on it is the one in the timetable. -/
def OnTime (exit : Option (Nat × ExitStatus)) (c : Child) (now : Nat) (w : Watched Nat) : Prop :=
  w.machine = now ∧ ∀ status, c.seenExit? w = some status → exitBy exit now = some status

theorem OnTime.poll {exit : Option (Nat × ExitStatus)} {opens : Nat} {c : Child} {now : Nat} {w : Watched Nat}
    (h : OnTime exit c now w) :
    (c.poll (.timetable exit opens) w).1 = .ok (exitBy exit now) ∧
      OnTime exit c now (c.poll (.timetable exit opens) w).2 := by
  obtain ⟨hclock, hseen⟩ := h
  have hasked : (Machine.timetable exit opens).poll c.pid w.machine = (.ok (exitBy exit now), w.machine) := by
    rw [← hclock]
    rfl
  unfold Child.poll
  cases hexit : c.seenExit? w with
  | some status => exact ⟨by rw [hseen status hexit], hclock, hseen⟩
  | none =>
    rw [hasked]
    cases hby : exitBy exit now with
    | none => exact ⟨rfl, hclock, fun status hstatus => absurd (hexit.symm.trans hstatus) nofun⟩
    | some status =>
      refine ⟨rfl, hclock, fun status' hstatus => ?_⟩
      rw [hby, ← hstatus]
      exact List.lookup_cons_self.symm

/-- A process with a timetable exits by it. -/
theorem hasExit_timetable (exit : Option (Nat × ExitStatus)) (opens : Nat) (c : Child) :
    c.HasExit (.timetable exit opens) exit 0 (.fresh 0) := by
  intro later w' hw
  suffices honTime : OnTime exit c later w' from honTime.poll.1
  induction hw with
  | here => exact ⟨rfl, nofun⟩
  | asked _ ih => exact ih.poll.2
  | passed _ hle ih =>
    refine ⟨rfl, fun status hstatus => ?_⟩
    obtain ⟨t, hexit, ht⟩ := exitBy_eq_some_iff.1 (ih.2 status hstatus)
    exact exitBy_eq_some_iff.2 ⟨t, hexit, Nat.le_trans ht hle⟩

/-- A server that holds its port from 130 ms on and exits at 300 ms, in the moment after the third try. -/
theorem waitReady_keepsTime_exit :
    let m := Machine.timetable (some (300, .exited 3)) 130
    let c : Child := ⟨⟨"server", .server, "bin/server", [], ⟨"server.out", "server.err"⟩, some (.tcp 80)⟩, 0, 7⟩
    let r := (c.waitReady m (.tcp 80) 150).run m.elapseWatched none 0 (.fresh 0)
    c.HasExit m (some (300, .exited 3)) 0 (.fresh 0) ∧
      c.KeepsTime m (.tcp 80) 150 (some (300, .exited 3)) 0 (.fresh 0) r ∧
      r.result = some (.error (.exitedEarly "server" (some 3))) ∧ r.now = 450 :=
  ⟨hasExit_timetable _ _ _, (waitReady_keepsTime _ _ (hasExit_timetable _ _ _) (.tcp 80) 150).1 (.tcp 80) rfl, rfl, rfl⟩

/-- A delay of 600 ms does not keep the time of a timeout of 100 ms, and it does not notice in time that a process has exited
at 10 ms. -/
theorem waitReady_delay_late :
    let c : Child := ⟨⟨"server", .server, "bin/server", [], ⟨"server.out", "server.err"⟩, some (.delay 600)⟩, 0, 7⟩
    let stays := Machine.timetable none 0
    let exits := Machine.timetable (some (10, .exited 3)) 0
    let r := (c.waitReady stays (.delay 600) 100).run stays.elapseWatched none 0 (.fresh 0)
    let r' := (c.waitReady exits (.delay 600) 1000).run exits.elapseWatched none 0 (.fresh 0)
    (c.HasExit stays none 0 (.fresh 0) ∧ r.result = some (.ok ()) ∧ r.now = 600 ∧
        ¬ c.KeepsTime stays (.delay 600) 100 none 0 (.fresh 0) r) ∧
      c.HasExit exits (some (10, .exited 3)) 0 (.fresh 0) ∧
        r'.result = some (.error (.exitedEarly "server" (some 3))) ∧ r'.now = 600 ∧
        ¬ c.KeepsTime exits (.delay 600) 1000 (some (10, .exited 3)) 0 (.fresh 0) r' := by
  intro c stays exits r r'
  have hnow : r.now = 600 := rfl
  have hnow' : r'.now = 600 := rfl
  refine ⟨⟨hasExit_timetable _ _ _, rfl, hnow, fun h => ?_⟩, hasExit_timetable _ _ _, rfl, hnow', fun h => ?_⟩
  · exact absurd h.in_time (by rw [hnow]; decide)
  · exact absurd (h.prompt 10 _ rfl (by rw [hnow']; decide)).2 (by rw [hnow']; decide)

end Child

end StagedLaunch
