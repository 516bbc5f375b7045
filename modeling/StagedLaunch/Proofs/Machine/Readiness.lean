import StagedLaunch.Machine.Readiness
import StagedLaunch.Proofs.Machine.Child

/-!
# Waiting until a process is ready

A check is tried at once and then at every poll instant. A try is come to when those before it have found a process that runs
and a check that fails, all of them before the deadline (`ComesToTry`); how the wait ends is decided in the last of them
(`TryEnds`), and there is one (`run_awaitProbe`). `waitReady_judges` says for every machine what each answer means, and that a
check which passes in time and goes on to pass is never missed.
-/

namespace StagedLaunch

/-- The probe with which a check is tried. A delay is not tried, and neither is a pattern that cannot be used. -/
def ReadyCheck.probe? : ReadyCheck → Option Probe
  | .delay _ => none
  | .udpBound port => some (.udpBound port)
  | .tcp port => some (.tcp port)
  | .log pattern => (Pattern.compile pattern).toOption.map .log

namespace Child

variable {σ : Type} (m : Machine σ) (c : Child) (probe : Probe)

/-! ## Tries -/

/-- What there is when a try of a check begins, when the one before it has not ended the wait. Tries are counted from zero. -/
def beforeTry : Nat → Nat → Watched σ → Watched σ
  | 0, _, w => w
  | k + 1, now, w => beforeTry k (now + pollInterval) (m.elapseWatched now (now + pollInterval) (c.poll m w).2)

/-- What asking for the exit of a process answers in a try. -/
def answerInTry (k now : Nat) (w : Watched σ) : Except OsError (Option ExitStatus) := (c.poll m (c.beforeTry m k now w)).1

/-- What there is when the exit of a process was asked for in a try. -/
def inTry (k now : Nat) (w : Watched σ) : Watched σ := (c.poll m (c.beforeTry m k now w)).2

/-- What there is a moment after a try. -/
def afterTry (k now : Nat) (w : Watched σ) : Watched σ :=
  m.elapseWatched (now + pollInterval * k) (now + pollInterval * k + readyGrace) (c.inTry m k now w)

/-- In a try the process has exited. -/
def ExitsAt (k now : Nat) (w : Watched σ) (status : ExitStatus) : Prop := c.answerInTry m k now w = .ok (some status)

/-- In a try the process runs, as far as can be learned. -/
def RunsAt (k now : Nat) (w : Watched σ) : Prop := ∀ status, ¬ c.ExitsAt m k now w status

/-- In a try the check passes. -/
def PassesAt (k now : Nat) (w : Watched σ) : Prop := probe.passes m c.spec.output.stdout (c.inTry m k now w).machine = true

/-- A moment after a try the process has exited. -/
def LeavesAfter (k now : Nat) (w : Watched σ) (status : ExitStatus) : Prop :=
  (c.poll m (c.afterTry m k now w)).1 = .ok (some status)

/-- A moment after a try the process runs, as far as can be learned. -/
def StaysAfter (k now : Nat) (w : Watched σ) : Prop := ∀ status, ¬ c.LeavesAfter m k now w status

/-- A try is come to: those before it have found that the process runs and that the check fails, and time was left. -/
def ComesToTry (deadline k now : Nat) (w : Watched σ) : Prop :=
  ∀ j, j < k → c.RunsAt m j now w ∧ ¬ c.PassesAt m probe j now w ∧ now + pollInterval * j < deadline

/-- How a wait ends in a try: with what, when, and what there is then. `timeout` is the time that the answer names. -/
inductive TryEnds (timeout deadline k now : Nat) (w : Watched σ) : Except LaunchError Unit → Nat → Watched σ → Prop where
  | exited {status : ExitStatus} (exits : c.ExitsAt m k now w status) :
      TryEnds timeout deadline k now w (.error (.exitedEarly c.spec.name status.code?)) (now + pollInterval * k)
        (c.inTry m k now w)
  | ready (runs : c.RunsAt m k now w) (passes : c.PassesAt m probe k now w) (stays : c.StaysAfter m k now w) :
      TryEnds timeout deadline k now w (.ok ()) (now + pollInterval * k + readyGrace) (c.poll m (c.afterTry m k now w)).2
  | left {status : ExitStatus} (runs : c.RunsAt m k now w) (passes : c.PassesAt m probe k now w)
      (leaves : c.LeavesAfter m k now w status) :
      TryEnds timeout deadline k now w (.error (.exitedEarly c.spec.name status.code?))
        (now + pollInterval * k + readyGrace) (c.poll m (c.afterTry m k now w)).2
  | late (runs : c.RunsAt m k now w) (fails : ¬ c.PassesAt m probe k now w) (past : deadline ≤ now + pollInterval * k) :
      TryEnds timeout deadline k now w (.error (.notReady c.spec.name timeout)) (now + pollInterval * k) (c.inTry m k now w)

section Tries

variable {m c probe} {timeout deadline k now later : Nat} {w w' : Watched σ} {outcome : Except LaunchError Unit}

/-- The tries after the first are those of a wait that begins at the second. -/
theorem now_add_pollInterval (now k : Nat) : now + pollInterval + pollInterval * k = now + pollInterval * (k + 1) := by
  rw [Nat.mul_succ]
  omega

/-- A try that a wait beginning at the second comes to is one that the whole wait comes to. -/
theorem ComesToTry.next (hruns : c.RunsAt m 0 now w) (hfails : ¬ c.PassesAt m probe 0 now w) (htime : now < deadline)
    (h : c.ComesToTry m probe deadline k (now + pollInterval)
      (m.elapseWatched now (now + pollInterval) (c.poll m w).2)) :
    c.ComesToTry m probe deadline (k + 1) now w := by
  intro j hj
  cases j with
  | zero => exact ⟨hruns, hfails, htime⟩
  | succ j =>
    have hlater := h j (Nat.lt_of_succ_lt_succ hj)
    rwa [now_add_pollInterval] at hlater

theorem TryEnds.next
    (h : c.TryEnds m probe timeout deadline k (now + pollInterval)
      (m.elapseWatched now (now + pollInterval) (c.poll m w).2) outcome later w') :
    c.TryEnds m probe timeout deadline (k + 1) now w outcome later w' := by
  have hafter : c.afterTry m k (now + pollInterval) (m.elapseWatched now (now + pollInterval) (c.poll m w).2) =
      c.afterTry m (k + 1) now w := by
    unfold afterTry
    rw [now_add_pollInterval]
    rfl
  cases h with
  | exited exits =>
    rw [now_add_pollInterval]
    exact .exited exits
  | ready runs passes stays =>
    rw [now_add_pollInterval, hafter]
    exact .ready runs passes fun status hleaves => stays status (by rwa [LeavesAfter, hafter])
  | left runs passes leaves =>
    rw [LeavesAfter, hafter] at leaves
    rw [now_add_pollInterval, hafter]
    exact .left runs passes leaves
  | late runs fails past =>
    rw [now_add_pollInterval] at past ⊢
    exact .late runs fails past

/-- A wait does not come to a try after the one in which it ends. -/
theorem TryEnds.last {k' : Nat} (h : c.TryEnds m probe timeout deadline k now w outcome later w')
    (hcomes : c.ComesToTry m probe deadline k' now w) : k' ≤ k := by
  refine Nat.le_of_not_lt fun hlt => ?_
  obtain ⟨hruns, hfails, htime⟩ := hcomes k hlt
  cases h with
  | exited exits => exact hruns _ exits
  | ready runs passes stays => exact hfails passes
  | left runs passes leaves => exact hfails passes
  | late runs fails past => omega

/-- A try ends a wait in one way. -/
theorem TryEnds.unique {outcome' : Except LaunchError Unit} {later' : Nat} {w'' : Watched σ}
    (h : c.TryEnds m probe timeout deadline k now w outcome later w')
    (h' : c.TryEnds m probe timeout deadline k now w outcome' later' w'') : outcome = outcome' ∧ later = later' := by
  cases h with
  | @exited status exits =>
    cases h' with
    | exited exits' =>
      cases exits.symm.trans exits'
      exact ⟨rfl, rfl⟩
    | ready runs passes stays => exact absurd exits (runs status)
    | left runs passes leaves => exact absurd exits (runs status)
    | late runs fails past => exact absurd exits (runs status)
  | ready runs passes stays =>
    cases h' with
    | exited exits => exact absurd exits (runs _)
    | ready runs' passes' stays' => exact ⟨rfl, rfl⟩
    | left runs' passes' leaves => exact absurd leaves (stays _)
    | late runs' fails past => exact absurd passes fails
  | left runs passes leaves =>
    cases h' with
    | exited exits => exact absurd exits (runs _)
    | ready runs' passes' stays => exact absurd leaves (stays _)
    | left runs' passes' leaves' =>
      cases leaves.symm.trans leaves'
      exact ⟨rfl, rfl⟩
    | late runs' fails past => exact absurd passes fails
  | late runs fails past =>
    cases h' with
    | exited exits => exact absurd exits (runs _)
    | ready runs' passes stays => exact absurd passes fails
    | left runs' passes leaves => exact absurd passes fails
    | late runs' fails' past' => exact ⟨rfl, rfl⟩

end Tries

/-! ## Runs -/

section Runs

variable {m c probe}

theorem run_grace_of_exited (now : Nat) (w : Watched σ) (check : ReadyCheck) {status : ExitStatus}
    (h : (c.poll m (m.elapseWatched now (now + readyGrace) w)).1 = .ok (some status)) :
    (c.grace m check).run m.elapseWatched none now w =
      ⟨some (.error (.exitedEarly c.spec.name status.code?)), now + readyGrace,
        (c.poll m (m.elapseWatched now (now + readyGrace) w)).2, []⟩ := by
  have hpause : (Activity.pause readyGrace : MachineAct σ Unit).run m.elapseWatched none now w =
    ⟨some (), now + readyGrace, m.elapseWatched now (now + readyGrace) w, []⟩ := rfl
  rw [grace, Activity.run_bind_some hpause, Activity.run_bind_some (run_ensureRunning_of_exited _ _ _ h)]
  rfl

theorem run_grace_of_running (now : Nat) (w : Watched σ) (check : ReadyCheck)
    (h : ∀ status, (c.poll m (m.elapseWatched now (now + readyGrace) w)).1 ≠ .ok (some status)) :
    ∃ events, (c.grace m check).run m.elapseWatched none now w =
      ⟨some (.ok ()), now + readyGrace, (c.poll m (m.elapseWatched now (now + readyGrace) w)).2, events⟩ := by
  have hpause : (Activity.pause readyGrace : MachineAct σ Unit).run m.elapseWatched none now w =
    ⟨some (), now + readyGrace, m.elapseWatched now (now + readyGrace) w, []⟩ := rfl
  obtain ⟨records, hrun⟩ :=
    run_ensureRunning_of_running m.elapseWatched none (now + readyGrace) h
  rw [grace, Activity.run_bind_some hpause, Activity.run_bind_some hrun]
  exact ⟨_, rfl⟩

/-- The first try ends the wait, or the others follow after a while. -/
theorem run_tryUntil_succ (m : Machine σ) (c : Child) (check : ReadyCheck) (probe : Probe)
    (timeout deadline now : Nat) (w : Watched σ) :
    (∃ outcome later w' events,
      (∀ tries, (c.tryUntil m check probe timeout deadline (tries + 1)).run m.elapseWatched none now w =
        ⟨some outcome, later, w', events⟩) ∧ c.TryEnds m probe timeout deadline 0 now w outcome later w') ∨
      c.RunsAt m 0 now w ∧ ¬ c.PassesAt m probe 0 now w ∧ now < deadline ∧ ∃ events, ∀ tries,
        (c.tryUntil m check probe timeout deadline (tries + 1)).run m.elapseWatched none now w =
          ((c.tryUntil m check probe timeout deadline tries).run m.elapseWatched none (now + pollInterval)
            (m.elapseWatched now (now + pollInterval) (c.poll m w).2)).after events := by
  by_cases hexit : ∃ status, c.ExitsAt m 0 now w status
  · obtain ⟨status, hexit⟩ := hexit
    have hrun : (c.ensureRunning m).run m.elapseWatched none now w = _ := run_ensureRunning_of_exited _ _ _ hexit
    refine Or.inl ⟨_, _, _, [], fun tries => ?_, .exited hexit⟩
    rw [tryUntil, Activity.run_bind_some hrun]
    rfl
  have hruns : c.RunsAt m 0 now w := fun status h => hexit ⟨status, h⟩
  have hpoll : ∀ status, (c.poll m w).1 ≠ .ok (some status) := hruns
  obtain ⟨records, hrun⟩ := run_ensureRunning_of_running m.elapseWatched none now hpoll
  have hlook : (Activity.look fun now w => (now, probe.passes m c.spec.output.stdout w.machine) :
      MachineAct σ (Nat × Bool)).run m.elapseWatched none now (c.poll m w).2 =
    ⟨some (now, probe.passes m c.spec.output.stdout (c.poll m w).2.machine), now, (c.poll m w).2, []⟩ := rfl
  simp only [tryUntil, Activity.run_bind_some hrun, Activity.run_bind_some hlook]
  by_cases hpasses : probe.passes m c.spec.output.stdout (c.poll m w).2.machine = true
  · simp only [hpasses, if_true]
    left
    by_cases hleave : ∃ status, c.LeavesAfter m 0 now w status
    · obtain ⟨status, hleave⟩ := hleave
      have hgrace : (c.grace m check).run m.elapseWatched none now (c.poll m w).2 = _ :=
        run_grace_of_exited now (c.poll m w).2 check hleave
      rw [hgrace]
      exact ⟨_, _, _, _, fun _ => rfl, .left hruns hpasses hleave⟩
    · have hstays : c.StaysAfter m 0 now w := fun status h => hleave ⟨status, h⟩
      obtain ⟨events, hgrace⟩ := run_grace_of_running now (c.poll m w).2 check hstays
      rw [hgrace]
      exact ⟨_, _, _, _, fun _ => rfl, .ready hruns hpasses hstays⟩
  · simp only [hpasses, Bool.false_eq_true, if_false]
    by_cases htime : deadline ≤ now
    · simp only [htime, if_true]
      exact Or.inl ⟨_, _, _, _, fun _ => rfl, .late hruns hpasses htime⟩
    · have hpause : (Activity.pause pollInterval : MachineAct σ Unit).run m.elapseWatched none now (c.poll m w).2 =
        ⟨some (), now + pollInterval, m.elapseWatched now (now + pollInterval) (c.poll m w).2, []⟩ := rfl
      simp only [htime, if_false, Activity.run_bind_some hpause]
      exact Or.inr ⟨hruns, hpasses, Nat.lt_of_not_le htime, _, fun _ => rfl⟩

/-- A check is tried until the wait ends, whenever there are tries enough for the time up to the deadline. -/
theorem run_tryUntil (m : Machine σ) (c : Child) (check : ReadyCheck) (probe : Probe) (timeout deadline enough now : Nat)
    (w : Watched σ) (henough : deadline ≤ now + pollInterval * enough) :
    ∃ k outcome later w' events,
      (∀ tries, enough < tries → (c.tryUntil m check probe timeout deadline tries).run m.elapseWatched none now w =
        ⟨some outcome, later, w', events⟩) ∧
      c.ComesToTry m probe deadline k now w ∧ c.TryEnds m probe timeout deadline k now w outcome later w' := by
  induction enough generalizing now w with
  | zero =>
    rcases run_tryUntil_succ m c check probe timeout deadline now w with
      ⟨outcome, later, w', events, hrun, hend⟩ | ⟨-, -, htime, -⟩
    · refine ⟨0, outcome, later, w', events, fun tries htries => ?_, nofun, hend⟩
      obtain ⟨tries, rfl⟩ := Nat.exists_eq_succ_of_ne_zero (Nat.ne_of_gt htries)
      exact hrun tries
    · omega
  | succ enough ih =>
    rcases run_tryUntil_succ m c check probe timeout deadline now w with
      ⟨outcome, later, w', events, hrun, hend⟩ | ⟨hruns, hfails, htime, events, hrun⟩
    · refine ⟨0, outcome, later, w', events, fun tries htries => ?_, nofun, hend⟩
      obtain ⟨tries, rfl⟩ := Nat.exists_eq_succ_of_ne_zero (Nat.ne_of_gt (Nat.zero_lt_of_lt htries))
      exact hrun tries
    · rw [← now_add_pollInterval] at henough
      obtain ⟨k, outcome, later, w', more, hmore, hcomes, hend⟩ :=
        ih (now + pollInterval) (m.elapseWatched now (now + pollInterval) (c.poll m w).2) henough
      refine ⟨k + 1, outcome, later, w', events ++ more, fun tries htries => ?_, hcomes.next hruns hfails htime, hend.next⟩
      obtain ⟨tries, rfl⟩ := Nat.exists_eq_succ_of_ne_zero (Nat.ne_of_gt (Nat.zero_lt_of_lt htries))
      rw [hrun, hmore tries (Nat.lt_of_succ_lt_succ htries)]
      rfl

end Runs

/-! ## What the answers mean -/

/-- What the answer of a wait means. Tries of the check are `pollInterval` apart, and the first is made at once. -/
structure Judges (check : ReadyCheck) (timeout now : Nat) (w : Watched σ)
    (r : Run MachineNotice (Watched σ) (Except LaunchError Unit)) : Prop where
  /-- There is an answer, one of three. -/
  ends : r.result = some (.ok ()) ∨ r.result = some (.error (.notReady c.spec.name timeout)) ∨
    ∃ code, r.result = some (.error (.exitedEarly c.spec.name code))
  /-- It is there within the time of one more try and of the moment after it. -/
  soon : r.now < now + timeout + pollInterval + readyGrace
  /-- No more tries are made than there is time for: allowing for more changes nothing. -/
  tries_enough : ∀ tries, timeout ≤ pollInterval * tries →
    (c.tryUntil m check probe timeout (now + timeout) (tries + 1)).run m.elapseWatched none now w = r
  /-- The process is ready exactly when a try has found it running and the check passing, and it was still there a moment
  later. -/
  ready_iff : r.result = some (.ok ()) ↔ ∃ k, c.ComesToTry m probe (now + timeout) k now w ∧ c.RunsAt m k now w ∧
    c.PassesAt m probe k now w ∧ c.StaysAfter m k now w
  /-- When a try has found the process running and the check passing, the answer comes a moment later. -/
  grace : ∀ k, c.ComesToTry m probe (now + timeout) k now w → c.RunsAt m k now w → c.PassesAt m probe k now w →
    r.now = now + pollInterval * k + readyGrace
  /-- The process is not ready in time exactly when every try up to one that is not before the deadline has found it running
  and the check failing. -/
  notReady_iff : r.result = some (.error (.notReady c.spec.name timeout)) ↔
    ∃ k, (∀ j, j ≤ k → c.RunsAt m j now w ∧ ¬ c.PassesAt m probe j now w) ∧ timeout ≤ pollInterval * k
  /-- With that answer the last try was made, at the instant of the answer and not before the deadline. -/
  notReady_now : r.result = some (.error (.notReady c.spec.name timeout)) → ∃ k, r.now = now + pollInterval * k ∧
    timeout ≤ pollInterval * k ∧ ∀ j, j ≤ k → c.RunsAt m j now w ∧ ¬ c.PassesAt m probe j now w
  /-- The process is said to have exited exactly when that was found, in a try or a moment after one in which the check
  passed, and the code is its exit code. -/
  exitedEarly_iff : ∀ code, r.result = some (.error (.exitedEarly c.spec.name code)) ↔
    ∃ k status, code = status.code? ∧ c.ComesToTry m probe (now + timeout) k now w ∧
      (c.ExitsAt m k now w status ∨
        c.RunsAt m k now w ∧ c.PassesAt m probe k now w ∧ c.LeavesAfter m k now w status)
  /-- A check that passes from some instant on, no later than the deadline, finds a process that never exits ready. -/
  complete : ∀ t, t ≤ timeout → (∀ k, t ≤ pollInterval * k → c.PassesAt m probe k now w) →
    (∀ k, c.RunsAt m k now w ∧ c.StaysAfter m k now w) → r.result = some (.ok ())

section Judging

variable {m c probe} {check : ReadyCheck} {timeout now k later : Nat} {w w' : Watched σ}
  {outcome : Except LaunchError Unit} {events : List (Nat × MachineNotice)}

/-- A wait comes to a try within the time for the one before it. -/
theorem ComesToTry.lt (h : c.ComesToTry m probe (now + timeout) k now w) : pollInterval * k < timeout + pollInterval := by
  cases k with
  | zero => exact Nat.lt_add_left timeout (by decide)
  | succ k =>
    have := (h k (Nat.lt_succ_self k)).2.2
    rw [Nat.mul_succ]
    omega

/-- When a wait comes to two tries and is over in both, they are the same. -/
theorem TryEnds.eq_of_comes {k' later' : Nat} {outcome' : Except LaunchError Unit} {w'' : Watched σ} {deadline : Nat}
    (hcomes : c.ComesToTry m probe deadline k now w) (hend : c.TryEnds m probe timeout deadline k now w outcome later w')
    (hcomes' : c.ComesToTry m probe deadline k' now w)
    (hend' : c.TryEnds m probe timeout deadline k' now w outcome' later' w'') : outcome' = outcome ∧ later' = later := by
  obtain rfl := Nat.le_antisymm (hend.last hcomes') (hend'.last hcomes)
  exact hend'.unique hend

/-- What an answer means can be read off the try in which the wait ends. -/
theorem judges_of_tryEnds
    (hrun : ∀ tries, timeout ≤ pollInterval * tries →
      (c.tryUntil m check probe timeout (now + timeout) (tries + 1)).run m.elapseWatched none now w =
        ⟨some outcome, later, w', events⟩)
    (hcomes : c.ComesToTry m probe (now + timeout) k now w)
    (hend : c.TryEnds m probe timeout (now + timeout) k now w outcome later w') :
    c.Judges m probe check timeout now w ⟨some outcome, later, w', events⟩ := by
  have hlt := hcomes.lt
  -- a try that is over is the one in which the wait ends
  have hsame : ∀ {k' outcome' later' w''}, c.ComesToTry m probe (now + timeout) k' now w →
      c.TryEnds m probe timeout (now + timeout) k' now w outcome' later' w'' → outcome' = outcome ∧ later' = later :=
    TryEnds.eq_of_comes hcomes hend
  have hlate : outcome = .error (.notReady c.spec.name timeout) → later = now + pollInterval * k ∧
      timeout ≤ pollInterval * k ∧ ∀ j, j ≤ k → c.RunsAt m j now w ∧ ¬ c.PassesAt m probe j now w := by
    intro heq
    cases hend with
    | exited exits => cases heq
    | ready runs passes stays => cases heq
    | left runs passes leaves => cases heq
    | late runs fails past =>
      refine ⟨rfl, by omega, fun j hj => ?_⟩
      rcases Nat.lt_or_eq_of_le hj with hlt | rfl
      · exact ⟨(hcomes j hlt).1, (hcomes j hlt).2.1⟩
      · exact ⟨runs, fails⟩
  have hgrace : ∀ k', c.ComesToTry m probe (now + timeout) k' now w → c.RunsAt m k' now w → c.PassesAt m probe k' now w →
      later = now + pollInterval * k' + readyGrace := by
    intro k' hcomes' hruns hpasses
    by_cases hleave : ∃ status, c.LeavesAfter m k' now w status
    · obtain ⟨status, hleave⟩ := hleave
      exact (hsame hcomes' (.left hruns hpasses hleave)).2.symm
    · exact (hsame hcomes' (.ready hruns hpasses fun status h => hleave ⟨status, h⟩)).2.symm
  refine
    { ends := ?_
      soon := ?_
      tries_enough := hrun
      ready_iff := ?_
      grace := hgrace
      notReady_iff := ?_
      notReady_now := fun h => ⟨k, hlate (Option.some.inj h)⟩
      exitedEarly_iff := ?_
      complete := ?_ }
  · cases hend with
    | exited exits => exact Or.inr (Or.inr ⟨_, rfl⟩)
    | ready runs passes stays => exact Or.inl rfl
    | left runs passes leaves => exact Or.inr (Or.inr ⟨_, rfl⟩)
    | late runs fails past => exact Or.inr (Or.inl rfl)
  · dsimp only
    have hgrace : 0 < readyGrace := by decide
    cases hend with
    | exited exits => omega
    | ready runs passes stays => omega
    | left runs passes leaves => omega
    | late runs fails past => omega
  · constructor
    · intro heq
      cases Option.some.inj heq
      cases hend with
      | ready runs passes stays => exact ⟨k, hcomes, runs, passes, stays⟩
    · rintro ⟨k', hcomes', hruns, hpasses, hstays⟩
      rw [(hsame hcomes' (.ready hruns hpasses hstays)).1]
  · constructor
    · intro heq
      obtain ⟨-, hover, hall⟩ := hlate (Option.some.inj heq)
      exact ⟨k, hall, hover⟩
    · rintro ⟨k', hall, hover⟩
      -- the first of these tries that is not before the deadline ends the wait
      have hle : k ≤ k' := Nat.le_of_not_lt fun hlt => by
        have := (hcomes k' hlt).2.2
        omega
      obtain ⟨hruns, hfails⟩ := hall k hle
      cases hend with
      | exited exits => exact absurd exits (hruns _)
      | ready runs passes stays => exact absurd passes hfails
      | left runs passes leaves => exact absurd passes hfails
      | late runs fails past => rfl
  · intro code
    constructor
    · intro heq
      have heq := Option.some.inj heq
      cases hend with
      | @exited status exits =>
        cases heq
        exact ⟨k, status, rfl, hcomes, Or.inl exits⟩
      | ready runs passes stays => cases heq
      | @left status runs passes leaves =>
        cases heq
        exact ⟨k, status, rfl, hcomes, Or.inr ⟨runs, passes, leaves⟩⟩
      | late runs fails past => cases heq
    · rintro ⟨k', status, rfl, hcomes', hexits | ⟨hruns, hpasses, hleaves⟩⟩
      · rw [(hsame hcomes' (.exited hexits)).1]
      · rw [(hsame hcomes' (.left hruns hpasses hleaves)).1]
  · intro t ht hpasses hstays
    cases hend with
    | exited exits => exact absurd exits ((hstays k).1 _)
    | ready runs passes stays => rfl
    | left runs passes leaves => exact absurd leaves ((hstays k).2 _)
    | late runs fails past => exact absurd (hpasses k (by omega)) fails

end Judging

/-- Waiting for a check that is tried is waiting for its probe. -/
theorem waitReady_of_probe {check : ReadyCheck} (h : check.probe? = some probe) (timeout : Nat) :
    c.waitReady m check timeout = c.awaitProbe m check probe timeout := by
  cases check with
  | delay ms => cases h
  | udpBound port =>
    cases h
    rfl
  | tcp port =>
    cases h
    rfl
  | log pattern =>
    simp only [ReadyCheck.probe?] at h
    rw [waitReady]
    rcases hcompile : Pattern.compile pattern with e | p
    · rw [hcompile] at h
      cases h
    · rw [hcompile] at h
      cases h
      rfl

/-- A check that is tried is tried until the wait ends, and more tries than it allows for would change nothing. -/
theorem run_awaitProbe (check : ReadyCheck) (timeout now : Nat) (w : Watched σ) :
    ∃ k outcome later w' events,
      (c.awaitProbe m check probe timeout).run m.elapseWatched none now w = ⟨some outcome, later, w', events⟩ ∧
      (∀ tries, timeout ≤ pollInterval * tries →
        (c.tryUntil m check probe timeout (now + timeout) (tries + 1)).run m.elapseWatched none now w =
          ⟨some outcome, later, w', events⟩) ∧
      c.ComesToTry m probe (now + timeout) k now w ∧
      c.TryEnds m probe timeout (now + timeout) k now w outcome later w' := by
  -- the least number of tries for which there is time
  obtain ⟨k, outcome, later, w', events, hrun, hcomes, hend⟩ :=
    run_tryUntil m c check probe timeout (now + timeout) ((timeout + 99) / 100) now w (by rw [pollInterval]; omega)
  have htries : ∀ tries, timeout ≤ pollInterval * tries →
      (c.tryUntil m check probe timeout (now + timeout) (tries + 1)).run m.elapseWatched none now w =
        ⟨some outcome, later, w', events⟩ := fun tries htries => hrun (tries + 1) (by rw [pollInterval] at htries; omega)
  have hawait : (c.awaitProbe m check probe timeout).run m.elapseWatched none now w = ⟨some outcome, later, w', events⟩ :=
    htries (timeout / pollInterval + 1) (by rw [pollInterval]; omega)
  exact ⟨k, outcome, later, w', events, hawait, htries, hcomes, hend⟩

/-- When a wait ends with an exit of the process, that exit was seen. -/
theorem seenExit?_of_waitReady {check : ReadyCheck} {timeout now : Nat} {cut : Option Nat} {w : Watched σ} {name : String}
    {code : Option Int} (h : ((c.waitReady m check timeout).run m.elapseWatched cut now w).result =
      some (.error (.exitedEarly name code))) :
    name = c.spec.name ∧ ∃ status,
      c.seenExit? ((c.waitReady m check timeout).run m.elapseWatched cut now w).state = some status ∧
        code = status.code? := by
  have hcut := Activity.run_eq_of_result h
  rw [hcut] at h ⊢
  cases hprobe : check.probe? with
  | some probe =>
    obtain ⟨k, outcome, later, w', events, hrun, -, -, hend⟩ := run_awaitProbe m c probe check timeout now w
    rw [waitReady_of_probe m c probe hprobe, hrun] at h ⊢
    cases Option.some.inj h
    cases hend with
    | @exited status exits => exact ⟨rfl, status, seenExit?_poll exits, rfl⟩
    | @left status runs passes leaves => exact ⟨rfl, status, seenExit?_poll leaves, rfl⟩
  | none =>
    cases check with
    | udpBound port => cases hprobe
    | tcp port => cases hprobe
    | delay ms =>
      have hpause : (Activity.pause ms : MachineAct σ Unit).run m.elapseWatched none now w =
        ⟨some (), now + ms, m.elapseWatched now (now + ms) w, []⟩ := rfl
      rw [waitReady, Activity.run_bind_some hpause] at h ⊢
      by_cases hexit : ∃ status, (c.poll m (m.elapseWatched now (now + ms) w)).1 = .ok (some status)
      · obtain ⟨status, hexit⟩ := hexit
        rw [run_ensureRunning_of_exited _ _ _ hexit] at h ⊢
        cases h
        exact ⟨rfl, status, seenExit?_poll hexit, rfl⟩
      · obtain ⟨records, hrun⟩ := run_ensureRunning_of_running m.elapseWatched none (now + ms)
          fun status hstatus => hexit ⟨status, hstatus⟩
        rw [hrun] at h
        cases h
    | log pattern =>
      simp only [ReadyCheck.probe?] at hprobe
      rw [waitReady] at h
      rcases hcompile : Pattern.compile pattern with e | p
      · rw [hcompile] at h
        cases h
      · rw [hcompile] at hprobe
        cases hprobe

/-- When a wait ends with a process that is ready, its check has passed in a try. -/
theorem passesAt_of_waitReady {check : ReadyCheck} (hprobe : check.probe? = some probe) {timeout now : Nat} {cut : Option Nat}
    {w : Watched σ} (h : ((c.waitReady m check timeout).run m.elapseWatched cut now w).result = some (.ok ())) :
    ∃ k, c.PassesAt m probe k now w ∧
      ((c.waitReady m check timeout).run m.elapseWatched cut now w).state = (c.poll m (c.afterTry m k now w)).2 := by
  have hcut := Activity.run_eq_of_result h
  rw [hcut] at h ⊢
  obtain ⟨k, outcome, later, w', events, hrun, -, -, hend⟩ := run_awaitProbe m c probe check timeout now w
  rw [waitReady_of_probe m c probe hprobe, hrun] at h ⊢
  cases Option.some.inj h
  cases hend with
  | ready runs passes stays => exact ⟨k, passes, rfl⟩

/-- A check that is tried is judged by its tries: whatever the machine does and whenever the process exits, the answer is as
the tries have found, and a check that comes to pass in time, and goes on to, is not missed. -/
theorem waitReady_judges {check : ReadyCheck} (h : check.probe? = some probe) (timeout now : Nat) (w : Watched σ) :
    c.Judges m probe check timeout now w ((c.waitReady m check timeout).run m.elapseWatched none now w) := by
  obtain ⟨k, outcome, later, w', events, hrun, htries, hcomes, hend⟩ := run_awaitProbe m c probe check timeout now w
  rw [waitReady_of_probe m c probe h, hrun]
  exact judges_of_tryEnds htries hcomes hend

/-- A port that opens 130 ms after the start is found open with a timeout of 130 ms, in the third try. -/
theorem waitReady_judges_opening :
    let m : Machine Nat :=
      { elapse := fun _ later _ => later
        files := fun _ => ⟨[], [], []⟩
        withFiles := fun _ s => s
        sockets := fun _ => []
        accepts := fun _ s => 130 ≤ s
        command := fun _ s => ⟨[], 0, s, .ok (.exited 0)⟩
        spawn := fun _ _ _ s => (.ok 7, s)
        poll := fun _ s => (.ok (if 1000 ≤ s then some (.exited 3) else none), s)
        signalGroup := fun _ _ s => s
        signal := fun _ _ s => (.ok (), s) }
    let c : Child := ⟨⟨"server", .server, "bin/server", [], ⟨"server.out", "server.err"⟩, some (.tcp 80)⟩, 0, 7⟩
    let r := (c.waitReady m (.tcp 80) 130).run m.elapseWatched none 0 (.fresh 0)
    (ReadyCheck.tcp 80).probe? = some (.tcp 80) ∧ c.Judges m (.tcp 80) (.tcp 80) 130 0 (.fresh 0) r ∧
      r.result = some (.ok ()) ∧ r.now = 450 :=
  ⟨rfl, waitReady_judges _ _ _ rfl 130 0 _, rfl, rfl⟩

end Child

end StagedLaunch
