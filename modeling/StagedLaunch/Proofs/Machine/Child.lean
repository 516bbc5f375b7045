import StagedLaunch.Machine.Launching
import StagedLaunch.Proofs.Activity

/-!
# Watching a process

What is learned about the exit of a process that is waited for: the wait expires when there is nothing to learn in all its
time (`Expires`), and otherwise ends with the first answer (`FirstAnswer`). As long as no exit is seen the process keeps its
number.
-/

namespace StagedLaunch.Child

variable {σ : Type} (m : Machine σ) (c : Child)

/-! ## Answers -/

/-- What asking for the exit of a process answers when some time has passed in which nobody has asked. -/
def answerAfter (k now : Nat) (w : Watched σ) : Except OsError (Option ExitStatus) :=
  (c.poll m (Activity.pass m.elapseWatched k now w)).1

/-- What is left when the exit of a process was asked for after some time. -/
def askedAfter (k now : Nat) (w : Watched σ) : Watched σ := (c.poll m (Activity.pass m.elapseWatched k now w)).2

/-- There is nothing to learn about the exit of a process for some time: it runs, and asking does not fail. -/
def Expires (ms now : Nat) (w : Watched σ) : Prop := ∀ k, k ≤ ms → c.answerAfter m k now w = .ok none

/-- The first there is to learn about the exit of a process within some time, and when. -/
structure FirstAnswer (ms now : Nat) (w : Watched σ) (k : Nat) (answer : Except OsError (Option ExitStatus)) : Prop where
  /-- It is learned in time. -/
  le : k ≤ ms
  /-- Nothing is learned before. -/
  before : ∀ j, j < k → c.answerAfter m j now w = .ok none
  /-- This is what is learned. -/
  answer_eq : c.answerAfter m k now w = answer
  /-- It is something. -/
  settled : answer ≠ .ok none

/-- The exit of a process is seen within some time. -/
def SeesExit (ms now : Nat) (w : Watched σ) : Prop := ∃ k status, c.FirstAnswer m ms now w k (.ok (some status))

/-- Asking for the exit of a process fails within some time, before the exit is seen. -/
def WaitFails (ms now : Nat) (w : Watched σ) (e : OsError) : Prop := ∃ k, c.FirstAnswer m ms now w k (.error e)

variable {m c} {w : Watched σ} {ms now k : Nat}

/-- A wait expires, or there is a first answer. -/
theorem expires_or_firstAnswer (m : Machine σ) (c : Child) (ms now : Nat) (w : Watched σ) :
    c.Expires m ms now w ∨ ∃ k answer, c.FirstAnswer m ms now w k answer := by
  -- one millisecond more either ends with an answer or is as empty as those before it
  have hlast : ∀ n, (∀ j, j < n → c.answerAfter m j now w = .ok none) →
      c.answerAfter m n now w = .ok none ∨ c.FirstAnswer m n now w n (c.answerAfter m n now w) := fun n hbefore => by
    by_cases h : c.answerAfter m n now w = .ok none
    · exact Or.inl h
    · exact Or.inr ⟨Nat.le_refl n, hbefore, rfl, h⟩
  induction ms with
  | zero =>
    rcases hlast 0 nofun with h | h
    · exact Or.inl fun k hk => by rwa [Nat.le_zero.1 hk]
    · exact Or.inr ⟨0, _, h⟩
  | succ ms ih =>
    rcases ih with hexpires | ⟨k, answer, hle, hbefore, hanswer, hsettled⟩
    · rcases hlast (ms + 1) fun j hj => hexpires j (Nat.le_of_lt_succ hj) with h | h
      · refine Or.inl fun k hk => ?_
        rcases Nat.lt_or_eq_of_le hk with hlt | rfl
        · exact hexpires k (Nat.le_of_lt_succ hlt)
        · exact h
      · exact Or.inr ⟨ms + 1, _, h⟩
    · exact Or.inr ⟨k, answer, Nat.le_succ_of_le hle, hbefore, hanswer, hsettled⟩

/-- Three ways for a wait to end. -/
theorem wait_cases (m : Machine σ) (c : Child) (ms now : Nat) (w : Watched σ) :
    c.Expires m ms now w ∨ c.SeesExit m ms now w ∨ ∃ e, c.WaitFails m ms now w e := by
  rcases expires_or_firstAnswer m c ms now w with h | ⟨k, e | _ | status, h⟩
  · exact Or.inl h
  · exact Or.inr (Or.inr ⟨e, k, h⟩)
  · exact absurd rfl h.settled
  · exact Or.inr (Or.inl ⟨k, status, h⟩)

/-! ## Waiting -/

theorem isSettled_eq_false_iff : c.isSettled m w = false ↔ (c.poll m w).1 = .ok none := by
  unfold isSettled
  split
  · rename_i h
    exact iff_of_true rfl h
  · rename_i h
    exact iff_of_false nofun h

/-- Waiting for the exit of a process ends when there is something to learn, or with the time for it. -/
theorem run_awaitExit (hms : 0 < ms) (hk : k ≤ ms) (hbefore : ∀ j, j < k → c.answerAfter m j now w = .ok none)
    (hend : k = ms ∨ c.answerAfter m k now w ≠ .ok none) :
    (c.awaitExit m ms).run m.elapseWatched none now w =
      ⟨some (c.answerAfter m k now w), now + k, c.askedAfter m k now w, []⟩ := by
  have hpass : Activity.passUntil m.elapseWatched (fun _ w => c.isSettled m w) ms now w =
      (now + k, Activity.pass m.elapseWatched k now w) := by
    refine Activity.passUntil_eq hk (fun j hj => isSettled_eq_false_iff.2 (hbefore j hj)) (hend.imp id fun h => ?_)
    exact Bool.not_eq_false _ ▸ mt isSettled_eq_false_iff.1 h
  have hwait : (Activity.waitFor ms fun _ w => c.isSettled m w : MachineAct σ Bool).run m.elapseWatched none now w =
      ⟨some (c.isSettled m (Activity.pass m.elapseWatched k now w)), now + k, Activity.pass m.elapseWatched k now w,
        []⟩ := by
    simp only [Activity.waitFor, Activity.run, Activity.cutWithin, hpass]
    rfl
  rw [awaitExit, if_neg (Nat.ne_of_gt hms), Activity.run_bind_some hwait]
  rfl

/-- A wait that expires takes all its time. -/
theorem Expires.run_awaitExit (h : c.Expires m ms now w) (hms : 0 < ms) :
    (c.awaitExit m ms).run m.elapseWatched none now w = ⟨some (.ok none), now + ms, c.askedAfter m ms now w, []⟩ := by
  rw [Child.run_awaitExit hms (Nat.le_refl ms) (fun j hj => h j (Nat.le_of_lt hj)) (Or.inl rfl), h ms (Nat.le_refl ms)]

/-- A wait ends with the first answer. -/
theorem FirstAnswer.run_awaitExit {answer : Except OsError (Option ExitStatus)} (h : c.FirstAnswer m ms now w k answer)
    (hms : 0 < ms) :
    (c.awaitExit m ms).run m.elapseWatched none now w = ⟨some answer, now + k, c.askedAfter m k now w, []⟩ := by
  have hsettled : c.answerAfter m k now w ≠ .ok none := by
    rw [h.answer_eq]
    exact h.settled
  rw [Child.run_awaitExit hms h.le h.before (Or.inr hsettled), h.answer_eq]

/-! ## Looking once -/

section Looking

variable (elapse : Nat → Nat → Watched σ → Watched σ) (cut : Option Nat) (now : Nat)

theorem run_exit?_of_exited {status : ExitStatus} (h : (c.poll m w).1 = .ok (some status)) :
    (c.exit? m).run elapse cut now w = ⟨some (some status), now, (c.poll m w).2, []⟩ := by
  have hact : (Activity.act fun _ w => c.poll m w : MachineAct σ _).run elapse cut now w =
    ⟨some (c.poll m w).1, now, (c.poll m w).2, []⟩ := rfl
  rw [exit?, Activity.run_bind_some hact, h]
  rfl

/-- A process that cannot be asked for its exit is taken to run. -/
theorem run_exit?_of_running (h : ∀ status, (c.poll m w).1 ≠ .ok (some status)) :
    ∃ records : List Record, (c.exit? m).run elapse cut now w =
      ⟨some none, now, (c.poll m w).2, records.map fun r => (now, .logged r)⟩ := by
  have hact : (Activity.act fun _ w => c.poll m w : MachineAct σ _).run elapse cut now w =
    ⟨some (c.poll m w).1, now, (c.poll m w).2, []⟩ := rfl
  rw [exit?, Activity.run_bind_some hact]
  rcases hpoll : (c.poll m w).1 with e | _ | status
  · exact ⟨[_], rfl⟩
  · exact ⟨[], rfl⟩
  · exact absurd hpoll (h status)

theorem run_ensureRunning_of_exited {status : ExitStatus} (h : (c.poll m w).1 = .ok (some status)) :
    (c.ensureRunning m).run elapse cut now w =
      ⟨some (.error (.exitedEarly c.spec.name status.code?)), now, (c.poll m w).2, []⟩ := by
  rw [ensureRunning, Activity.run_bind_some (run_exit?_of_exited elapse cut now h)]
  rfl

theorem run_ensureRunning_of_running (h : ∀ status, (c.poll m w).1 ≠ .ok (some status)) :
    ∃ records : List Record, (c.ensureRunning m).run elapse cut now w =
      ⟨some (.ok ()), now, (c.poll m w).2, records.map fun r => (now, .logged r)⟩ := by
  obtain ⟨records, hexit⟩ := run_exit?_of_running elapse cut now h
  refine ⟨records, ?_⟩
  rw [ensureRunning, Activity.run_bind_some hexit, Run.after]
  simp only [Activity.run, pure, List.append_nil]

end Looking

/-! ## Exits that were not seen -/

/-- A process of which no exit was seen keeps its number. -/
theorem pid?_of_unseen (h : c.seenExit? w = none) : c.pid? w = some c.pid := by
  unfold pid?
  rw [h]

/-- Asking without seeing an exit leaves a process of which none was seen. -/
theorem unseen_of_poll (h : ∀ status, (c.poll m w).1 ≠ .ok (some status)) : c.seenExit? (c.poll m w).2 = none := by
  unfold poll at h ⊢
  split
  · rename_i status hseen
    rw [hseen] at h
    exact absurd rfl (h status)
  · rename_i hseen
    rw [hseen] at h
    dsimp only at h
    split
    · rename_i status s hpoll
      rw [hpoll] at h
      exact absurd rfl (h status)
    · exact hseen

/-- The exit that asking has shown is kept. -/
theorem seenExit?_poll {status : ExitStatus} (h : (c.poll m w).1 = .ok (some status)) :
    c.seenExit? (c.poll m w).2 = some status := by
  unfold poll at h ⊢
  split
  · rename_i status' hseen
    rw [hseen] at h
    cases h
    exact hseen
  · rename_i hseen
    rw [hseen] at h
    rcases hpoll : m.poll c.pid w.machine with ⟨e | _ | status', s⟩
    · rw [hpoll] at h
      cases h
    · rw [hpoll] at h
      cases h
    · rw [hpoll] at h
      cases h
      exact List.lookup_cons_self

/-- A process whose exit was waited for in vain has none that was seen. -/
theorem Expires.unseen (h : c.Expires m ms now w) : c.seenExit? (c.askedAfter m ms now w) = none := by
  refine unseen_of_poll fun status hstatus => ?_
  cases (h ms (Nat.le_refl ms)).symm.trans hstatus

end StagedLaunch.Child
