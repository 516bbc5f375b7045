import StagedLaunch.Activity

/-!
# Running activities

`run_bind_some` and `run_bind_none` follow a run through the parts of an activity. An activity that is not cut off comes to
its end (`run_none_some`), time does not go back (`le_run_now`), and what an activity tells has no part in what it does
(`run_silent`).

`lastWait` is the instant at which the last wait of an activity ends when nothing cuts it off. A cut before that instant
takes effect and any other does nothing: `run_cut_iff` and `run_eq_of_not_cut`. Of two cuts the earlier one leaves the
beginning of what the later one leaves (`run_cutBefore`).
-/

namespace StagedLaunch

variable {ε ε' σ α β : Type}

/-- A run with events before it. -/
def Run.after (events : List (Nat × ε)) (r : Run ε σ α) : Run ε σ α := { r with events := events ++ r.events }

@[simp] theorem Run.after_result (events : List (Nat × ε)) (r : Run ε σ α) : (r.after events).result = r.result := rfl

@[simp] theorem Run.after_now (events : List (Nat × ε)) (r : Run ε σ α) : (r.after events).now = r.now := rfl

@[simp] theorem Run.after_state (events : List (Nat × ε)) (r : Run ε σ α) : (r.after events).state = r.state := rfl

@[simp] theorem Run.after_events (events : List (Nat × ε)) (r : Run ε σ α) :
    (r.after events).events = events ++ r.events := rfl

namespace Activity

variable {elapse : Nat → Nat → σ → σ} {cut : Option Nat}

/-! ## One part after another -/

theorem bind_eq (m : Activity ε σ α) (f : α → Activity ε σ β) : m >>= f = bind m f := rfl

/-- When the first part has come to its end, the second goes on from there. -/
theorem run_bind_some {m : Activity ε σ α} {f : α → Activity ε σ β} {now later : Nat} {s s' : σ} {a : α}
    {events : List (Nat × ε)} (h : run elapse cut m now s = ⟨some a, later, s', events⟩) :
    run elapse cut (m >>= f) now s = (run elapse cut (f a) later s').after events := by
  rw [bind_eq, run_bind, h]
  rfl

/-- When the first part is cut off, so is the whole. -/
theorem run_bind_none {m : Activity ε σ α} {f : α → Activity ε σ β} {now later : Nat} {s s' : σ}
    {events : List (Nat × ε)} (h : run elapse cut m now s = ⟨none, later, s', events⟩) :
    run elapse cut (m >>= f) now s = ⟨none, later, s', events⟩ := by
  rw [bind_eq, run_bind, h]

theorem run_tell (e : ε) (now : Nat) (s : σ) : run elapse cut (tell e) now s = ⟨some (), now, s, [(now, e)]⟩ := rfl

/-! ## Waits in place of work -/

@[simp] theorem yielding_pure (a : α) : (pure a : Activity ε σ α).yielding = pure a := rfl

@[simp] theorem yielding_tell (e : ε) : (tell e : Activity ε σ Unit).yielding = tell e := rfl

@[simp] theorem yielding_act (f : Nat → σ → α × σ) : (act f : Activity ε σ α).yielding = act f := rfl

@[simp] theorem yielding_busy (ms : Nat) : (busy ms : Activity ε σ Unit).yielding = pause ms := rfl

@[simp] theorem yielding_bind (m : Activity ε σ α) (f : α → Activity ε σ β) :
    (m >>= f).yielding = m.yielding >>= fun a => (f a).yielding := by
  simp only [bind_eq]
  induction m with
  | done a => rfl
  | emit e next ih => simp only [bind, yielding, ih]
  | read next ih => simp only [bind, yielding, ih]
  | write s next ih => simp only [bind, yielding, ih]
  | work ms next ih => simp only [bind, yielding, ih]
  | sleep ms next ih => simp only [bind, yielding, ih]
  | await ms ready next ih => simp only [bind, yielding, ih]

/-- When nothing cuts it off, it makes no difference whether an activity works or waits. -/
theorem run_yielding (elapse : Nat → Nat → σ → σ) (m : Activity ε σ α) (now : Nat) (s : σ) :
    run elapse none m.yielding now s = run elapse none m now s := by
  induction m generalizing now s with
  | done a => rfl
  | emit e next ih => simp only [yielding, run, ih]
  | read next ih => exact ih now s now s
  | write s' next ih => exact ih now s'
  | work ms next ih => exact ih _ _
  | sleep ms next ih => exact ih _ _
  | await ms ready next ih => exact ih _ _

/-! ## Time and results -/

theorem le_passUntil (elapse : Nat → Nat → σ → σ) (ready : Nat → σ → Bool) (ms now : Nat) (s : σ) :
    now ≤ (passUntil elapse ready ms now s).1 := by
  induction ms generalizing now s with
  | zero => exact Nat.le_refl _
  | succ ms ih =>
    simp only [passUntil]
    split
    · exact Nat.le_refl _
    · exact Nat.le_trans (Nat.le_succ now) (ih _ _)

/-- A wait that is cut off is cut off at the cut, or at once when that is over. -/
theorem cutWithin_eq_some {cut : Option Nat} {now ms c : Nat} (h : cutWithin cut now ms = some c) :
    ∃ c', cut = some c' ∧ 0 < ms ∧ c' < now + ms ∧ c = max now c' := by
  cases cut with
  | none => cases h
  | some c' =>
    simp only [cutWithin] at h
    split at h
    · rename_i hc
      simp only [Bool.and_eq_true, decide_eq_true_eq] at hc
      exact ⟨c', rfl, hc.1, hc.2, (Option.some.inj h).symm⟩
    · cases h

theorem cutWithin_eq_none {c now ms : Nat} (h : cutWithin (some c) now ms = none) (hms : 0 < ms) : now + ms ≤ c := by
  simp only [cutWithin] at h
  split at h
  · cases h
  · rename_i hc
    simp only [Bool.and_eq_true, decide_eq_true_eq] at hc
    omega

/-- A later cut leaves a wait that an earlier one leaves. -/
theorem cutWithin_none_of_le {c now ms : Nat} {cut : Option Nat} (hcut : ∀ c', cut = some c' → c ≤ c')
    (h : cutWithin (some c) now ms = none) : cutWithin cut now ms = none := by
  cases hc : cutWithin cut now ms with
  | none => rfl
  | some u =>
    obtain ⟨c', hc', hms, hlt, -⟩ := cutWithin_eq_some hc
    have := hcut c' hc'
    have := cutWithin_eq_none h hms
    omega

/-- With a later cut a wait may last no less than to the earlier one. -/
theorem exists_wait_le {c now ms : Nat} {cut : Option Nat} (hcut : ∀ c', cut = some c' → c ≤ c')
    (hms : max now c - now ≤ ms) :
    ∃ l, max now c - now ≤ l ∧
      (cutWithin cut now ms = none ∧ l = ms ∨ ∃ u, cutWithin cut now ms = some u ∧ l = u - now) := by
  cases hc : cutWithin cut now ms with
  | none => exact ⟨ms, hms, Or.inl ⟨rfl, rfl⟩⟩
  | some u =>
    obtain ⟨c', hc', -, -, rfl⟩ := cutWithin_eq_some hc
    have := hcut c' hc'
    exact ⟨_, by omega, Or.inr ⟨_, rfl, rfl⟩⟩

/-- Time does not go back. -/
theorem le_run_now (elapse : Nat → Nat → σ → σ) (cut : Option Nat) (m : Activity ε σ α) (now : Nat) (s : σ) :
    now ≤ (run elapse cut m now s).now := by
  induction m generalizing now s with
  | done a => exact Nat.le_refl _
  | emit e next ih => exact ih now s
  | read next ih => exact ih now s now s
  | write s' next ih => exact ih now s'
  | work ms next ih => exact Nat.le_trans (Nat.le_add_right now ms) (ih _ _)
  | sleep ms next ih =>
    simp only [run]
    split
    · rename_i c hc
      obtain ⟨c', -, -, -, rfl⟩ := cutWithin_eq_some hc
      exact Nat.le_max_left _ _
    · exact Nat.le_trans (Nat.le_add_right now ms) (ih _ _)
  | await ms ready next ih =>
    simp only [run]
    split
    · split
      · exact Nat.le_trans (le_passUntil _ _ _ _ _) (ih _ _)
      · exact le_passUntil _ _ _ _ _
    · exact Nat.le_trans (le_passUntil _ _ _ _ _) (ih _ _)

/-- An activity that is not cut off comes to its end. -/
theorem run_none_some (elapse : Nat → Nat → σ → σ) (m : Activity ε σ α) (now : Nat) (s : σ) :
    ∃ a, (run elapse none m now s).result = some a := by
  induction m generalizing now s with
  | done a => exact ⟨a, rfl⟩
  | emit e next ih => exact ih now s
  | read next ih => exact ih now s now s
  | write s' next ih => exact ih now s'
  | work ms next ih => exact ih _ _
  | sleep ms next ih => exact ih _ _
  | await ms ready next ih => exact ih _ _

/-! ## Activities that tell nothing -/

/-- An activity that does the same and tells nothing. -/
def silent : Activity ε σ α → Activity ε' σ α
  | .done a => .done a
  | .emit _ next => silent next
  | .read next => .read fun now s => silent (next now s)
  | .write s next => .write s (silent next)
  | .work ms next => .work ms (silent next)
  | .sleep ms next => .sleep ms (silent next)
  | .await ms ready next => .await ms ready (silent next)

theorem run_silent (m : Activity ε σ α) (now : Nat) (s : σ) :
    run elapse cut (silent m : Activity ε' σ α) now s =
      ⟨(run elapse cut m now s).result, (run elapse cut m now s).now, (run elapse cut m now s).state, []⟩ := by
  induction m generalizing now s with
  | done a => rfl
  | emit e next ih => exact ih now s
  | read next ih => exact ih now s now s
  | write s' next ih => exact ih now s'
  | work ms next ih => exact ih _ _
  | sleep ms next ih =>
    simp only [silent, run]
    split
    · rfl
    · exact ih _ _
  | await ms ready next ih =>
    simp only [silent, run]
    split
    · split
      · exact ih _ _
      · rfl
    · exact ih _ _

/-! ## Cuts -/

/-- The instant at which the last wait ends that takes any time, when nothing cuts the activity off. -/
def lastWait (elapse : Nat → Nat → σ → σ) : Activity ε σ α → Nat → σ → Option Nat
  | .done _, _, _ => none
  | .emit _ next, now, s => lastWait elapse next now s
  | .read next, now, s => lastWait elapse (next now s) now s
  | .write s next, now, _ => lastWait elapse next now s
  | .work ms next, now, s => lastWait elapse next (now + ms) (elapse now (now + ms) s)
  | .sleep ms next, now, s =>
    (lastWait elapse next (now + ms) (elapse now (now + ms) s)).or (if 0 < ms then some (now + ms) else none)
  | .await ms ready next, now, s =>
    let p := passUntil elapse ready ms now s
    (lastWait elapse next p.1 p.2).or (if now < p.1 then some p.1 else none)

theorem le_lastWait (m : Activity ε σ α) (now : Nat) (s : σ) {t : Nat} (h : lastWait elapse m now s = some t) :
    now ≤ t := by
  induction m generalizing now s with
  | done a => cases h
  | emit e next ih => exact ih now s h
  | read next ih => exact ih now s now s h
  | write s' next ih => exact ih now s' h
  | work ms next ih => exact Nat.le_trans (Nat.le_add_right now ms) (ih _ _ h)
  | sleep ms next ih =>
    simp only [lastWait, Option.or_eq_some_iff] at h
    rcases h with h | ⟨-, h⟩
    · exact Nat.le_trans (Nat.le_add_right now ms) (ih _ _ h)
    · split at h
      · cases h; exact Nat.le_add_right _ _
      · cases h
  | await ms ready next ih =>
    simp only [lastWait, Option.or_eq_some_iff] at h
    rcases h with h | ⟨-, h⟩
    · exact Nat.le_trans (le_passUntil _ _ _ _ _) (ih _ _ h)
    · split at h
      · cases h; exact le_passUntil _ _ _ _ _
      · cases h

/-- Waiting that has found what it waits for is over, however long it might go on. -/
theorem passUntil_of_ready {ready : Nat → σ → Bool} {k ms now : Nat} {s : σ}
    (h : ready (passUntil elapse ready k now s).1 (passUntil elapse ready k now s).2 = true) (hk : k ≤ ms) :
    passUntil elapse ready ms now s = passUntil elapse ready k now s := by
  induction k generalizing ms now s with
  | zero =>
    cases ms with
    | zero => rfl
    | succ ms =>
      have h0 : ready now s = true := h
      simp [passUntil, h0]
  | succ k ih =>
    cases ms with
    | zero => omega
    | succ ms =>
      by_cases h0 : ready now s = true
      · simp [passUntil, h0]
      · simp only [passUntil, h0, Bool.false_eq_true, if_false] at h ⊢
        exact ih h (by omega)

/-- Waiting that has not found what it waits for has taken all its time. -/
theorem passUntil_of_not_ready {ready : Nat → σ → Bool} {k ms now : Nat} {s : σ}
    (h : ready (passUntil elapse ready k now s).1 (passUntil elapse ready k now s).2 = false) (hk : k < ms) :
    now + k < (passUntil elapse ready ms now s).1 := by
  induction k generalizing ms now s with
  | zero =>
    cases ms with
    | zero => omega
    | succ ms =>
      have h0 : ready now s = false := h
      simp only [passUntil, h0, Bool.false_eq_true, if_false]
      exact Nat.lt_of_lt_of_le (Nat.lt_succ_self _) (le_passUntil _ _ _ _ _)
  | succ k ih =>
    cases ms with
    | zero => omega
    | succ ms =>
      by_cases h0 : ready now s = true
      · simp only [passUntil, h0, if_true] at h
        cases h
      · simp only [passUntil, h0, Bool.false_eq_true, if_false] at h ⊢
        have := ih h (by omega : k < ms)
        omega

/-- A wait of no longer than `ms` ends no later than that. -/
theorem passUntil_le (elapse : Nat → Nat → σ → σ) (ready : Nat → σ → Bool) (ms now : Nat) (s : σ) :
    (passUntil elapse ready ms now s).1 ≤ now + ms := by
  induction ms generalizing now s with
  | zero => exact Nat.le_refl _
  | succ ms ih =>
    simp only [passUntil]
    split
    · exact Nat.le_add_right _ _
    · have := ih (now + 1) (elapse now (now + 1) s)
      omega

/-- Lets some time pass, millisecond by millisecond. -/
def pass (elapse : Nat → Nat → σ → σ) : Nat → Nat → σ → σ
  | 0, _, s => s
  | k + 1, now, s => pass elapse k (now + 1) (elapse now (now + 1) s)

/-- Waiting that does not find what it waits for until some time has passed goes on to that time, where it ends with its
time or with what it has found. -/
theorem passUntil_eq {ready : Nat → σ → Bool} {k ms now : Nat} {s : σ} (hk : k ≤ ms)
    (hbefore : ∀ j, j < k → ready (now + j) (pass elapse j now s) = false)
    (hend : k = ms ∨ ready (now + k) (pass elapse k now s) = true) :
    passUntil elapse ready ms now s = (now + k, pass elapse k now s) := by
  induction k generalizing ms now s with
  | zero =>
    cases ms with
    | zero => rfl
    | succ ms =>
      have hready : ready now s = true := hend.resolve_left (by omega)
      simp only [passUntil, hready, if_true]
      rfl
  | succ k ih =>
    cases ms with
    | zero => omega
    | succ ms =>
      have h0 : ready now s = false := hbefore 0 (Nat.succ_pos k)
      have hnow : ∀ j, now + 1 + j = now + (j + 1) := fun j => by omega
      simp only [passUntil, h0, Bool.false_eq_true, if_false]
      rw [ih (by omega), hnow]
      · rfl
      · intro j hj
        rw [hnow]
        exact hbefore (j + 1) (by omega)
      · rw [hnow]
        exact hend.imp (by omega) id

/-- What a cut makes of an activity: it takes effect exactly before the end of the last wait, and elsewhere the run is the
one without a cut. -/
theorem run_cut (elapse : Nat → Nat → σ → σ) (c : Nat) (m : Activity ε σ α) (now : Nat) (s : σ) :
    (∃ t, lastWait elapse m now s = some t ∧ c < t) ∧ (run elapse (some c) m now s).result = none ∨
      (∀ t, lastWait elapse m now s = some t → t ≤ c) ∧ run elapse (some c) m now s = run elapse none m now s := by
  induction m generalizing now s with
  | done a => exact Or.inr ⟨fun _ h => (nomatch h), rfl⟩
  | emit e next ih =>
    rcases ih now s with h | ⟨h, hr⟩
    · exact Or.inl h
    · refine Or.inr ⟨h, ?_⟩
      simp only [run, hr]
  | read next ih => exact ih now s now s
  | write s' next ih => exact ih now s'
  | work ms next ih => exact ih _ _
  | sleep ms next ih =>
    simp only [run, lastWait]
    cases hw : cutWithin (some c) now ms with
    | some u =>
      obtain ⟨c', hc, hms, hlt, -⟩ := cutWithin_eq_some hw
      cases hc
      refine Or.inl ⟨?_, rfl⟩
      cases hl : lastWait elapse next (now + ms) (elapse now (now + ms) s) with
      | some t => exact ⟨t, rfl, Nat.lt_of_lt_of_le hlt (le_lastWait _ _ _ hl)⟩
      | none => exact ⟨now + ms, by simp [hms], hlt⟩
    | none =>
      rcases ih (now + ms) (elapse now (now + ms) s) with ⟨⟨t, ht, hct⟩, hr⟩ | ⟨h, hr⟩
      · exact Or.inl ⟨⟨t, by simp [ht], hct⟩, hr⟩
      · refine Or.inr ⟨fun t ht => ?_, hr⟩
        rw [Option.or_eq_some_iff] at ht
        rcases ht with ht | ⟨-, ht⟩
        · exact h t ht
        · split at ht
          · rename_i hms
            cases ht
            exact cutWithin_eq_none hw hms
          · cases ht
  | await ms ready next ih =>
    simp only [run, lastWait]
    cases hw : cutWithin (some c) now ms with
    | some u =>
      obtain ⟨c', hc, hms, hlt, rfl⟩ := cutWithin_eq_some hw
      cases hc
      cases hr : ready (passUntil elapse ready (max now c - now) now s).1
          (passUntil elapse ready (max now c - now) now s).2 with
      | true =>
        -- the wait ends no later than the cut, which leaves it as it is
        have hp := passUntil_of_ready hr (by omega : max now c - now ≤ ms)
        have hle := passUntil_le elapse ready (max now c - now) now s
        simp only [hp, hr, if_true]
        rcases ih _ _ with ⟨⟨t, ht, hct⟩, hn⟩ | ⟨h, hn⟩
        · exact Or.inl ⟨⟨t, by rw [ht]; rfl, hct⟩, hn⟩
        · refine Or.inr ⟨fun t ht => ?_, hn⟩
          rw [Option.or_eq_some_iff] at ht
          rcases ht with ht | ⟨-, ht⟩
          · exact h t ht
          · split at ht
            · cases ht
              omega
            · cases ht
      | false =>
        have hlt' := passUntil_of_not_ready hr (by omega : max now c - now < ms)
        refine Or.inl ⟨?_, by simp [hr]⟩
        cases hl : lastWait elapse next (passUntil elapse ready ms now s).1 (passUntil elapse ready ms now s).2 with
        | some t => exact ⟨t, rfl, by have := le_lastWait _ _ _ hl; omega⟩
        | none => exact ⟨_, by rw [if_pos (by omega)]; rfl, by omega⟩
    | none =>
      have hle := passUntil_le elapse ready ms now s
      rcases ih (passUntil elapse ready ms now s).1 (passUntil elapse ready ms now s).2 with ⟨⟨t, ht, hct⟩, hn⟩ | ⟨h, hn⟩
      · exact Or.inl ⟨⟨t, by rw [ht]; rfl, hct⟩, hn⟩
      · refine Or.inr ⟨fun t ht => ?_, hn⟩
        rw [Option.or_eq_some_iff] at ht
        rcases ht with ht | ⟨-, ht⟩
        · exact h t ht
        · split at ht
          · cases ht
            have := cutWithin_eq_none hw (by omega)
            omega
          · cases ht

/-- An activity is cut off exactly when the cut comes before its last wait ends. -/
theorem run_cut_iff (elapse : Nat → Nat → σ → σ) (c : Nat) (m : Activity ε σ α) (now : Nat) (s : σ) :
    (run elapse (some c) m now s).result = none ↔ ∃ t, lastWait elapse m now s = some t ∧ c < t := by
  rcases run_cut elapse c m now s with ⟨h, hr⟩ | ⟨h, hr⟩
  · exact iff_of_true hr h
  · obtain ⟨a, ha⟩ := run_none_some elapse m now s
    refine iff_of_false (by rw [hr, ha]; exact nofun) ?_
    rintro ⟨t, ht, hct⟩
    exact absurd (h t ht) (by omega)

/-- An activity that is not cut off does what it does without a cut. -/
theorem run_eq_of_not_cut {c : Nat} {m : Activity ε σ α} {now : Nat} {s : σ}
    (h : (run elapse (some c) m now s).result ≠ none) : run elapse (some c) m now s = run elapse none m now s := by
  rcases run_cut elapse c m now s with ⟨-, hr⟩ | ⟨-, hr⟩
  · exact absurd hr h
  · exact hr

/-- An activity that has a result is what it is without a cut. -/
theorem run_eq_of_result {cut : Option Nat} {m : Activity ε σ α} {now : Nat} {s : σ} {a : α}
    (h : (run elapse cut m now s).result = some a) : run elapse cut m now s = run elapse none m now s := by
  cases cut with
  | none => rfl
  | some c => exact run_eq_of_not_cut (by rw [h]; exact nofun)

/-- The last wait ends within the run. -/
theorem lastWait_le_now (elapse : Nat → Nat → σ → σ) (m : Activity ε σ α) (now : Nat) (s : σ) {t : Nat}
    (h : lastWait elapse m now s = some t) : t ≤ (run elapse none m now s).now := by
  induction m generalizing now s with
  | done a => cases h
  | emit e next ih => exact ih now s h
  | read next ih => exact ih now s now s h
  | write s' next ih => exact ih now s' h
  | work ms next ih => exact ih _ _ h
  | sleep ms next ih =>
    simp only [lastWait, Option.or_eq_some_iff] at h
    rcases h with h | ⟨-, h⟩
    · exact ih _ _ h
    · split at h
      · cases h; exact le_run_now elapse none next (now + ms) _
      · cases h
  | await ms ready next ih =>
    simp only [lastWait, Option.or_eq_some_iff] at h
    rcases h with h | ⟨-, h⟩
    · exact ih _ _ h
    · split at h
      · cases h; exact le_run_now elapse none next _ _
      · cases h

/-- A cut that comes when an activity is over, or later, does nothing. -/
theorem run_eq_of_le {c : Nat} {m : Activity ε σ α} {now : Nat} {s : σ} (h : (run elapse none m now s).now ≤ c) :
    run elapse (some c) m now s = run elapse none m now s := by
  rcases run_cut elapse c m now s with ⟨⟨t, ht, hct⟩, -⟩ | ⟨-, hr⟩
  · have := lastWait_le_now elapse m now s ht
    omega
  · exact hr

/-! ## Cuts one after the other -/

/-- Nothing is told before an activity begins. -/
theorem le_of_mem_events (elapse : Nat → Nat → σ → σ) (cut : Option Nat) (m : Activity ε σ α) (now : Nat) (s : σ) :
    ∀ e ∈ (run elapse cut m now s).events, now ≤ e.1 := by
  induction m generalizing now s with
  | done a => exact List.forall_mem_nil _
  | emit e next ih => exact List.forall_mem_cons.2 ⟨Nat.le_refl now, ih now s⟩
  | read next ih => exact ih now s now s
  | write s' next ih => exact ih now s'
  | work ms next ih => exact fun e he => Nat.le_trans (Nat.le_add_right now ms) (ih _ _ e he)
  | sleep ms next ih =>
    simp only [run]
    split
    · exact List.forall_mem_nil _
    · exact fun e he => Nat.le_trans (Nat.le_add_right now ms) (ih _ _ e he)
  | await ms ready next ih =>
    simp only [run]
    split
    · split
      · exact fun e he => Nat.le_trans (le_passUntil _ _ _ _ _) (ih _ _ e he)
      · exact List.forall_mem_nil _
    · exact fun e he => Nat.le_trans (le_passUntil _ _ _ _ _) (ih _ _ e he)

/-- Waiting that has not found in some time what it waits for takes no less than that time. -/
theorem le_passUntil_of_not_ready {ready : Nat → σ → Bool} {k ms now : Nat} {s : σ}
    (h : ready (passUntil elapse ready k now s).1 (passUntil elapse ready k now s).2 = false) (hk : k ≤ ms) :
    now + k ≤ (passUntil elapse ready ms now s).1 := by
  induction k generalizing ms now s with
  | zero => exact le_passUntil _ _ _ _ _
  | succ k ih =>
    cases ms with
    | zero => omega
    | succ ms =>
      by_cases h0 : ready now s = true
      · simp only [passUntil, h0, if_true] at h
        cases h
      · simp only [passUntil, h0, Bool.false_eq_true, if_false] at h ⊢
        have := ih h (by omega : k ≤ ms)
        omega

/-- A run is cut off no earlier than at `c`, and another goes on from there: it tells more, and all of that no earlier
than at `c`. -/
structure CutBefore (c : Nat) (r r' : Run ε σ α) : Prop where
  /-- The one has no result. -/
  result_eq : r.result = none
  /-- It is cut off no earlier than at `c`. -/
  le_now : c ≤ r.now
  /-- The other ends no earlier. -/
  le_now' : c ≤ r'.now
  /-- What the other tells besides, it tells no earlier. -/
  events_eq : ∃ later, r'.events = r.events ++ later ∧ ∀ e ∈ later, c ≤ e.1

/-- A run that tells nothing more, where it is cut off, than another that goes on. -/
theorem CutBefore.of_nil {c : Nat} {now : Nat} {s : σ} {r : Run ε σ α} (hnow : c ≤ now) (hr : c ≤ r.now)
    (he : ∀ e ∈ r.events, c ≤ e.1) : CutBefore c ⟨none, now, s, []⟩ r :=
  ⟨rfl, hnow, hr, r.events, rfl, he⟩

/-- A run that tells nothing more, where it is cut off, than one that begins no earlier than at `c`. -/
theorem CutBefore.of_run {c now later : Nat} {s s' : σ} (cut : Option Nat) (hnow : c ≤ now) (hlater : c ≤ later)
    (m : Activity ε σ α) : CutBefore c ⟨none, now, s, []⟩ (run elapse cut m later s') :=
  .of_nil hnow (Nat.le_trans hlater (le_run_now elapse cut m later s')) fun e he =>
    Nat.le_trans hlater (le_of_mem_events elapse cut m later s' e he)

/-- With an earlier cut, an activity comes to its end as it does with a later one, or it is cut before. -/
theorem run_cutBefore (elapse : Nat → Nat → σ → σ) {c : Nat} {cut : Option Nat} (hcut : ∀ c', cut = some c' → c ≤ c')
    (m : Activity ε σ α) (now : Nat) (s : σ) :
    (∃ a, (run elapse cut m now s).result = some a) ∧ run elapse (some c) m now s = run elapse cut m now s ∨
      CutBefore c (run elapse (some c) m now s) (run elapse cut m now s) := by
  induction m generalizing now s with
  | done a => exact Or.inl ⟨⟨a, rfl⟩, rfl⟩
  | emit e next ih =>
    rcases ih now s with ⟨hsome, h⟩ | ⟨hresult, hle, hle', later, hevents, hlater⟩
    · exact Or.inl ⟨hsome, by simp only [run, h]⟩
    · exact Or.inr ⟨hresult, hle, hle', later, by simp only [run, hevents, List.cons_append], hlater⟩
  | read next ih => exact ih now s now s
  | write s' next ih => exact ih now s'
  | work ms next ih => exact ih _ _
  | sleep ms next ih =>
    simp only [run]
    cases hw : cutWithin (some c) now ms with
    | some u =>
      obtain ⟨c₁, hc, hms, hlt, rfl⟩ := cutWithin_eq_some hw
      cases hc
      right
      cases hw' : cutWithin cut now ms with
      | some u =>
        obtain ⟨c', hc', -, -, rfl⟩ := cutWithin_eq_some hw'
        have := hcut c' hc'
        exact .of_nil (Nat.le_max_right _ _) (by dsimp only; omega) (List.forall_mem_nil _)
      | none => exact .of_run cut (Nat.le_max_right _ _) (Nat.le_of_lt hlt) next
    | none => simpa only [cutWithin_none_of_le hcut hw] using ih _ _
  | await ms ready next ih =>
    simp only [run]
    cases hw : cutWithin (some c) now ms with
    | some u =>
      obtain ⟨c₁, hc, hms, hlt, rfl⟩ := cutWithin_eq_some hw
      cases hc
      obtain ⟨l, hkl, hl⟩ := exists_wait_le hcut (by omega : max now c - now ≤ ms)
      cases hr : ready (passUntil elapse ready (max now c - now) now s).1
          (passUntil elapse ready (max now c - now) now s).2 with
      | true =>
        have hp := passUntil_of_ready hr hkl
        rcases hl with ⟨hl, rfl⟩ | ⟨u, hl, rfl⟩
        · simpa only [hl, hp, hr, if_true] using ih _ _
        · simpa only [hl, hp, hr, if_true] using ih _ _
      | false =>
        -- the one is cut off here, and whatever becomes of the other comes later
        have hk := le_passUntil_of_not_ready hr (Nat.le_refl _)
        have hk' := le_passUntil_of_not_ready hr hkl
        have hc : c ≤ (passUntil elapse ready (max now c - now) now s).1 := by omega
        have hc' : c ≤ (passUntil elapse ready l now s).1 := by omega
        right
        rcases hl with ⟨hl, rfl⟩ | ⟨u, hl, rfl⟩
        · simpa only [hl, hr, Bool.false_eq_true, if_false] using .of_run cut hc hc' next
        · simp only [hl, hr, Bool.false_eq_true, if_false]
          split
          · exact .of_run cut hc hc' next
          · exact .of_nil hc hc' (List.forall_mem_nil _)
    | none => simpa only [cutWithin_none_of_le hcut hw] using ih _ _

/-! ## Activities that only wait -/

/-- An activity takes time only where it waits. -/
def OnlyWaits : Activity ε σ α → Prop
  | .done _ => True
  | .emit _ next => OnlyWaits next
  | .read next => ∀ now s, OnlyWaits (next now s)
  | .write _ next => OnlyWaits next
  | .work ms next => ms = 0 ∧ OnlyWaits next
  | .sleep _ next => OnlyWaits next
  | .await _ _ next => OnlyWaits next

theorem OnlyWaits.bind {m : Activity ε σ α} {f : α → Activity ε σ β} (hm : OnlyWaits m) (hf : ∀ a, OnlyWaits (f a)) :
    OnlyWaits (m >>= f) := by
  rw [bind_eq]
  induction m with
  | done a => exact hf a
  | emit e next ih => exact ih hm
  | read next ih => exact fun now s => ih now s (hm now s)
  | write s next ih => exact ih hm
  | work ms next ih => exact ⟨hm.1, ih hm.2⟩
  | sleep ms next ih => exact ih hm
  | await ms ready next ih => exact ih hm

/-- An activity that only waits ends with its last wait. -/
theorem OnlyWaits.now_eq {m : Activity ε σ α} (h : OnlyWaits m) (now : Nat) (s : σ) :
    (run elapse none m now s).now = (lastWait elapse m now s).getD now := by
  induction m generalizing now s with
  | done a => rfl
  | emit e next ih => exact ih h now s
  | read next ih => exact ih now s (h now s) now s
  | write s' next ih => exact ih h now s'
  | work ms next ih =>
    obtain ⟨rfl, h⟩ := h
    exact ih h _ _
  | sleep ms next ih =>
    have hnext := ih h (now + ms) (elapse now (now + ms) s)
    simp only [run, cutWithin, lastWait, hnext]
    cases hl : lastWait elapse next (now + ms) (elapse now (now + ms) s) with
    | some t => rfl
    | none =>
      by_cases hms : 0 < ms
      · simp [hms]
      · simp [hms]
        omega
  | await ms ready next ih =>
    have hnext := ih h (passUntil elapse ready ms now s).1 (passUntil elapse ready ms now s).2
    have hle := le_passUntil elapse ready ms now s
    simp only [run, cutWithin, lastWait, hnext]
    cases hl : lastWait elapse next (passUntil elapse ready ms now s).1 (passUntil elapse ready ms now s).2 with
    | some t => rfl
    | none =>
      by_cases hlt : now < (passUntil elapse ready ms now s).1
      · simp [hlt]
      · simp [hlt]
        omega

/-! ## What an activity can end with -/

/-- An activity can only end with something of which `p` holds. -/
def EndsIn (p : α → Prop) : Activity ε σ α → Prop
  | .done a => p a
  | .emit _ next => EndsIn p next
  | .read next => ∀ now s, EndsIn p (next now s)
  | .write _ next => EndsIn p next
  | .work _ next => EndsIn p next
  | .sleep _ next => EndsIn p next
  | .await _ _ next => EndsIn p next

theorem EndsIn.bind {q : α → Prop} {p : β → Prop} {m : Activity ε σ α} {f : α → Activity ε σ β} (hm : EndsIn q m)
    (hf : ∀ a, q a → EndsIn p (f a)) : EndsIn p (m >>= f) := by
  rw [bind_eq]
  induction m with
  | done a => exact hf a hm
  | emit e next ih => exact ih hm
  | read next ih => exact fun now s => ih now s (hm now s)
  | write s next ih => exact ih hm
  | work ms next ih => exact ih hm
  | sleep ms next ih => exact ih hm
  | await ms ready next ih => exact ih hm

/-- Whatever an activity ends with is something. -/
theorem EndsIn.any (m : Activity ε σ α) : EndsIn (fun _ => True) m := by
  induction m with
  | done a => trivial
  | emit e next ih => exact ih
  | read next ih => exact ih
  | write s next ih => exact ih
  | work ms next ih => exact ih
  | sleep ms next ih => exact ih
  | await ms ready next ih => exact ih

theorem EndsIn.of_run {p : α → Prop} {m : Activity ε σ α} (h : EndsIn p m) {now : Nat} {s : σ} {a : α}
    (hrun : (run elapse cut m now s).result = some a) : p a := by
  induction m generalizing now s with
  | done b =>
    cases hrun
    exact h
  | emit e next ih => exact ih h hrun
  | read next ih => exact ih now s (h now s) hrun
  | write s' next ih => exact ih h hrun
  | work ms next ih => exact ih h hrun
  | sleep ms next ih =>
    simp only [run] at hrun
    split at hrun
    · cases hrun
    · exact ih h hrun
  | await ms ready next ih =>
    simp only [run] at hrun
    split at hrun
    · split at hrun
      · exact ih h hrun
      · cases hrun
    · exact ih h hrun

end Activity

end StagedLaunch
