import StagedLaunch.Proofs.Activity

/-!
# Runs side by side

Two activities, each over states of its own, run side by side: they end alike if they have the same result at the same
instant, in states that are related (`EndsAlike`). One lemma for each kind of activity says when it does so, for relations
that are kept while time passes (`KeptInTime`); `EndsAlike.bind` puts activities together.
-/

namespace StagedLaunch

variable {ε ε' σ τ α β : Type}

/-- Two runs end alike: with the same result at the same instant, in states that are related. There is no result where both
are cut off. -/
structure EndsAlike (Q : Option α → σ → τ → Prop) (r : Run ε σ α) (r' : Run ε' τ α) : Prop where
  /-- The results are the same. -/
  result_eq : r'.result = r.result
  /-- The instants are the same. -/
  now_eq : r'.now = r.now
  /-- The states are related. -/
  state : Q r.result r.state r'.state

/-- A relation between states is kept while time passes. -/
def KeptInTime (elapse : Nat → Nat → σ → σ) (elapse' : Nat → Nat → τ → τ) (S : σ → τ → Prop) : Prop :=
  ∀ now later s s', S s s' → S (elapse now later s) (elapse' now later s')

namespace EndsAlike

variable {elapse : Nat → Nat → σ → σ} {elapse' : Nat → Nat → τ → τ} {cut : Option Nat} {now : Nat} {s : σ} {s' : τ}
  {S : σ → τ → Prop}

theorem mono {Q Q' : Option α → σ → τ → Prop} {r : Run ε σ α} {r' : Run ε' τ α} (h : EndsAlike Q r r')
    (hQ : ∀ a v v', Q a v v' → Q' a v v') : EndsAlike Q' r r' :=
  ⟨h.result_eq, h.now_eq, hQ _ _ _ h.state⟩

/-- Events told before make no difference. -/
theorem after {Q : Option α → σ → τ → Prop} {r : Run ε σ α} {r' : Run ε' τ α} (events : List (Nat × ε))
    (events' : List (Nat × ε')) (h : EndsAlike Q r r') : EndsAlike Q (r.after events) (r'.after events') :=
  ⟨h.result_eq, h.now_eq, h.state⟩

/-- Two activities end alike when their first parts do, and the second parts from wherever those have ended. -/
theorem bind {Q : Option α → σ → τ → Prop} {Q' : Option β → σ → τ → Prop} {m : Activity ε σ α} {m' : Activity ε' τ α}
    {f : α → Activity ε σ β} {f' : α → Activity ε' τ β} (h : EndsAlike Q (m.run elapse cut now s) (m'.run elapse' cut now s'))
    (hf : ∀ a later v v', Q (some a) v v' → EndsAlike Q' ((f a).run elapse cut later v) ((f' a).run elapse' cut later v'))
    (hcut : ∀ v v', Q none v v' → Q' none v v') :
    EndsAlike Q' ((m >>= f).run elapse cut now s) ((m' >>= f').run elapse' cut now s') := by
  rcases hr : m.run elapse cut now s with ⟨r, later, v, events⟩
  rcases hr' : m'.run elapse' cut now s' with ⟨r', later', v', events'⟩
  rw [hr, hr'] at h
  obtain ⟨rfl, rfl, hstate⟩ := h
  cases r' with
  | none =>
    rw [Activity.run_bind_none hr, Activity.run_bind_none hr']
    exact ⟨rfl, rfl, hcut _ _ hstate⟩
  | some a =>
    rw [Activity.run_bind_some hr, Activity.run_bind_some hr']
    exact (hf a _ _ _ hstate).after _ _

theorem pure (a : α) (h : S s s') :
    EndsAlike (fun _ => S) ((Pure.pure a : Activity ε σ α).run elapse cut now s)
      ((Pure.pure a : Activity ε' τ α).run elapse' cut now s') :=
  ⟨rfl, rfl, h⟩

theorem tell (e : ε) (e' : ε') (h : S s s') :
    EndsAlike (fun _ => S) ((Activity.tell e).run elapse cut now s) ((Activity.tell e').run elapse' cut now s') :=
  ⟨rfl, rfl, h⟩

theorem look {f : Nat → σ → α} {f' : Nat → τ → α} (hf : f' now s' = f now s) (h : S s s') :
    EndsAlike (fun _ => S) ((Activity.look f : Activity ε σ α).run elapse cut now s)
      ((Activity.look f' : Activity ε' τ α).run elapse' cut now s') :=
  ⟨congrArg some hf, rfl, h⟩

theorem change {f : Nat → σ → σ} {f' : Nat → τ → τ} (h : S (f now s) (f' now s')) :
    EndsAlike (fun _ => S) ((Activity.change f : Activity ε σ Unit).run elapse cut now s)
      ((Activity.change f' : Activity ε' τ Unit).run elapse' cut now s') :=
  ⟨rfl, rfl, h⟩

theorem act {f : Nat → σ → α × σ} {f' : Nat → τ → α × τ} (hf : (f' now s').1 = (f now s).1)
    (h : S (f now s).2 (f' now s').2) :
    EndsAlike (fun _ => S) ((Activity.act f : Activity ε σ α).run elapse cut now s)
      ((Activity.act f' : Activity ε' τ α).run elapse' cut now s') :=
  ⟨congrArg some hf, rfl, h⟩

theorem busy (hS : KeptInTime elapse elapse' S) (ms : Nat) (h : S s s') :
    EndsAlike (fun _ => S) ((Activity.busy ms : Activity ε σ Unit).run elapse cut now s)
      ((Activity.busy ms : Activity ε' τ Unit).run elapse' cut now s') :=
  ⟨rfl, rfl, hS _ _ _ _ h⟩

theorem pause (hS : KeptInTime elapse elapse' S) (ms : Nat) (h : S s s') :
    EndsAlike (fun _ => S) ((Activity.pause ms : Activity ε σ Unit).run elapse cut now s)
      ((Activity.pause ms : Activity ε' τ Unit).run elapse' cut now s') := by
  simp only [Activity.pause, Activity.run]
  split
  · exact ⟨rfl, rfl, hS _ _ _ _ h⟩
  · exact ⟨rfl, rfl, hS _ _ _ _ h⟩

/-- Waiting for the same thing takes the same time. -/
theorem passUntil (hS : KeptInTime elapse elapse' S) {ready : Nat → σ → Bool} {ready' : Nat → τ → Bool}
    (hready : ∀ now s s', S s s' → ready' now s' = ready now s) (ms now : Nat) (h : S s s') :
    (Activity.passUntil elapse' ready' ms now s').1 = (Activity.passUntil elapse ready ms now s).1 ∧
      S (Activity.passUntil elapse ready ms now s).2 (Activity.passUntil elapse' ready' ms now s').2 := by
  induction ms generalizing now s s' with
  | zero => exact ⟨rfl, h⟩
  | succ ms ih =>
    simp only [Activity.passUntil, hready now s s' h]
    split
    · exact ⟨rfl, h⟩
    · exact ih _ (hS _ _ _ _ h)

theorem waitFor (hS : KeptInTime elapse elapse' S) {ready : Nat → σ → Bool} {ready' : Nat → τ → Bool}
    (hready : ∀ now s s', S s s' → ready' now s' = ready now s) (ms : Nat) (h : S s s') :
    EndsAlike (fun _ => S) ((Activity.waitFor ms ready : Activity ε σ Bool).run elapse cut now s)
      ((Activity.waitFor ms ready' : Activity ε' τ Bool).run elapse' cut now s') := by
  simp only [Activity.waitFor, Activity.look, Activity.run]
  cases Activity.cutWithin cut now ms with
  | some c =>
    obtain ⟨hnow, hstate⟩ := passUntil hS hready (c - now) now h
    simp only [hnow, hready _ _ _ hstate]
    split
    · exact ⟨rfl, rfl, hstate⟩
    · exact ⟨rfl, rfl, hstate⟩
  | none =>
    obtain ⟨hnow, hstate⟩ := passUntil hS hready ms now h
    simp only [hnow, hready _ _ _ hstate]
    exact ⟨rfl, rfl, hstate⟩

end EndsAlike

end StagedLaunch
