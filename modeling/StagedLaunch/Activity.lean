/-!
# Activities in time

An activity reads and writes a state, emits events, works, and waits. Time is counted in milliseconds, and the state moves on
by itself while time passes. `Activity.run` runs an activity from an instant; an instant at which it is cut off may be given,
and then the activity stops at the first wait that would last beyond it. Work is never cut off.

`run_bind` splits a run at the end of its first part.
-/

namespace StagedLaunch

/-- Something that goes on in time over a state `σ`, emits events `ε` and ends with an `α`. -/
inductive Activity (ε σ α : Type) where
  /-- The end. -/
  | done (a : α)
  /-- Emits an event. -/
  | emit (e : ε) (next : Activity ε σ α)
  /-- Looks at the clock and the state. -/
  | read (next : Nat → σ → Activity ε σ α)
  /-- Replaces the state. -/
  | write (s : σ) (next : Activity ε σ α)
  /-- Works for some time. -/
  | work (ms : Nat) (next : Activity ε σ α)
  /-- Waits for some time. -/
  | sleep (ms : Nat) (next : Activity ε σ α)
  /-- Waits until something holds, for some time at most. -/
  | await (ms : Nat) (ready : Nat → σ → Bool) (next : Activity ε σ α)

namespace Activity

variable {ε ε' σ τ α β : Type}

/-- One activity after another. -/
def bind : Activity ε σ α → (α → Activity ε σ β) → Activity ε σ β
  | .done a, f => f a
  | .emit e next, f => .emit e (bind next f)
  | .read next, f => .read fun now s => bind (next now s) f
  | .write s next, f => .write s (bind next f)
  | .work ms next, f => .work ms (bind next f)
  | .sleep ms next, f => .sleep ms (bind next f)
  | .await ms ready next, f => .await ms ready (bind next f)

instance : Monad (Activity ε σ) where
  pure := .done
  bind := bind

/-- Emits an event. -/
def tell (e : ε) : Activity ε σ Unit := .emit e (.done ())

/-- Emits events in order. -/
def tellAll : List ε → Activity ε σ Unit
  | [] => .done ()
  | e :: rest => .emit e (tellAll rest)

/-- What the clock and the state show. -/
def look (f : Nat → σ → α) : Activity ε σ α := .read fun now s => .done (f now s)

/-- Changes the state. -/
def change (f : Nat → σ → σ) : Activity ε σ Unit := .read fun now s => .write (f now s) (.done ())

/-- Changes the state and keeps something of what was found. -/
def act (f : Nat → σ → α × σ) : Activity ε σ α :=
  .read fun now s => .write (f now s).2 (.done (f now s).1)

/-- Waits for some time. -/
def pause (ms : Nat) : Activity ε σ Unit := .sleep ms (.done ())

/-- Works for some time. -/
def busy (ms : Nat) : Activity ε σ Unit := .work ms (.done ())

/-- Waits until something holds, for some time at most; tells whether it holds. -/
def waitFor (ms : Nat) (ready : Nat → σ → Bool) : Activity ε σ Bool := .await ms ready (look ready)

/-- An activity that waits where it would work, so that it can be cut off there too. -/
def yielding : Activity ε σ α → Activity ε σ α
  | .done a => .done a
  | .emit e next => .emit e (yielding next)
  | .read next => .read fun now s => yielding (next now s)
  | .write s next => .write s (yielding next)
  | .work ms next => .sleep ms (yielding next)
  | .sleep ms next => .sleep ms (yielding next)
  | .await ms ready next => .await ms ready (yielding next)

/-- An activity over a part of a state, with its events taken for others. -/
def onPart (get : τ → σ) (set : σ → τ → τ) (event : ε → ε') : Activity ε σ α → Activity ε' τ α
  | .done a => .done a
  | .emit e next => .emit (event e) (onPart get set event next)
  | .read next => .read fun now t => onPart get set event (next now (get t))
  | .write s next => .read fun _ t => .write (set s t) (onPart get set event next)
  | .work ms next => .work ms (onPart get set event next)
  | .sleep ms next => .sleep ms (onPart get set event next)
  | .await ms ready next => .await ms (fun now t => ready now (get t)) (onPart get set event next)

end Activity

/-- What has become of an activity. -/
structure Run (ε σ α : Type) where
  /-- What it ended with, absent if it was cut off. -/
  result : Option α
  /-- The instant at which it ended or was cut off. -/
  now : Nat
  /-- The state at that instant. -/
  state : σ
  /-- The events with their instants, in order. -/
  events : List (Nat × ε)

namespace Activity

variable {ε σ α β : Type}

/-- Lets time pass until something holds, for some time at most. -/
def passUntil (elapse : Nat → Nat → σ → σ) (ready : Nat → σ → Bool) : Nat → Nat → σ → Nat × σ
  | 0, now, s => (now, s)
  | ms + 1, now, s =>
    if ready now s then (now, s) else passUntil elapse ready ms (now + 1) (elapse now (now + 1) s)

/-- The instant at which a wait is cut off, if it would last beyond it. -/
def cutWithin (cut : Option Nat) (now ms : Nat) : Option Nat :=
  match cut with
  | some c => if 0 < ms && c < now + ms then some (max now c) else none
  | none => none

/-- Runs an activity from an instant and a state. `elapse` moves the state on from one instant to a later one, and `cut` is
the instant at which the activity is cut off. -/
def run (elapse : Nat → Nat → σ → σ) (cut : Option Nat) : Activity ε σ α → Nat → σ → Run ε σ α
  | .done a, now, s => ⟨some a, now, s, []⟩
  | .emit e next, now, s =>
    let r := run elapse cut next now s
    { r with events := (now, e) :: r.events }
  | .read next, now, s => run elapse cut (next now s) now s
  | .write s next, now, _ => run elapse cut next now s
  | .work ms next, now, s => run elapse cut next (now + ms) (elapse now (now + ms) s)
  | .sleep ms next, now, s =>
    match cutWithin cut now ms with
    | some c => ⟨none, c, elapse now c s, []⟩
    | none => run elapse cut next (now + ms) (elapse now (now + ms) s)
  | .await ms ready next, now, s =>
    match cutWithin cut now ms with
    | some c =>
      let (now, s) := passUntil elapse ready (c - now) now s
      if ready now s then run elapse cut next now s else ⟨none, now, s, []⟩
    | none =>
      let (now, s) := passUntil elapse ready ms now s
      run elapse cut next now s

/-- A run of one activity after another is a run of the first, and one of the second from where that ended. -/
theorem run_bind (elapse : Nat → Nat → σ → σ) (cut : Option Nat) (m : Activity ε σ α)
    (f : α → Activity ε σ β) (now : Nat) (s : σ) :
    run elapse cut (bind m f) now s =
      let r := run elapse cut m now s
      match r.result with
      | none => ⟨none, r.now, r.state, r.events⟩
      | some a =>
        let r' := run elapse cut (f a) r.now r.state
        { r' with events := r.events ++ r'.events } := by
  induction m generalizing now s with
  | done a => simp [bind, run]
  | emit e next ih =>
    simp only [bind, run, ih]
    split <;> simp_all
  | read next ih => simp only [bind, run, ih]
  | write s' next ih => simp only [bind, run, ih]
  | work ms next ih => simp only [bind, run, ih]
  | sleep ms next ih =>
    simp only [bind, run]
    cases cutWithin cut now ms with
    | some c => simp
    | none => simp only [ih]
  | await ms ready next ih =>
    simp only [bind, run]
    cases cutWithin cut now ms with
    | some c =>
      by_cases h : ready (passUntil elapse ready (c - now) now s).1 (passUntil elapse ready (c - now) now s).2 = true
      · simp only [h, if_true, ih]
      · simp [h]
    | none => simp only [ih]

end Activity

end StagedLaunch
