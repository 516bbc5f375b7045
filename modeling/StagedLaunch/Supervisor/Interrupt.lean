import StagedLaunch.Supervisor.Basic

/-!
# Signals that interrupt a run

A run waits for a signal to terminate and for an interrupt from the keyboard, and is interrupted by whichever comes first
(`shutdownSignal`). Listening for the keyboard may fail, which it does at once; that answer is turned into a wait without an
end (`heedKeyboard`), so that a listener that fails interrupts nothing.

A `Wait` is given by what there is when one looks. Whoever waits for signals looks when the wait begins and whenever a signal is
delivered (`ofDeliveries`).
-/

namespace StagedLaunch

/-- Something that is waited for: what has come at an instant, when it has been waited for since another. -/
def Wait (α : Type) := (since now : Nat) → Option α

namespace Wait

variable {α : Type}

/-- What never comes. -/
def never : Wait α := fun _ _ => none

/-- What comes at once. -/
def atOnce (a : α) : Wait α := fun _ _ => some a

/-- What comes some time after the wait begins. -/
def after (ms : Nat) (a : α) : Wait α := fun since now => if since + ms ≤ now then some a else none

/-- What comes first of two things. -/
def either (v w : Wait α) : Wait α := fun since now => (v since now).or (w since now)

/-- What there is at an instant, with the instant; nothing before the wait begins. -/
def at? (w : Wait α) (since now : Nat) : Option (Nat × α) :=
  if since ≤ now then (w since now).map fun a => (now, a) else none

/-- The earlier of two things that may have come. -/
def earlier : Option (Nat × α) → Option (Nat × α) → Option (Nat × α)
  | none, other => other
  | some e, none => some e
  | some e, some other => if other.1 < e.1 then some other else some e

/-- The first of some instants at which there is something, and what it is. -/
def first? (w : Wait α) (since : Nat) : List Nat → Option (Nat × α)
  | [] => none
  | now :: rest => earlier (w.at? since now) (first? w since rest)

end Wait

namespace Interrupt

/-- A signal that is delivered at an instant. -/
abbrev Delivery := Nat × StopSignal

/-- A signal among those that are delivered. -/
def delivery (deliveries : List Delivery) (signal : StopSignal) : Wait StopSignal := fun since now =>
  if deliveries.any fun d => since ≤ d.1 && d.1 ≤ now && d.2 == signal then some signal else none

/-- The answer of a listener for the keyboard: an interrupt when it is delivered, or an error at once. -/
def keyboardListener (works : Bool) (deliveries : List Delivery) : Wait (Except Unit Unit) := fun since now =>
  if works then (delivery deliveries .interrupt since now).map fun _ => .ok () else Wait.atOnce (.error ()) since now

/-- Waits for what a listener for the keyboard answers, and without an end if it fails. -/
def heedKeyboard {ε : Type} (listener : Wait (Except ε Unit)) : Wait StopSignal := fun since now =>
  match listener since now with
  | some (.ok ()) => some .interrupt
  | some (.error _) => Wait.never since now
  | none => none

/-- Waits for a signal to terminate or an interrupt from the keyboard; `terminate` and `keyboard` say whether listening for
each of them works. If it does not work for the signal to terminate, the keyboard is all there is to wait for. -/
def shutdownSignal (terminate keyboard : Bool) (deliveries : List Delivery) : Wait StopSignal :=
  let fromKeyboard := heedKeyboard (keyboardListener keyboard deliveries)
  if terminate then fromKeyboard.either (delivery deliveries .terminate) else fromKeyboard

/-- The interrupt that deliveries bring to a run that has listened since an instant, when listening for the signal to
terminate works. -/
def ofDeliveries (keyboard : Bool) (deliveries : List Delivery) (since : Nat) : Option Interruption :=
  ((shutdownSignal true keyboard deliveries).first? since (since :: deliveries.map Prod.fst)).map fun e => ⟨e.1, some e.2⟩

/-- The interrupt that comes some time after listening starts. -/
def after (delay : Option Nat) (since : Nat) : Option Interruption :=
  delay.map fun ms => ⟨since + ms, none⟩

/-- What is logged when a listener for the keyboard has answered. -/
def answerRecord : Except String Unit → Record
  | .ok () => ⟨.info, "received SIGINT", []⟩
  | .error e => ⟨.warn, "failed to listen for Ctrl+C", [("error", .text e)]⟩

/-- What waiting for the keyboard has led to. -/
structure Waited where
  /-- The interrupt has come. -/
  resolved : Bool
  /-- The instant at which waiting ended. -/
  now : Nat
  /-- What was logged. -/
  records : List Record

/-- Waits for a listener that answers after some time, with an error if there is one, but no longer than a limit. -/
def waitForKeyboard (ends : Nat) (error : Option String) (limit : Nat) : Waited :=
  let listener : Wait (Except String Unit) := .after ends (match error with | some e => .error e | none => .ok ())
  let resolved := (heedKeyboard listener 0 limit).isSome
  ⟨resolved, if resolved then ends else limit, ((listener 0 limit).map answerRecord).toList⟩

end Interrupt

end StagedLaunch
