import StagedLaunch.Proofs.Supervisor.Shortening
import StagedLaunch.Supervisor.Interrupt

/-!
# Only signals interrupt a run

A run is interrupted by the first signal that it hears after its build: a signal to terminate, or an interrupt from the keyboard
if listening for that works. A listener that fails has answered at once, and still nothing interrupts the run but a signal to
terminate, which does so as an interrupt from the keyboard would (`run_heedsSignals`).

`Interrupt.Hears` says what is heard, in terms of the deliveries alone; `SameButSignal` compares two runs that are interrupted at
the same instant by different signals.
-/

namespace StagedLaunch

/-! ## Waiting -/

namespace Wait

variable {α : Type} {w : Wait α} {since t : Nat} {a : α} {looks : List Nat}

theorem at?_eq_some_iff {now : Nat} : w.at? since now = some (t, a) ↔ t = now ∧ since ≤ t ∧ w since t = some a := by
  unfold at?
  split
  · rename_i hle
    rw [Option.map_eq_some_iff]
    constructor
    · rintro ⟨b, hb, heq⟩
      cases heq
      exact ⟨rfl, hle, hb⟩
    · rintro ⟨rfl, -, ha⟩
      exact ⟨a, ha, rfl⟩
  · rename_i hle
    refine iff_of_false nofun ?_
    rintro ⟨rfl, h, -⟩
    exact hle h

/-- The earlier of two things is one of them, and neither comes before it. -/
theorem earlier_eq_some {e e' : Option (Nat × α)} (h : earlier e e' = some (t, a)) :
    (e = some (t, a) ∨ e' = some (t, a)) ∧ ∀ u b, e = some (u, b) ∨ e' = some (u, b) → t ≤ u := by
  cases e with
  | none => grind [earlier]
  | some e =>
    cases e' with
    | none => grind [earlier]
    | some e' =>
      rw [earlier] at h
      split at h
      · grind
      · grind

theorem earlier_eq_none_iff {e e' : Option (Nat × α)} : earlier e e' = none ↔ e = none ∧ e' = none := by
  cases e with
  | none => simp [earlier]
  | some e =>
    cases e' with
    | none => simp [earlier]
    | some e' =>
      rw [earlier]
      split
      · simp
      · simp

/-- Nothing is found when there is nothing at any of the instants at which one looks. -/
theorem first?_eq_none_iff : w.first? since looks = none ↔ ∀ t ∈ looks, since ≤ t → w since t = none := by
  induction looks with
  | nil => simp [first?]
  | cons now rest ih =>
    rw [first?, earlier_eq_none_iff, ih, List.forall_mem_cons]
    simp [at?]

/-- What is found is there, and there is nothing at an earlier instant at which one looks. -/
theorem first?_eq_some (h : w.first? since looks = some (t, a)) :
    since ≤ t ∧ w since t = some a ∧ ∀ u ∈ looks, since ≤ u → (w since u).isSome = true → t ≤ u := by
  induction looks generalizing t a with
  | nil => cases h
  | cons now rest ih =>
    obtain ⟨hone, hle⟩ := earlier_eq_some h
    have hthere : since ≤ t ∧ w since t = some a := by
      rcases hone with hnow | hrest
      · exact (at?_eq_some_iff.1 hnow).2
      · exact ⟨(ih hrest).1, (ih hrest).2.1⟩
    refine ⟨hthere.1, hthere.2, List.forall_mem_cons.2 ⟨fun hsince hsome => ?_, fun u hu hsince hsome => ?_⟩⟩
    · obtain ⟨b, hb⟩ := Option.isSome_iff_exists.1 hsome
      exact hle now b (Or.inl (at?_eq_some_iff.2 ⟨rfl, hsince, hb⟩))
    · cases hrest : w.first? since rest with
      | none =>
        rw [first?_eq_none_iff.1 hrest u hu hsince] at hsome
        cases hsome
      | some e => exact Nat.le_trans (hle e.1 e.2 (Or.inr hrest)) ((ih hrest).2.2 u hu hsince hsome)

theorem isSome_either (v w : Wait α) (since now : Nat) :
    (v.either w since now).isSome = ((v since now).isSome || (w since now).isSome) :=
  Option.isSome_or

end Wait

/-! ## What is heard -/

namespace Interrupt

/-- A signal that is listened for is delivered at an instant, when listening has begun. -/
def Hears (terminate keyboard : Bool) (deliveries : List Delivery) (since t : Nat) : Prop :=
  since ≤ t ∧ (terminate = true ∧ (t, .terminate) ∈ deliveries ∨ keyboard = true ∧ (t, .interrupt) ∈ deliveries)

/-- It is the first signal that is heard. -/
def HearsFirst (terminate keyboard : Bool) (deliveries : List Delivery) (since t : Nat) : Prop :=
  Hears terminate keyboard deliveries since t ∧ ∀ u, Hears terminate keyboard deliveries since u → t ≤ u

variable {ε : Type} {terminate keyboard : Bool} {deliveries : List Delivery} {signal : StopSignal} {since now t : Nat}

theorem delivery_eq_some_iff {s : StopSignal} : delivery deliveries signal since now = some s ↔
    s = signal ∧ ∃ t, since ≤ t ∧ t ≤ now ∧ (t, signal) ∈ deliveries := by
  have hany : (deliveries.any fun d => since ≤ d.1 && d.1 ≤ now && d.2 == signal) = true ↔
      ∃ t, since ≤ t ∧ t ≤ now ∧ (t, signal) ∈ deliveries := by
    rw [List.any_eq_true]
    constructor
    · rintro ⟨⟨t, s⟩, hd, hwhen⟩
      simp only [Bool.and_eq_true, decide_eq_true_eq, beq_iff_eq] at hwhen
      obtain ⟨⟨hsince, hnow⟩, rfl⟩ := hwhen
      exact ⟨t, hsince, hnow, hd⟩
    · rintro ⟨t, hsince, hnow, hd⟩
      exact ⟨(t, signal), hd, by simp [hsince, hnow]⟩
  rw [← hany, delivery]
  split
  · rename_i h
    simp [h, eq_comm]
  · rename_i h
    simp [h]

/-- The wait for the keyboard is over exactly when a listener that has not failed has answered. -/
theorem heedKeyboard_eq_some_iff {listener : Wait (Except ε Unit)} {s : StopSignal} :
    heedKeyboard listener since now = some s ↔ s = .interrupt ∧ listener since now = some (.ok ()) := by
  unfold heedKeyboard
  split
  · rename_i h
    simp [h, eq_comm]
  · rename_i h
    simp [h, Wait.never]
  · rename_i h
    simp [h]

theorem keyboardListener_eq_ok_iff : keyboardListener keyboard deliveries since now = some (.ok ()) ↔
    keyboard = true ∧ ∃ t, since ≤ t ∧ t ≤ now ∧ (t, .interrupt) ∈ deliveries := by
  cases keyboard with
  | false => simp [keyboardListener, Wait.atOnce]
  | true =>
    rw [keyboardListener, if_pos rfl, Option.map_eq_some_iff]
    constructor
    · rintro ⟨s, hs, -⟩
      exact ⟨rfl, (delivery_eq_some_iff.1 hs).2⟩
    · rintro ⟨-, h⟩
      exact ⟨.interrupt, delivery_eq_some_iff.2 ⟨rfl, h⟩, rfl⟩

/-- What ends the wait is a signal that was heard. -/
theorem heard_of_shutdownSignal {s : StopSignal} (h : shutdownSignal terminate keyboard deliveries since now = some s) :
    ∃ t ≤ now, Hears terminate keyboard deliveries since t ∧ (t, s) ∈ deliveries := by
  have hkeyboard : heedKeyboard (keyboardListener keyboard deliveries) since now = some s →
      ∃ t ≤ now, Hears terminate keyboard deliveries since t ∧ (t, s) ∈ deliveries := by
    intro hs
    obtain ⟨rfl, hok⟩ := heedKeyboard_eq_some_iff.1 hs
    obtain ⟨hworks, t, hsince, hnow, hd⟩ := keyboardListener_eq_ok_iff.1 hok
    exact ⟨t, hnow, ⟨hsince, Or.inr ⟨hworks, hd⟩⟩, hd⟩
  cases terminate with
  | false => exact hkeyboard h
  | true =>
    rcases Option.or_eq_some_iff.1 h with hs | ⟨-, hs⟩
    · exact hkeyboard hs
    · obtain ⟨rfl, t, hsince, hnow, hd⟩ := delivery_eq_some_iff.1 hs
      exact ⟨t, hnow, ⟨hsince, Or.inl ⟨rfl, hd⟩⟩, hd⟩

/-- Once a signal has been heard, the wait is over. -/
theorem Hears.shutdownSignal (h : Hears terminate keyboard deliveries since t) (hle : t ≤ now) :
    (shutdownSignal terminate keyboard deliveries since now).isSome = true := by
  obtain ⟨hsince, ⟨rfl, hd⟩ | ⟨rfl, hd⟩⟩ := h
  · have hs := delivery_eq_some_iff.2 ⟨rfl, t, hsince, hle, hd⟩
    refine (Wait.isSome_either _ _ since now).trans ?_
    rw [hs, Option.isSome_some, Bool.or_true]
  · have hs := heedKeyboard_eq_some_iff.2 ⟨rfl, keyboardListener_eq_ok_iff.2 ⟨rfl, t, hsince, hle, hd⟩⟩
    cases terminate with
    | false => exact Option.isSome_of_eq_some hs
    | true =>
      refine (Wait.isSome_either _ _ since now).trans ?_
      rw [hs, Option.isSome_some, Bool.true_or]

/-- The wait for a signal is over exactly when a signal has been heard. -/
theorem shutdownSignal_isSome_iff : (shutdownSignal terminate keyboard deliveries since now).isSome = true ↔
    ∃ t ≤ now, Hears terminate keyboard deliveries since t := by
  constructor
  · intro h
    obtain ⟨s, hs⟩ := Option.isSome_iff_exists.1 h
    obtain ⟨t, hle, ht, -⟩ := heard_of_shutdownSignal hs
    exact ⟨t, hle, ht⟩
  · rintro ⟨t, hle, ht⟩
    exact ht.shutdownSignal hle

theorem Hears.mem_instants (h : Hears terminate keyboard deliveries since t) : t ∈ since :: deliveries.map Prod.fst := by
  obtain ⟨-, ⟨-, hd⟩ | ⟨-, hd⟩⟩ := h
  · exact List.mem_cons_of_mem _ (List.mem_map_of_mem hd)
  · exact List.mem_cons_of_mem _ (List.mem_map_of_mem hd)

/-- The interrupt comes with the first signal that is heard. -/
theorem hearsFirst_of_ofDeliveries {i : Interruption} (h : ofDeliveries keyboard deliveries since = some i) :
    HearsFirst true keyboard deliveries since i.instant ∧ ∃ s, i.signal = some s ∧ (i.instant, s) ∈ deliveries := by
  obtain ⟨⟨t, s⟩, hfirst, rfl⟩ := Option.map_eq_some_iff.1 h
  obtain ⟨-, hs, hmin⟩ := Wait.first?_eq_some hfirst
  -- one looks at every delivery, so nothing was heard before
  have hearlier : ∀ u, Hears true keyboard deliveries since u → t ≤ u := fun u hu =>
    hmin u hu.mem_instants hu.1 (hu.shutdownSignal (Nat.le_refl u))
  obtain ⟨u, hle, hu, hd⟩ := heard_of_shutdownSignal hs
  obtain rfl := Nat.le_antisymm hle (hearlier u hu)
  exact ⟨⟨hu, hearlier⟩, s, rfl, hd⟩

/-- Nothing interrupts a run that hears nothing. -/
theorem ofDeliveries_eq_none_iff :
    ofDeliveries keyboard deliveries since = none ↔ ∀ t, ¬ Hears true keyboard deliveries since t := by
  rw [ofDeliveries, Option.map_eq_none_iff, Wait.first?_eq_none_iff]
  constructor
  · intro h t ht
    have hsome := ht.shutdownSignal (Nat.le_refl t)
    rw [h t ht.mem_instants ht.1] at hsome
    cases hsome
  · intro h t _ _
    cases hs : shutdownSignal true keyboard deliveries since t with
    | none => rfl
    | some s =>
      obtain ⟨u, -, hu, -⟩ := heard_of_shutdownSignal hs
      exact absurd hu (h u)

/-- The first signal that is heard brings the interrupt. -/
theorem HearsFirst.ofDeliveries (h : HearsFirst true keyboard deliveries since t) :
    ∃ s, ofDeliveries keyboard deliveries since = some ⟨t, some s⟩ := by
  cases hi : Interrupt.ofDeliveries keyboard deliveries since with
  | none => exact absurd h.1 (ofDeliveries_eq_none_iff.1 hi t)
  | some i =>
    obtain ⟨hfirst, s, hs, -⟩ := hearsFirst_of_ofDeliveries hi
    have ht : i.instant = t := Nat.le_antisymm (hfirst.2 t h.1) (h.2 _ hfirst.1)
    exact ⟨s, by rw [← ht, ← hs]⟩

end Interrupt

namespace Supervisor

variable {ε σ η : Type}

/-! ## Runs that are interrupted at the same instant -/

/-- What a run tells, but for the signals that have interrupted it. -/
def unsignalled (events : List (Nat × Notice ε)) : List (Nat × Notice ε) :=
  events.filter fun e => match e.2 with
    | .signalled _ => false
    | _ => true

@[simp] theorem unsignalled_append (a b : List (Nat × Notice ε)) : unsignalled (a ++ b) = unsignalled a ++ unsignalled b :=
  List.filter_append a b

theorem unsignalled_interruptEvents (now : Nat) (i : Option Interruption) :
    unsignalled (interruptEvents now i : List (Nat × Notice ε)) = [] := by
  unfold interruptEvents
  split
  · rfl
  · rfl

/-- What has become of a run before its processes are stopped, but for the signals that have interrupted it. -/
def Drive.unsignalled (d : Drive ε σ η) : Drive ε σ η := { d with events := Supervisor.unsignalled d.events }

/-- Two runs that have the same result, the same report and the same end, and tell the same, but for the signals that have
interrupted them. -/
structure SameButSignal (f f' : Finished ε σ) : Prop where
  /-- They have the same failure, or none. -/
  failure_eq : f'.failure = f.failure
  /-- They have the same report. -/
  report_eq : f'.report = f.report
  /-- They end at the same instant. -/
  now_eq : f'.now = f.now
  /-- They leave the same state of what they worked with. -/
  world_eq : f'.world = f.world
  /-- They tell the same. -/
  events_eq : unsignalled f'.events = unsignalled f.events

section Run

variable (env : Environment ε σ η) (options : RunOptions) (plan : Plan) (start : Nat) (world : σ)

theorem driveWindow_unsignalled {i i' : Option Interruption} (h : i'.map Interruption.instant = i.map Interruption.instant)
    (now : Nat) (s : Session σ η) :
    (driveWindow env options plan i' now s).unsignalled = (driveWindow env options plan i now s).unsignalled := by
  unfold driveWindow
  rw [h]
  dsimp only
  split
  · rfl
  · simp only [Drive.unsignalled, unsignalled_append, unsignalled_interruptEvents]

theorem driveLaunch_unsignalled {i i' : Option Interruption} (h : i'.map Interruption.instant = i.map Interruption.instant)
    (now : Nat) (s : Session σ η) :
    (driveLaunch env options plan i' start now s).unsignalled = (driveLaunch env options plan i start now s).unsignalled := by
  unfold driveLaunch
  rw [h]
  dsimp only
  split
  · simp only [Drive.unsignalled, unsignalled_append, unsignalled_interruptEvents]
  · rfl
  · have hwindow := driveWindow_unsignalled env options plan h
      ((launchGroups env options start 0 plan.groups).run (elapse env) (i.map Interruption.instant) now s).now
      ((launchGroups env options start 0 plan.groups).run (elapse env) (i.map Interruption.instant) now s).state
    simp only [Drive.unsignalled, Drive.mk.injEq] at hwindow ⊢
    simp only [unsignalled_append, hwindow, and_self]

variable {interrupt interrupt' : Nat → Option Interruption}

/-- A run that has built hears of an interrupt at the end of its build. -/
theorem drive_unsignalled (h : (interrupt' (listensFrom env plan start world)).map Interruption.instant =
      (interrupt (listensFrom env plan start world)).map Interruption.instant) :
    (drive env options plan interrupt' start world).unsignalled = (drive env options plan interrupt start world).unsignalled := by
  have hnow := builtRun_now env plan start world
  unfold builtRun at hnow
  unfold drive
  dsimp only
  split
  · rfl
  · rfl
  · rw [hnow]
    have hlaunch := driveLaunch_unsignalled env options plan start h (listensFrom env plan start world)
      ((build env plan).run (elapse env) none start ⟨world, .idle, []⟩).state
    simp only [Drive.unsignalled, Drive.mk.injEq] at hlaunch ⊢
    simp only [unsignalled_append, hlaunch, and_self]

/-- Two runs that are interrupted at the same instant are the same but for the signal. -/
theorem sameButSignal_of_instant (h : (interrupt' (listensFrom env plan start world)).map Interruption.instant =
      (interrupt (listensFrom env plan start world)).map Interruption.instant) :
    SameButSignal (run env options plan interrupt start world) (run env options plan interrupt' start world) := by
  have hdrive := drive_unsignalled env options plan start world h
  simp only [Drive.unsignalled, Drive.mk.injEq] at hdrive
  obtain ⟨hfailure, hinterrupted, hnow, hsession, hevents⟩ := hdrive
  unfold run
  dsimp only
  rw [hfailure, hinterrupted, hnow, hsession]
  exact ⟨rfl, rfl, rfl, rfl, by simp only [unsignalled_append, hevents]⟩

/-- A run hears of interrupts only at the end of its build. -/
theorem run_congr (h : interrupt' (listensFrom env plan start world) = interrupt (listensFrom env plan start world)) :
    run env options plan interrupt' start world = run env options plan interrupt start world := by
  have hnow := builtRun_now env plan start world
  unfold builtRun at hnow
  unfold run drive
  simp only [hnow, h]

/-! ## Up to when an interrupt takes effect -/

/-- The run window of a run that nothing interrupts lasts its whole time. -/
theorem driveWindow_never_now (now : Nat) (s : Session σ η) :
    (driveWindow env options plan none now s).now = now + options.runFor := by
  have halike := driveWindow_alike env options plan none now s
  obtain ⟨w, hw⟩ := @driveWindow_ran _ _ _ env options plan none now s rfl
  rw [hw] at halike
  exact congrArg Drive.now halike

/-- A run that nothing interrupts stops its processes when its build or its launch has failed, or after its run window. -/
theorem drive_never_now :
    (∀ e, (builtRun env plan start world).result = some (.error e) →
        (drive env options plan (fun _ => none) start world).now = listensFrom env plan start world) ∧
      ((builtRun env plan start world).result = some (.ok ()) →
        (∀ e, (launchRun env options plan start world).result = some (.error e) →
            (drive env options plan (fun _ => none) start world).now = (launchRun env options plan start world).now) ∧
          ((launchRun env options plan start world).result = some (.ok ()) →
            (drive env options plan (fun _ => none) start world).now =
              (launchRun env options plan start world).now + options.runFor)) := by
  rw [← builtRun_now]
  unfold launchRun builtRun
  refine ⟨fun e hb => ?_, fun hb => ⟨fun e hl => ?_, fun hl => ?_⟩⟩
  · simp only [drive, hb]
  · simp only [drive, hb, driveLaunch, Option.map_none, hl]
  · simp only [drive, hb, driveLaunch, Option.map_none, hl, driveWindow_never_now]

/-- An interrupt that does not miss the launch takes effect up to the instant at which a run that nothing interrupts
begins to stop its processes. -/
theorem interrupted_iff_lt {i : Interruption} (hi : interrupt (listensFrom env plan start world) = some i)
    (hle : listensFrom env plan start world ≤ i.instant) (hmiss : ¬ MissesLaunch env options plan interrupt start world) :
    (run env options plan interrupt start world).report.interrupted = true ↔
      i.instant < (drive env options plan (fun _ => none) start world).now := by
  obtain ⟨hfailed, hbuilt⟩ := drive_never_now env options plan start world
  obtain ⟨e | u, hb⟩ := builtRun_some env plan start world
  · rw [hfailed e hb, (run_of_not_built env options plan interrupt start world hb).2]
    exact iff_of_false Bool.false_ne_true (Nat.not_lt.2 hle)
  · obtain ⟨hlaunchFailed, hlaunched⟩ := hbuilt hb
    obtain ⟨r, hr⟩ : ∃ r, (launchRun env options plan start world).result = some r :=
      Activity.run_none_some (elapse env) _ _ _
    by_cases hcut : CutsLaunch env options plan interrupt start world
    · have hlt := lt_of_cutsLaunch env options plan interrupt start world hi hcut
      refine iff_of_true (run_of_cutsLaunch env options plan interrupt start world hcut).2 ?_
      cases r with
      | error e => rwa [hlaunchFailed e hr]
      | ok u =>
        rw [hlaunched hr]
        omega
    · have hlate : (launchRun env options plan start world).now ≤ i.instant := by
        refine Nat.le_of_not_lt fun hlt => hcut ?_
        exact (cutsLaunch_iff_lt env options plan interrupt start world hb hmiss).2 ⟨i, hi, hlt⟩
      rw [(run_of_not_cutsLaunch env options plan interrupt start world hcut).1]
      cases r with
      | error e =>
        rw [hlaunchFailed e hr]
        refine iff_of_false (fun hwindow => ?_) (Nat.not_lt.2 hlate)
        cases hr.symm.trans hwindow.2.1
      | ok u =>
        rw [hlaunched hr]
        constructor
        · rintro ⟨-, -, -, j, hj, -, hlt⟩
          cases hi.symm.trans hj
          exact hlt
        · intro hlt
          exact ⟨hb, hr, hcut, i, hi, by omega, hlt⟩

/-- A run that nothing interrupts and that does not fail runs for its whole time. -/
theorem runs_of_never (hok : (run env options plan (fun _ => none) start world).failure = none) :
    ∃ opened old,
      (opened, .state old .running) ∈ (run env options plan (fun _ => none) start world).events ∧
        (opened + options.runFor, .state .running .terminating) ∈
          (run env options plan (fun _ => none) start world).events := by
  obtain ⟨-, hfailure, -, -, hown⟩ := run_recording env options plan (fun _ => none) start world
  obtain @⟨events, after, started, now, state, records, drive, stop, htold, hrun⟩ :=
    run_course env options plan (fun _ => none) start world
  rw [hfailure, hok] at drive
  generalize (run env.recording options plan (fun _ => none) start world).report.interrupted = interrupted at drive
  cases drive with
  | @ran _ _ opened old launch whole =>
    refine ⟨opened, old, ?_, ?_⟩
    · rw [← state_mem_own, ← hown, state_mem_own, htold]
      simp [openEvents]
    · rw [← state_mem_own, ← hown, state_mem_own, htold]
      simp
  | cutShort launch cut => cases cut

end Run

/-! ## The whole run -/

open Interrupt (Delivery Hears HearsFirst ofDeliveries shutdownSignal)

/-- What a run makes of the signals that are delivered, when listening for the signal to terminate works; `keyboard` says
whether listening for the keyboard does. -/
structure HeedsSignals (env : Environment ε σ η) (options : RunOptions) (plan : Plan) (start : Nat) (world : σ)
    (keyboard : Bool) (deliveries : List Delivery) : Prop where
  /-- The wait for a signal is over when one has been heard, and only then. -/
  over_iff : ∀ since now, (shutdownSignal true keyboard deliveries since now).isSome = true ↔
    ∃ t ≤ now, Hears true keyboard deliveries since t
  /-- An interrupt comes at an instant exactly when the first signal is heard then. -/
  first_iff : ∀ since t, (∃ s, ofDeliveries keyboard deliveries since = some ⟨t, s⟩) ↔ HearsFirst true keyboard deliveries since t
  /-- No interrupt comes exactly when no signal is heard. -/
  none_iff : ∀ since, ofDeliveries keyboard deliveries since = none ↔ ∀ t, ¬ Hears true keyboard deliveries since t
  /-- A run that hears no signal is the run that nothing interrupts, with its whole run window unless it fails. -/
  unheard : (∀ t, ¬ Hears true keyboard deliveries (listensFrom env plan start world) t) →
    run env options plan (ofDeliveries keyboard deliveries) start world = run env options plan (fun _ => none) start world ∧
      (run env options plan (ofDeliveries keyboard deliveries) start world).report.interrupted = false ∧
      ((run env options plan (ofDeliveries keyboard deliveries) start world).failure = none → ∃ opened old,
        (opened, .state old .running) ∈ (run env options plan (ofDeliveries keyboard deliveries) start world).events ∧
          (opened + options.runFor, .state .running .terminating) ∈
            (run env options plan (ofDeliveries keyboard deliveries) start world).events)
  /-- Runs that hear their first signal at the same instant go the same way, whichever signals they listen for and hear. -/
  alike : ∀ keyboard' deliveries' t, HearsFirst true keyboard deliveries (listensFrom env plan start world) t →
    HearsFirst true keyboard' deliveries' (listensFrom env plan start world) t →
    SameButSignal (run env options plan (ofDeliveries keyboard deliveries) start world)
      (run env options plan (ofDeliveries keyboard' deliveries') start world)
  /-- The first signal that is heard and does not miss the launch interrupts the run, unless it comes when a run that nothing
  interrupts would already be stopping its processes. -/
  interrupted_iff : ∀ t, HearsFirst true keyboard deliveries (listensFrom env plan start world) t →
    ¬ MissesLaunch env options plan (ofDeliveries keyboard deliveries) start world →
    ∀ stopped old, (stopped, .state old .terminating) ∈ (run env options plan (fun _ => none) start world).events →
      ((run env options plan (ofDeliveries keyboard deliveries) start world).report.interrupted = true ↔ t < stopped)

/-- Every run is interrupted by the first signal that it hears and by nothing else; so a listener for the keyboard that fails
interrupts nothing, and a signal to terminate does what an interrupt from the keyboard would. -/
theorem run_heedsSignals (env : Environment ε σ η) (options : RunOptions) (plan : Plan) (start : Nat) (world : σ)
    (keyboard : Bool) (deliveries : List Delivery) : HeedsSignals env options plan start world keyboard deliveries where
  over_iff since now := Interrupt.shutdownSignal_isSome_iff
  first_iff since t := by
    constructor
    · rintro ⟨s, hs⟩
      exact (Interrupt.hearsFirst_of_ofDeliveries hs).1
    · intro h
      obtain ⟨s, hs⟩ := h.ofDeliveries
      exact ⟨some s, hs⟩
  none_iff since := Interrupt.ofDeliveries_eq_none_iff
  unheard h := by
    have hnever : run env options plan (ofDeliveries keyboard deliveries) start world =
      run env options plan (fun _ => none) start world :=
        run_congr env options plan start world (Interrupt.ofDeliveries_eq_none_iff.2 h)
    rw [hnever]
    exact ⟨rfl, interrupted_never env options plan start world, runs_of_never env options plan start world⟩
  alike keyboard' deliveries' t h h' := by
    obtain ⟨s, hs⟩ := h.ofDeliveries
    obtain ⟨s', hs'⟩ := h'.ofDeliveries
    exact sameButSignal_of_instant env options plan start world (by rw [hs, hs']; rfl)
  interrupted_iff t h hmiss stopped old hstopped := by
    obtain ⟨s, hs⟩ := h.ofDeliveries
    obtain ⟨old', hterminating⟩ := run_terminating_iff env options plan (fun _ => none) start world
    obtain ⟨rfl, -⟩ := (hterminating stopped old).1 hstopped
    exact interrupted_iff_lt env options plan start world hs h.1.1 hmiss

/-- Listening for the keyboard fails. An interrupt from it after 50 ms does nothing, and the signal to terminate after 150 ms does
what an interrupt from the keyboard would do then. -/
theorem run_heedsSignals_deaf :
    let env := Scripted.environment ⟨none, none⟩ []
    let options : RunOptions := ⟨1000, 500, Shutdown.standard⟩
    let spec : String → LaunchSpec := fun name => ⟨name, .server, "bin/" ++ name, [], ⟨name ++ ".out", name ++ ".err"⟩, none⟩
    let plan : Plan := ⟨.eight, [⟨"server", [spec "server"], 100⟩, ⟨"monitor", [spec "monitor"], 0⟩]⟩
    let hearing : Bool → List Delivery → Finished Empty Nat := fun keyboard deliveries =>
      run env options plan (ofDeliveries keyboard deliveries) 0 0
    hearing false [(50, .interrupt)] = run env options plan (fun _ => none) 0 0 ∧
      SameButSignal (hearing false [(50, .interrupt), (150, .terminate)]) (hearing true [(150, .interrupt)]) ∧
      (hearing false [(50, .interrupt), (150, .terminate)]).report.interrupted = true := by
  have hterminate : HearsFirst true false [(50, .interrupt), (150, .terminate)] 0 150 := by
    refine ⟨⟨Nat.zero_le _, Or.inl ⟨rfl, by simp⟩⟩, fun u hu => ?_⟩
    obtain ⟨-, ⟨-, hd⟩ | ⟨hfalse, -⟩⟩ := hu
    · simp at hd
      omega
    · cases hfalse
  have hkeyboard : HearsFirst true true [(150, .interrupt)] 0 150 := by
    refine ⟨⟨Nat.zero_le _, Or.inr ⟨rfl, by simp⟩⟩, fun u hu => ?_⟩
    obtain ⟨-, ⟨-, hd⟩ | ⟨-, hd⟩⟩ := hu
    · simp at hd
    · simp at hd
      omega
  refine ⟨?_, ?_, ?_⟩
  · refine ((run_heedsSignals _ _ _ 0 0 false [(50, .interrupt)]).unheard fun t ht => ?_).1
    obtain ⟨-, ⟨-, hd⟩ | ⟨hfalse, -⟩⟩ := ht
    · simp at hd
    · cases hfalse
  · exact (run_heedsSignals _ _ _ 0 0 false _).alike true _ 150 hterminate hkeyboard
  · refine ((run_heedsSignals _ _ _ 0 0 false _).interrupted_iff 150 hterminate ?_ 1100 .running
      (List.mem_iff_getElem?.2 ⟨15, rfl⟩)).2 (by decide)
    rintro ⟨i, hi, hlt, -⟩
    cases hi
    exact absurd hlt (by decide)

end Supervisor

end StagedLaunch
