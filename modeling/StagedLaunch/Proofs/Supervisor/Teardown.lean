import StagedLaunch.Proofs.Supervisor.LaunchTrace

/-!
# Every process is stopped once

Whatever happens in a run, the processes that it has launched are stopped at its end, each of them once and in the order of
their launches, and nothing else is (`run_tearsDown`). The report names them in the same order, each with how its stop ended.
-/

namespace StagedLaunch.Supervisor

variable {ε σ η : Type}

/-- The calls that stop processes one after the other, given how each stop ends. -/
def stopCalls (shutdown : Shutdown) (outcomes : List (η × StopOutcome)) : List (Call η) :=
  outcomes.flatMap fun o => [.stop o.1 shutdown, .stopped o.1 o.2]

@[simp] theorem stops_stopCalls (shutdown : Shutdown) (outcomes : List (η × StopOutcome)) :
    stops (stopCalls shutdown outcomes) = outcomes.map fun o => (o.1, shutdown) := by
  induction outcomes with
  | nil => rfl
  | cons o outcomes ih =>
    rw [stopCalls, List.flatMap_cons, stops_append, List.map_cons]
    exact congrArg (_ :: ·) ih

@[simp] theorem stopped_stopCalls (shutdown : Shutdown) (outcomes : List (η × StopOutcome)) :
    stopped (stopCalls shutdown outcomes) = outcomes := by
  induction outcomes with
  | nil => rfl
  | cons o outcomes ih =>
    rw [stopCalls, List.flatMap_cons, stopped_append]
    exact congrArg (_ :: ·) ih

/-- Calls that stop processes launch none. -/
@[simp] theorem launched_stopCalls (shutdown : Shutdown) (outcomes : List (η × StopOutcome)) :
    launched (stopCalls shutdown outcomes) = [] := by
  induction outcomes with
  | nil => rfl
  | cons o outcomes ih =>
    rw [stopCalls, List.flatMap_cons, launched_append]
    exact ih

/-- Calls that belong to other phases stop nothing. -/
theorem stops_of_not_stop {trace : List (Call η)} (h : ∀ c ∈ trace, c.phase ≠ .stop) :
    stops trace = [] ∧ stopped trace = [] := by
  refine ⟨List.filterMap_eq_nil_iff.2 fun c hc => ?_, List.filterMap_eq_nil_iff.2 fun c hc => ?_⟩
  · have hc := h c hc
    cases c with
    | stop p shutdown => exact absurd rfl hc
    | _ => rfl
  · have hc := h c hc
    cases c with
    | stopped p outcome => exact absurd rfl hc
    | _ => rfl

/-- Processes are stopped in order, and the records say how. -/
theorem Stopping.calls {env : Environment ε σ η} {shutdown : Shutdown} {started : List (Started η)} {now later : Nat}
    {events : Events η} {records : List StopRecord} (h : Stopping env shutdown started now events records later) :
    ∃ outcomes : List (η × StopOutcome), told events = stopCalls shutdown outcomes ∧
      outcomes.map Prod.fst = started.map Started.handle ∧
      records = outcomes.map fun o => ⟨env.name o.1, o.2⟩ := by
  induction h with
  | done now => exact ⟨[], rfl, rfl, rfl⟩
  | @stop p _ _ _ _ outcome _ _ passed more ih =>
    obtain ⟨outcomes, htold, hhandles, hrecords⟩ := ih
    refine ⟨(p.handle, outcome) :: outcomes, ?_, ?_, ?_⟩
    · rw [told_append, told_stopEvents, htold]
      rfl
    · rw [List.map_cons, List.map_cons, hhandles]
    · rw [List.map_cons, hrecords]

/-- The record of a launch has the name of the process. -/
theorem Spawning.record_name {env : Environment ε σ η} {start now later : Nat} {specs : List LaunchSpec} {events : Events η}
    {started : List (Started η)} {failure : Option LaunchError}
    (h : Spawning env start specs now events started later failure) :
    started.map (fun p => p.record.name) = started.map fun p => env.name p.handle := by
  induction h with
  | done now => rfl
  | failed rest answer => rfl
  | launched pid answer more ih => rw [List.map_cons, List.map_cons, ih]

theorem GroupLaunch.record_name {env : Environment ε σ η} {timeout start now later : Nat} {group : Group}
    {events : Events η} {started : List (Started η)} {outcome : Option (Except LaunchError Unit)}
    (h : GroupLaunch env timeout start group now events started later outcome) :
    started.map (fun p => p.record.name) = started.map fun p => env.name p.handle := by
  rcases h.parts with ⟨e, -, spawn⟩ | ⟨a, b, spawned, ready, result, -, spawn, -⟩
  · exact spawn.record_name
  · exact spawn.record_name

theorem Launching.record_name {env : Environment ε σ η} {timeout start index now later : Nat} {old new : RunState}
    {groups : List Group} {events : Events η} {started : List (Started η)} {outcome : Option (Except LaunchError Unit)}
    (h : Launching env timeout start index old groups now events started later new outcome) :
    started.map (fun p => p.record.name) = started.map fun p => env.name p.handle := by
  induction h with
  | done index state now => rfl
  | stopped rest launch stopped => exact launch.record_name
  | next launch others ih => rw [List.map_append, List.map_append, launch.record_name, ih]

section Driving

variable {env : Environment ε σ η} {options : RunOptions} {plan : Plan} {i : Option Interruption} {start built now : Nat}
  {events : Events η} {started : List (Started η)} {state : RunState} {failure : Option LaunchError} {interrupted : Bool}

theorem Driving.record_name (h : Driving env options plan i start built events started now state failure interrupted) :
    started.map (fun p => p.record.name) = started.map fun p => env.name p.handle := by
  rcases h.calls with ⟨e, -, rfl, -⟩ | ⟨launch, later, last, outcome, -, launching, -⟩
  · rfl
  · exact launching.record_name

/-- The processes to stop are those that were launched. -/
theorem Driving.handles_eq (h : Driving env options plan i start built events started now state failure interrupted) :
    (launched (told events)).map Prod.snd = started.map Started.handle := by
  rcases h.calls with ⟨e, ht, rfl, -⟩ | ⟨launch, later, last, outcome, ht, launching, -⟩
  · rw [ht]
    rfl
  · rw [ht, launched_append, List.map_append, launching.handles_eq]
    rfl

end Driving

/-- The report of a run names the processes that were launched. -/
theorem run_record_names (env : Environment ε σ η) (options : RunOptions) (plan : Plan)
    (interrupt : Nat → Option Interruption) (start : Nat) (world : σ) :
    (run env options plan interrupt start world).report.launched.map LaunchRecord.name =
      (launched (calls env options plan interrupt start world)).map fun p => env.name p.2 := by
  obtain ⟨events, after, started, now, state, records, htrace, drive, stop, hreport⟩ :=
    run_trace env options plan interrupt start world
  obtain ⟨outcomes, hafter, -, -⟩ := stop.calls
  rw [hreport, htrace, hafter, launched_append, launched_stopCalls, List.append_nil, List.map_map]
  have h : started.map (fun p => env.name p.handle) = ((launched (told events)).map Prod.snd).map env.name := by
    rw [drive.handles_eq, List.map_map]
    rfl
  refine drive.record_name.trans (h.trans ?_)
  rw [List.map_map]
  rfl

/-- A run stops processes at its end: those that were launched, as its report says. -/
theorem run_stopped (env : Environment ε σ η) (options : RunOptions) (plan : Plan) (interrupt : Nat → Option Interruption)
    (start : Nat) (world : σ) :
    let trace := calls env options plan interrupt start world
    (∃ before, (∀ c ∈ before, c.phase ≠ .stop) ∧ trace = before ++ stopCalls options.shutdown (stopped trace)) ∧
      (stopped trace).map Prod.fst = (launched trace).map Prod.snd ∧
      (run env options plan interrupt start world).report.terminated =
        (stopped trace).map fun o => ⟨env.name o.1, o.2⟩ := by
  obtain ⟨events, after, started, now, state, records, htrace, drive, stop, hreport⟩ :=
    run_trace env options plan interrupt start world
  obtain ⟨outcomes, hafter, houtcomes, hrecords⟩ := stop.calls
  dsimp only
  -- a run stops nothing before its end and launches nothing at its end, so each view is that of one part
  have hlaunched : launched (calls env options plan interrupt start world) = launched (told events) := by
    rw [htrace, hafter, launched_append, launched_stopCalls, List.append_nil]
  have houts : stopped (calls env options plan interrupt start world) = outcomes := by
    rw [htrace, hafter, stopped_append, (stops_of_not_stop drive.not_stop).2, stopped_stopCalls, List.nil_append]
  rw [houts, hlaunched]
  refine ⟨⟨told events, drive.not_stop, ?_⟩, ?_, ?_⟩
  · rw [htrace, hafter]
  · rw [houtcomes, drive.handles_eq]
  · rw [hreport, hrecords]

/-- What holds of the calls and the report of a run that stops what it has launched. -/
structure TearsDown (name : η → String) (shutdown : Shutdown) (trace : List (Call η)) (report : Report) : Prop where
  /-- Stopping comes last: one call for each stop, which is answered before the next. -/
  last : ∃ before, (∀ c ∈ before, c.phase ≠ .stop) ∧ trace = before ++ stopCalls shutdown (stopped trace)
  /-- The processes that are stopped are the ones whose launch has succeeded, once each and in order. -/
  stops_eq : stops trace = (launched trace).map fun p => (p.2, shutdown)
  /-- Every stop has come to its end. -/
  stopped_eq : (stopped trace).map Prod.fst = (launched trace).map Prod.snd
  /-- The report names what was launched. -/
  launched_eq : report.launched.map LaunchRecord.name = (launched trace).map fun p => name p.2
  /-- The report says how each stop has ended. -/
  terminated_eq : report.terminated = (stopped trace).map fun o => ⟨name o.1, o.2⟩
  /-- As many processes have been stopped as were launched. -/
  length_eq : report.terminated.length = report.launched.length
  /-- They have the same names, one by one. -/
  names_eq : report.terminated.map StopRecord.name = report.launched.map LaunchRecord.name

/-- Every run stops what it has launched, each process once, in order and after everything else; and nothing but that. -/
theorem run_tearsDown (env : Environment ε σ η) (options : RunOptions) (plan : Plan) (interrupt : Nat → Option Interruption)
    (start : Nat) (world : σ) :
    TearsDown env.name options.shutdown (calls env options plan interrupt start world)
      (run env options plan interrupt start world).report := by
  obtain ⟨⟨before, hbefore, htrace⟩, hstopped, hterminated⟩ := run_stopped env options plan interrupt start world
  have hnames := run_record_names env options plan interrupt start world
  generalize calls env options plan interrupt start world = trace at htrace hstopped hterminated hnames ⊢
  generalize (run env options plan interrupt start world).report = report at hterminated hnames ⊢
  have hsame : report.terminated.map StopRecord.name = report.launched.map LaunchRecord.name := by
    have h : (stopped trace).map (fun o => env.name o.1) = ((launched trace).map Prod.snd).map env.name := by
      rw [← hstopped, List.map_map]
      rfl
    rw [hnames, hterminated, List.map_map]
    refine h.trans ?_
    rw [List.map_map]
    rfl
  refine ⟨⟨before, hbefore, htrace⟩, ?_, hstopped, hnames, hterminated, ?_, hsame⟩
  · have hstops := congrArg stops htrace
    rw [stops_append, (stops_of_not_stop hbefore).1, stops_stopCalls, List.nil_append] at hstops
    have h : (stopped trace).map (fun o => (o.1, options.shutdown)) =
        ((stopped trace).map Prod.fst).map fun p => (p, options.shutdown) := by
      rw [List.map_map]
      rfl
    rw [hstops, h, hstopped, List.map_map]
    rfl
  · have h := congrArg List.length hsame
    rwa [List.length_map, List.length_map] at h

end StagedLaunch.Supervisor
