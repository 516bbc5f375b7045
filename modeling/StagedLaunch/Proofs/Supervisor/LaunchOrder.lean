import StagedLaunch.Proofs.Supervisor.LaunchTrace

/-!
# The order of launches

A run builds first, launches the specifications of its plan in order, and asks for readiness only when a group is launched as
a whole. Each group waits until those before it are launched and ready, and after a failure or an interrupt nothing more is
launched (`run_launchesInOrder`).
-/

namespace StagedLaunch.Supervisor

variable {ε σ η : Type}

/-- What is due after some calls is due after others that launch nothing. -/
theorem LaunchDue.prepend {groups : List Group} {first before : List (Call η)} {spec : LaunchSpec}
    (hfirst : Complete [] first) (h : LaunchDue groups before spec) : LaunchDue groups (first ++ before) spec := by
  obtain ⟨k, g, earlier, current, rest, hk, rfl, hc, h⟩ := h
  exact ⟨k, g, first ++ earlier, current, rest, hk, (List.append_assoc ..).symm, hfirst.append hc, h⟩

theorem AwaitDue.prepend {groups : List Group} {first before : List (Call η)} {p : η} {check : ReadyCheck}
    (hfirst : Complete [] first) (h : AwaitDue groups before p check) : AwaitDue groups (first ++ before) p check := by
  obtain ⟨k, g, earlier, current, passing, d, rest, hk, rfl, hc, h⟩ := h
  exact ⟨k, g, first ++ earlier, current, passing, d, rest, hk, (List.append_assoc ..).symm, hfirst.append hc, h⟩

/-! ## Calls -/

/-- What holds of the calls of a run that launches a plan in order. -/
structure LaunchesInOrder (plan : Plan) (timeout : Nat) (trace : List (Call η)) : Prop where
  /-- The build comes first and only once, and nothing is launched if it has failed. -/
  build_first : ∃ result rest, trace = .build plan :: .built result :: rest ∧ (∀ c ∈ rest, c.phase ≠ .build) ∧
    ∀ e, result = .error e → ∀ c ∈ rest, c.phase ≠ .launch
  /-- The launches are the first of those in the plan, in order. -/
  attempted_prefix : attempted trace <+: plan.specs
  /-- The readiness checks are the first of those that the launched processes need, in order. -/
  awaits_prefix : awaits trace <+: (dueOf (launched trace)).map Due.key
  /-- Each launch is due when it is called. -/
  launch_due : ∀ pre spec result post, trace = pre ++ .launch spec result :: post → LaunchDue plan.groups pre spec
  /-- Each readiness check is due when it is called. -/
  await_due : ∀ pre p check ms post, trace = pre ++ .await p check ms :: post →
    ms = timeout ∧ AwaitDue plan.groups pre p check
  /-- Nothing is launched after a failure. -/
  error_last : ∀ pre c e post, trace = pre ++ c :: post → c.error? = some e → ∀ c' ∈ post, c'.phase ≠ .launch

namespace LaunchesInOrder

variable {plan : Plan} {timeout : Nat} {trace : List (Call η)}

/-- A build is answered once, before anything is launched. -/
theorem built_eq (h : LaunchesInOrder plan timeout trace) {result : Except LaunchError Unit} (hbuilt : .built result ∈ trace) :
    ∃ rest, trace = .build plan :: .built result :: rest ∧ (∀ c ∈ rest, c.phase ≠ .build) ∧
      ∀ e, result = .error e → ∀ c ∈ rest, c.phase ≠ .launch := by
  obtain ⟨result', rest, htrace, hrest, hlaunch⟩ := h.build_first
  rw [htrace] at hbuilt
  rcases List.mem_cons.1 hbuilt with heq | hbuilt
  · cases heq
  · rcases List.mem_cons.1 hbuilt with heq | hbuilt
    · cases heq
      exact ⟨rest, htrace, hrest, hlaunch⟩
    · exact absurd rfl (hrest _ hbuilt)

/-- Nothing is launched when the build has failed. -/
theorem attempted_of_unbuilt (h : LaunchesInOrder plan timeout trace) {e : LaunchError} (hbuilt : .built (.error e) ∈ trace) :
    attempted trace = [] := by
  obtain ⟨rest, rfl, -, hlaunch⟩ := h.built_eq hbuilt
  have hrest : attempted rest = [] := by
    refine List.filterMap_eq_nil_iff.2 fun c hc => ?_
    have hphase := hlaunch e rfl c hc
    cases c with
    | launch spec result => exact absurd rfl hphase
    | _ => rfl
  exact hrest

end LaunchesInOrder

/-- What stops processes has no part in the launches and the readiness checks. -/
theorem views_of_stop {trace : List (Call η)} (h : ∀ c ∈ trace, c.phase = .stop) :
    attempted trace = [] ∧ launched trace = [] ∧ awaits trace = [] ∧ passed trace = [] := by
  induction trace with
  | nil => exact ⟨rfl, rfl, rfl, rfl⟩
  | cons c trace ih =>
    have hc := h c (List.mem_cons_self ..)
    have hrest := ih fun c hc => h c (List.mem_cons_of_mem _ hc)
    cases c with
    | stop p shutdown => exact hrest
    | stopped p outcome => exact hrest
    | _ => cases hc

/-- What stops processes belongs to no other phase. -/
theorem not_phase_of_stop {trace : List (Call η)} (h : ∀ c ∈ trace, c.phase = .stop) {phase : Phase} (hp : phase ≠ .stop) :
    ∀ c ∈ trace, c.phase ≠ phase := by
  intro c hc
  rw [h c hc]
  exact hp.symm

/-- A run whose build has failed launches nothing. -/
theorem launchesInOrder_of_not_built {plan : Plan} {timeout : Nat} {e : LaunchError} {after : List (Call η)}
    (hafter : ∀ c ∈ after, c.phase = .stop) :
    LaunchesInOrder plan timeout ([.build plan, .built (.error e)] ++ after) := by
  have hlaunch : ∀ c ∈ after, c.phase ≠ .launch := not_phase_of_stop hafter (by decide)
  have hall : ∀ c ∈ [.build plan, .built (.error e)] ++ after, c.phase ≠ .launch := by
    rw [List.forall_mem_append]
    exact ⟨by simp [Call.phase], hlaunch⟩
  obtain ⟨hatt, -, haw, -⟩ := views_of_stop hafter
  refine ⟨⟨_, after, rfl, not_phase_of_stop hafter (by decide), fun _ _ => hlaunch⟩, ?_, ?_, ?_, ?_, ?_⟩
  · rw [attempted_append, hatt]
    exact List.nil_prefix
  · rw [awaits_append, haw]
    exact List.nil_prefix
  · intro pre spec result post ht
    exact absurd rfl (hall (.launch spec result) (by rw [ht]; simp))
  · intro pre p check ms post ht
    exact absurd rfl (hall (.await p check ms) (by rw [ht]; simp))
  · intro pre c e' post ht hc c' hc'
    exact hall c' (by rw [ht]; simp [hc'])

section Launching

variable {env : Environment ε σ η} {timeout start index now later : Nat} {old new : RunState} {plan : Plan}
  {events : Events η} {started : List (Started η)} {outcome : Option (Except LaunchError Unit)}

/-- A run whose build has succeeded launches the plan in order. -/
theorem Launching.launchesInOrder
    (h : Launching env timeout start index old plan.groups now events started later new outcome)
    {after : List (Call η)} (hafter : ∀ c ∈ after, c.phase = .stop) :
    LaunchesInOrder plan timeout ([.build plan, .built (.ok ())] ++ told events ++ after) := by
  have hfirst : ∀ c ∈ ([.build plan, .built (.ok ())] : List (Call η)), c.phase ≠ .launch := by simp [Call.phase]
  have hlast : ∀ c ∈ after, c.phase ≠ .launch := not_phase_of_stop hafter (by decide)
  have hnone : Complete [] ([.build plan, .built (.ok ())] : List (Call η)) := ⟨rfl, rfl, rfl, rfl⟩
  obtain ⟨hatt, hl, haw, -⟩ := views_of_stop hafter
  refine ⟨⟨.ok (), told events ++ after, List.append_assoc .., ?_, fun e he => by cases he⟩, ?_, ?_, ?_, ?_, ?_⟩
  · rw [List.forall_mem_append]
    refine ⟨fun c hc => ?_, not_phase_of_stop hafter (by decide)⟩
    rw [h.calls c hc]
    decide
  · rw [attempted_append, attempted_append, hatt, hnone.attempted_eq, List.append_nil, List.nil_append]
    exact h.attempted_prefix
  · have haw' : awaits ([.build plan, .built (.ok ())] : List (Call η)) = [] := rfl
    have hl' : launched ([.build plan, .built (.ok ())] : List (Call η)) = [] := rfl
    rw [awaits_append, awaits_append, launched_append, launched_append, haw, hl, haw', hl', List.append_nil,
      List.append_nil, List.nil_append, List.nil_append]
    exact h.awaits_prefix
  · intro pre spec result post ht
    -- what is due after some calls of the launch is due after them in the whole run
    obtain ⟨pre', post', rfl, hlaunch, -⟩ := split_middle hfirst hlast rfl ht
    exact (h.launch_due hlaunch).prepend hnone
  · intro pre p check ms post ht
    obtain ⟨pre', post', rfl, hlaunch, -⟩ := split_middle hfirst hlast rfl ht
    obtain ⟨hms, hdue⟩ := h.await_due hlaunch
    exact ⟨hms, hdue.prepend hnone⟩
  · intro pre c e post ht hc
    have hlaunch : c.phase = .launch := by
      have hmem : c ∈ [.build plan, .built (.ok ())] ++ told events ++ after := by rw [ht]; simp
      simp only [List.mem_append, List.mem_cons, List.not_mem_nil, or_false] at hmem
      rcases hmem with ((rfl | rfl) | hmem) | hmem
      · cases hc
      · cases hc
      · exact h.calls c hmem
      · have hs := hafter c hmem
        cases c with
        | stop p shutdown => cases hc
        | stopped p outcome => cases hc
        | _ => cases hs
    obtain ⟨pre', post', -, hl, rfl⟩ := split_middle hfirst hlast hlaunch ht
    obtain ⟨-, rfl⟩ := h.error_last hl hc
    exact hlast

end Launching

/-! ## Interrupts and failures -/

/-- A notice after which nothing is launched: an interrupt was taken or the run has failed. -/
def endsLaunching : Notice ε → Bool
  | .signalled _ | .stoppedEarly | .failed _ => true
  | _ => false

/-- While a group is launched, the run has neither failed nor been interrupted. -/
theorem not_ending_of_ofGroup {n : Notice ε} (h : ofGroup n = true) : endsLaunching n = false := by
  cases n with
  | signalled signal => cases h
  | stoppedEarly => cases h
  | failed e => cases h
  | _ => rfl

theorem GroupLaunch.not_ending {env : Environment ε σ η} {timeout start now later : Nat} {group : Group}
    {events : Events η} {started : List (Started η)} {outcome : Option (Except LaunchError Unit)}
    (h : GroupLaunch env timeout start group now events started later outcome) (index : Nat) (old : RunState) :
    ∀ e ∈ groupEvents index old group now ++ events, endsLaunching e.2 = false := by
  rw [List.forall_mem_append]
  exact ⟨by simp [groupEvents, endsLaunching], fun e he => not_ending_of_ofGroup (h.ofGroup e he)⟩

/-- While a run launches, it has neither failed nor been interrupted. -/
theorem Launching.not_ending {env : Environment ε σ η} {timeout start index now later : Nat} {old new : RunState}
    {groups : List Group} {events : Events η} {started : List (Started η)} {outcome : Option (Except LaunchError Unit)}
    (h : Launching env timeout start index old groups now events started later new outcome) :
    ∀ e ∈ events, endsLaunching e.2 = false := by
  induction h with
  | done index state now => exact List.forall_mem_nil _
  | stopped rest launch stopped => exact launch.not_ending _ _
  | next launch others ih =>
    rw [List.forall_mem_append]
    exact ⟨launch.not_ending _ _, ih⟩

/-- While processes are stopped, nothing is told of an interrupt or a failure. -/
theorem Stopping.not_ending {env : Environment ε σ η} {shutdown : Shutdown} {started : List (Started η)} {now later : Nat}
    {events : Events η} {records : List StopRecord} (h : Stopping env shutdown started now events records later) :
    ∀ e ∈ events, endsLaunching e.2 = false := by
  induction h with
  | done now => exact List.forall_mem_nil _
  | stop passed more ih =>
    intro e he
    rcases List.mem_append.1 he with he | he
    · simp only [stopEvents, List.mem_cons, List.not_mem_nil, or_false] at he
      rcases he with rfl | rfl | rfl | rfl
      · rfl
      · rfl
      · rfl
      · rfl
    · exact ih e he

theorem not_ending_buildEvents (plan : Plan) (start built : Nat) (result : Except LaunchError Unit) :
    ∀ e ∈ (buildEvents plan start built result : Events η), endsLaunching e.2 = false := by
  intro e he
  simp only [buildEvents, List.mem_cons, List.not_mem_nil, or_false] at he
  rcases he with rfl | rfl | rfl | rfl | rfl
  · rfl
  · rfl
  · rfl
  · rfl
  · rfl

/-- A run tells of an interrupt or a failure only when all is called that it calls before it stops its processes. -/
theorem Driving.ending {env : Environment ε σ η} {options : RunOptions} {plan : Plan} {i : Option Interruption}
    {start built now : Nat} {events : Events η} {started : List (Started η)} {state : RunState}
    {failure : Option LaunchError} {interrupted : Bool}
    (h : Driving env options plan i start built events started now state failure interrupted) :
    ∃ first rest, events = first ++ rest ∧ (∀ e ∈ first, endsLaunching e.2 = false) ∧ told rest = [] := by
  rcases h.parts with ⟨e, rfl, -⟩ | ⟨launch, rest, later, last, outcome, rfl, hrest, launching, -⟩
  · exact ⟨_, [], (List.append_nil _).symm, not_ending_buildEvents _ _ _ _, rfl⟩
  · refine ⟨_, rest, rfl, ?_, told_of_ofRun hrest⟩
    intro e he
    rcases List.mem_append.1 he with he | he
    · exact not_ending_buildEvents _ _ _ _ e he
    · exact launching.not_ending e he

/-- A run that is interrupted without a failure says so. -/
theorem Driving.tells_interrupt {env : Environment ε σ η} {options : RunOptions} {plan : Plan} {i : Option Interruption}
    {start built now : Nat} {events : Events η} {started : List (Started η)} {state : RunState}
    (h : Driving env options plan i start built events started now state none true) :
    ∃ e ∈ events, endsLaunching e.2 = true := by
  cases h with
  | cutShort launch cut => exact ⟨(now, .stoppedEarly), by simp, rfl⟩

/-- An interrupt or a failure is told after everything that is called to launch, and before everything that is called to
stop. -/
def EndsLaunch (events : Events η) : Prop :=
  ∀ pre e post, events = pre ++ e :: post → endsLaunching e.2 = true →
    (∀ c ∈ told pre, c.phase ≠ .stop) ∧ ∀ c ∈ told post, c.phase = .stop

theorem endsLaunch_of_parts {first between last : Events η} (hfirst : ∀ e ∈ first, endsLaunching e.2 = false)
    (hlast : ∀ e ∈ last, endsLaunching e.2 = false) (hbetween : told between = [])
    (hlaunch : ∀ c ∈ told first, c.phase ≠ .stop) (hstop : ∀ c ∈ told last, c.phase = .stop) :
    EndsLaunch (first ++ between ++ last) := by
  intro pre e post he hend
  obtain ⟨pre', post', rfl, rfl, rfl⟩ :=
    split_middle (p := fun e : Nat × Notice (Call η) => endsLaunching e.2 = true) (fun e he => by simp [hfirst e he])
      (fun e he => by simp [hlast e he]) hend he
  rw [told_append, List.append_eq_nil_iff] at hbetween
  obtain ⟨hpre, hpost⟩ := hbetween
  have hpost' : told post' = [] := by
    rw [← List.singleton_append, told_append, List.append_eq_nil_iff] at hpost
    exact hpost.2
  refine ⟨?_, ?_⟩
  · rw [told_append, hpre, List.append_nil]
    exact hlaunch
  · rw [told_append, hpost', List.nil_append]
    exact hstop

section Run

variable (env : Environment ε σ η) (options : RunOptions) (plan : Plan) (interrupt : Nat → Option Interruption) (start : Nat)
  (world : σ)

theorem run_endsLaunch : EndsLaunch (run env.recording options plan interrupt start world).events := by
  obtain ⟨drive, stop, htold, -⟩ := run_course env options plan interrupt start world
  obtain ⟨first, rest, rfl, hfirst, hrest⟩ := drive.ending
  have hlaunch := drive.not_stop
  rw [told_append, hrest, List.append_nil] at hlaunch
  rw [htold, List.append_assoc, List.append_assoc first]
  refine endsLaunch_of_parts hfirst ?_ ?_ hlaunch ?_
  · intro e he
    simp only [List.cons_append, List.mem_cons, List.mem_append, List.not_mem_nil, or_false] at he
    rcases he with rfl | he | rfl
    · rfl
    · exact stop.not_ending e he
    · rfl
  · rw [told_append, hrest, told_failureEvents]
    rfl
  · intro c hc
    rw [List.cons_append, ← List.singleton_append, told_append, told_append] at hc
    simp only [List.mem_append] at hc
    rcases hc with hc | hc | hc
    · cases hc
    · exact stop.phase_eq c hc
    · cases hc

/-- A run that was interrupted or has failed says so. -/
theorem run_tells_end (h : (run env options plan interrupt start world).report.interrupted = true ∨
    (run env options plan interrupt start world).failure ≠ none) :
    ∃ e ∈ (run env.recording options plan interrupt start world).events, endsLaunching e.2 = true := by
  obtain ⟨hreport, hfailure, -⟩ := run_recording env options plan interrupt start world
  obtain @⟨events, stops, started, now, state, records, drive, stop, htold, -⟩ :=
    run_course env options plan interrupt start world
  rw [hreport, hfailure] at drive
  rw [hfailure] at htold
  cases hf : (run env options plan interrupt start world).failure with
  | some e =>
    refine ⟨(now, .failed e), ?_, rfl⟩
    rw [htold, hf]
    simp [failureEvents]
  | none =>
    rw [hf] at drive h
    have hi : (run env options plan interrupt start world).report.interrupted = true := by simpa using h
    rw [hi] at drive
    obtain ⟨e, he, hend⟩ := drive.tells_interrupt
    refine ⟨e, ?_, hend⟩
    rw [htold]
    simp [he]

/-- A run that does not fail has launched all of its plan. -/
theorem run_complete (hf : (run env options plan interrupt start world).failure = none) :
    Complete plan.specs (calls env options plan interrupt start world) := by
  obtain ⟨events, after, started, now, state, records, htrace, drive, stop, -⟩ :=
    run_trace env options plan interrupt start world
  rcases drive.calls with ⟨e, -, -, hf'⟩ | ⟨launch, later, last, outcome, ht, launching, -, hok⟩
  · rw [hf] at hf'
    cases hf'
  · cases hok hf
    obtain ⟨hatt, hl, haw, hp⟩ := views_of_stop stop.phase_eq
    have hfirst : Complete [] ([.build plan, .built (.ok ())] : List (Call η)) := ⟨rfl, rfl, rfl, rfl⟩
    have hlast : Complete [] (told after) := ⟨hatt, by rw [hl]; rfl, by rw [haw, hl]; rfl, by rw [hp, hl]; rfl⟩
    have h := (hfirst.append launching.complete).append hlast
    rw [htrace, ht]
    rwa [List.nil_append, List.append_nil] at h

/-- The calls of a run launch its plan in order. -/
theorem calls_launchesInOrder :
    LaunchesInOrder plan options.readyTimeout (calls env options plan interrupt start world) := by
  obtain ⟨events, after, started, now, state, records, htrace, drive, stop, -⟩ :=
    run_trace env options plan interrupt start world
  rcases drive.calls with ⟨e, ht, -⟩ | ⟨launch, later, last, outcome, ht, launching, -⟩
  · rw [htrace, ht]
    exact launchesInOrder_of_not_built stop.phase_eq
  · rw [htrace, ht]
    exact launching.launchesInOrder stop.phase_eq

/-- A run launches its plan in order, each group after those before it are ready, and all of it if it does not fail; after a
failure or an interrupt nothing is launched. -/
theorem run_launchesInOrder :
    LaunchesInOrder plan options.readyTimeout (calls env options plan interrupt start world) ∧
      EndsLaunch (run env.recording options plan interrupt start world).events ∧
      ((run env options plan interrupt start world).report.interrupted = true ∨
          (run env options plan interrupt start world).failure ≠ none →
        ∃ e ∈ (run env.recording options plan interrupt start world).events, endsLaunching e.2 = true) ∧
      ((run env options plan interrupt start world).failure = none →
        Complete plan.specs (calls env options plan interrupt start world)) :=
  ⟨calls_launchesInOrder env options plan interrupt start world, run_endsLaunch env options plan interrupt start world,
    run_tells_end env options plan interrupt start world, run_complete env options plan interrupt start world⟩

end Run

end StagedLaunch.Supervisor
