import StagedLaunch.Proofs.Supervisor.Course

/-!
# What the calls of a run show

The launches that were called and those that succeeded, the readiness checks that were called and those that passed, and the
stops, each read off a list of calls; and what the launch of processes and the wait for their readiness contribute to each.
-/

namespace StagedLaunch.Supervisor

variable {ε σ η : Type}

/-- The specification of which a launch was called. -/
def Call.attempted? : Call η → Option LaunchSpec
  | .launch spec _ => some spec
  | _ => none

/-- The process that was launched, with its specification. -/
def Call.launched? : Call η → Option (LaunchSpec × η)
  | .launch spec (.ok h) => some (spec, h)
  | _ => none

/-- The process of which a readiness check was called, with the check. -/
def Call.await? : Call η → Option (η × ReadyCheck)
  | .await h check _ => some (h, check)
  | _ => none

/-- The process whose readiness check has passed. -/
def Call.passed? : Call η → Option η
  | .awaited h (.ok _) => some h
  | _ => none

/-- The process that is to stop, and how. -/
def Call.stop? : Call η → Option (η × Shutdown)
  | .stop h shutdown => some (h, shutdown)
  | _ => none

/-- The process whose stop has come to an end, and how it ended. -/
def Call.stopped? : Call η → Option (η × StopOutcome)
  | .stopped h outcome => some (h, outcome)
  | _ => none

/-- The error with which a call was answered. -/
def Call.error? : Call η → Option LaunchError
  | .built (.error e) | .launch _ (.error e) | .awaited _ (.error e) => some e
  | _ => none

/-- What a run is about. -/
inductive Phase where
  /-- It builds. -/
  | build
  /-- It launches processes and waits until they are ready. -/
  | launch
  /-- It stops processes. -/
  | stop
deriving DecidableEq, Repr

/-- What a run is about when it makes a call or has an answer. -/
def Call.phase : Call η → Phase
  | .build _ | .built _ => .build
  | .launch _ _ | .await _ _ _ | .awaited _ _ => .launch
  | .stop _ _ | .stopped _ _ => .stop

/-- The launches that were called. -/
def attempted (trace : List (Call η)) : List LaunchSpec := trace.filterMap Call.attempted?

/-- The launches that have succeeded. -/
def launched (trace : List (Call η)) : List (LaunchSpec × η) := trace.filterMap Call.launched?

/-- The readiness checks that were called. -/
def awaits (trace : List (Call η)) : List (η × ReadyCheck) := trace.filterMap Call.await?

/-- The processes whose readiness checks have passed. -/
def passed (trace : List (Call η)) : List η := trace.filterMap Call.passed?

/-- The stops that were called. -/
def stops (trace : List (Call η)) : List (η × Shutdown) := trace.filterMap Call.stop?

/-- The stops that have come to an end. -/
def stopped (trace : List (Call η)) : List (η × StopOutcome) := trace.filterMap Call.stopped?

@[simp] theorem attempted_append (a b : List (Call η)) : attempted (a ++ b) = attempted a ++ attempted b :=
  List.filterMap_append

@[simp] theorem launched_append (a b : List (Call η)) : launched (a ++ b) = launched a ++ launched b :=
  List.filterMap_append

@[simp] theorem awaits_append (a b : List (Call η)) : awaits (a ++ b) = awaits a ++ awaits b := List.filterMap_append

@[simp] theorem passed_append (a b : List (Call η)) : passed (a ++ b) = passed a ++ passed b := List.filterMap_append

@[simp] theorem stops_append (a b : List (Call η)) : stops (a ++ b) = stops a ++ stops b := List.filterMap_append

@[simp] theorem stopped_append (a b : List (Call η)) : stopped (a ++ b) = stopped a ++ stopped b :=
  List.filterMap_append

/-- A notice that belongs to the launch of a group. -/
def ofGroup : Notice ε → Bool
  | .launching _ | .launched _ _ | .awaiting _ _ _ | .ready _ _ | .settling _ _ | .told _ => true
  | _ => false

/-- A notice about the run as a whole: its state, its build, its window, an interrupt, or its failure. -/
def ofRun : Notice ε → Bool
  | .state _ _ | .building | .built _ | .running _ _ | .windowOver | .signalled _ | .stoppedEarly | .failed _ => true
  | _ => false

/-- Notices about the run as a whole are none of its surroundings. -/
theorem told_of_ofRun {events : List (Nat × Notice ε)} (h : ∀ e ∈ events, ofRun e.2 = true) : told events = [] := by
  refine List.filterMap_eq_nil_iff.2 fun e he => ?_
  have hrun := h e he
  obtain ⟨now, n⟩ := e
  cases n with
  | told e => cases hrun
  | _ => rfl

theorem ofRun_interruptEvents (now : Nat) (i : Option Interruption) :
    ∀ e ∈ (interruptEvents now i : List (Nat × Notice ε)), ofRun e.2 = true := by
  unfold interruptEvents
  split
  · simp [ofRun]
  · exact List.forall_mem_nil _

/-- The process and the check of a readiness check that is due. -/
def Due.key (d : Due η) : η × ReadyCheck := (d.process, d.check)

@[simp] theorem dueOf_append (a b : List (LaunchSpec × η)) : dueOf (a ++ b) = dueOf a ++ dueOf b :=
  List.filterMap_append

/-- An element of two lists, one after the other, is in the first or in the second. -/
theorem append_eq_append_cons {α : Type} {a b pre post : List α} {x : α} (h : a ++ b = pre ++ x :: post) :
    (∃ post', a = pre ++ x :: post' ∧ post = post' ++ b) ∨ ∃ pre', pre = a ++ pre' ∧ b = pre' ++ x :: post := by
  rcases List.append_eq_append_iff.1 h with ⟨pre', rfl, hb⟩ | ⟨c, ha, hc⟩
  · exact Or.inr ⟨pre', rfl, hb⟩
  · cases c with
    | nil =>
      rw [List.nil_append] at hc
      exact Or.inr ⟨[], by rw [ha, List.append_nil, List.append_nil], hc.symm⟩
    | cons y c =>
      obtain ⟨rfl, rfl⟩ := List.cons.inj hc
      exact Or.inl ⟨c, ha, rfl⟩

/-- An element of three lists, one after the other, that can only be in the second. -/
theorem split_middle {α : Type} {p : α → Prop} {a b c pre post : List α} {x : α} (ha : ∀ y ∈ a, ¬ p y)
    (hc : ∀ y ∈ c, ¬ p y) (hx : p x) (h : a ++ b ++ c = pre ++ x :: post) :
    ∃ pre' post', pre = a ++ pre' ∧ b = pre' ++ x :: post' ∧ post = post' ++ c := by
  rcases append_eq_append_cons h with ⟨post', h', rfl⟩ | ⟨pre', -, h'⟩
  · rcases append_eq_append_cons h' with ⟨post'', h'', -⟩ | ⟨pre', hpre, h''⟩
    · exact absurd hx (ha x (by rw [h'']; simp))
    · exact ⟨pre', post', hpre, h'', rfl⟩
  · exact absurd hx (hc x (by rw [h']; simp))

/-! ## Launches -/

section Spawning

variable {env : Environment ε σ η} {start now later : Nat} {specs : List LaunchSpec} {events : Events η}
  {started : List (Started η)} {failure : Option LaunchError}

/-- The calls of a launch are launches. -/
theorem Spawning.calls (h : Spawning env start specs now events started later failure) :
    ∀ c ∈ told events, ∃ spec r, c = .launch spec r := by
  induction h with
  | done now => exact List.forall_mem_nil _
  | failed rest answer => simp
  | launched pid answer more ih =>
    intro c hc
    simp only [told_append, told_launchEvents, List.cons_append, List.nil_append, List.mem_cons] at hc
    rcases hc with rfl | hc
    · exact ⟨_, _, rfl⟩
    · exact ih c hc

theorem Spawning.launched_eq (h : Spawning env start specs now events started later failure) :
    Supervisor.launched (told events) = specs.zip (started.map Started.handle) := by
  induction h with
  | done now => rfl
  | failed rest answer => simp [Supervisor.launched, Call.launched?]
  | launched pid answer more ih => simpa [Supervisor.launched, Call.launched?] using ih

/-- When no launch has failed, there is one process for each specification. -/
theorem Spawning.length_eq (h : Spawning env start specs now events started later none) :
    started.length = specs.length := by
  generalize hf : (none : Option LaunchError) = failure at h
  induction h with
  | done now => rfl
  | failed rest answer => cases hf
  | launched pid answer more ih => simp [ih hf]

theorem Spawning.attempted_eq (h : Spawning env start specs now events started later none) :
    attempted (told events) = specs := by
  generalize hf : (none : Option LaunchError) = failure at h
  induction h with
  | done now => rfl
  | failed rest answer => cases hf
  | launched pid answer more ih =>
    have := ih hf
    simpa [attempted, Call.attempted?] using this

theorem Spawning.attempted_prefix (h : Spawning env start specs now events started later failure) :
    attempted (told events) <+: specs := by
  induction h with
  | done now => exact List.prefix_refl _
  | failed rest answer => simp [attempted, Call.attempted?]
  | launched pid answer more ih => simpa [attempted, Call.attempted?, List.prefix_cons_inj] using ih

/-- Before a launch is called, those of the specifications before it have succeeded. -/
theorem Spawning.launch_due (h : Spawning env start specs now events started later failure) {pre post : List (Call η)}
    {spec : LaunchSpec} {r : Except LaunchError η} (ht : told events = pre ++ .launch spec r :: post) :
    ∃ rest, specs = (Supervisor.launched pre).map Prod.fst ++ spec :: rest ∧
      attempted pre = (Supervisor.launched pre).map Prod.fst := by
  induction h generalizing pre with
  | done now => simp [told] at ht
  | failed rest answer =>
    rw [told_launchEvents] at ht
    cases pre with
    | nil =>
      simp only [List.nil_append, List.cons.injEq, Call.launch.injEq] at ht
      obtain ⟨⟨rfl, -⟩, -⟩ := ht
      exact ⟨rest, rfl, rfl⟩
    | cons c pre => simp at ht
  | launched pid answer more ih =>
    simp only [told_append, told_launchEvents, List.cons_append, List.nil_append] at ht
    cases pre with
    | nil =>
      simp only [List.nil_append, List.cons.injEq, Call.launch.injEq] at ht
      obtain ⟨⟨rfl, -⟩, -⟩ := ht
      exact ⟨_, rfl, rfl⟩
    | cons c pre =>
      simp only [List.cons_append, List.cons.injEq] at ht
      obtain ⟨rfl, ht⟩ := ht
      obtain ⟨rest, hrest, hpre⟩ := ih ht
      refine ⟨rest, ?_, ?_⟩
      · simpa [Supervisor.launched, Call.launched?] using hrest
      · simpa [Supervisor.launched, Call.launched?, attempted, Call.attempted?] using hpre

/-- A launch that has failed is the last call, and its error is why the launch fails. -/
theorem Spawning.error_last (h : Spawning env start specs now events started later failure) {pre post : List (Call η)}
    {c : Call η} {e : LaunchError} (ht : told events = pre ++ c :: post) (hc : c.error? = some e) :
    failure = some e ∧ post = [] := by
  induction h generalizing pre with
  | done now => simp [told] at ht
  | failed rest answer =>
    rw [told_launchEvents] at ht
    cases pre with
    | nil =>
      obtain ⟨rfl, rfl⟩ := List.cons.inj ht
      exact ⟨hc, rfl⟩
    | cons c pre => simp at ht
  | launched pid answer more ih =>
    simp only [told_append, told_launchEvents, List.cons_append, List.nil_append] at ht
    cases pre with
    | nil =>
      obtain ⟨rfl, -⟩ := List.cons.inj ht
      cases hc
    | cons c pre => exact ih (List.cons.inj ht).2

/-- No readiness check is called while processes are launched. -/
theorem Spawning.awaits_eq (h : Spawning env start specs now events started later failure) :
    awaits (told events) = [] ∧ passed (told events) = [] := by
  refine ⟨List.filterMap_eq_nil_iff.2 fun c hc => ?_, List.filterMap_eq_nil_iff.2 fun c hc => ?_⟩
  · obtain ⟨spec, r, rfl⟩ := h.calls c hc
    rfl
  · obtain ⟨spec, r, rfl⟩ := h.calls c hc
    rfl

/-- The processes that were launched are the ones in the list of the run. -/
theorem Spawning.handles_eq (h : Spawning env start specs now events started later failure) :
    (Supervisor.launched (told events)).map Prod.snd = started.map Started.handle := by
  induction h with
  | done now => rfl
  | failed rest answer => simp [Supervisor.launched, Call.launched?]
  | launched pid answer more ih => simpa [Supervisor.launched, Call.launched?] using ih

theorem Spawning.ofGroup (h : Spawning env start specs now events started later failure) :
    ∀ e ∈ events, ofGroup e.2 = true := by
  induction h with
  | done now => exact List.forall_mem_nil _
  | failed rest answer => simp [launchEvents, Supervisor.ofGroup]
  | launched pid answer more ih =>
    rw [List.forall_mem_append]
    exact ⟨by simp [launchEvents, Supervisor.ofGroup], ih⟩

end Spawning

/-! ## Readiness -/

section Awaiting

variable {env : Environment ε σ η} {timeout now later : Nat} {due : List (Due η)} {events : Events η}
  {outcome : Option (Except LaunchError Unit)}

/-- The calls of a wait for readiness are readiness checks. -/
theorem Awaiting.calls (h : Awaiting env timeout due now events later outcome) :
    ∀ c ∈ told events, (∃ h check, c = .await h check timeout) ∨ ∃ h r, c = .awaited h r := by
  induction h with
  | done now => exact List.forall_mem_nil _
  | ready passed more ih =>
    intro c hc
    simp only [told_append, told_awaitEvents, told_readyEvents, List.cons_append, List.nil_append, List.mem_cons] at hc
    rcases hc with rfl | rfl | hc
    · exact Or.inl ⟨_, _, rfl⟩
    · exact Or.inr ⟨_, _, rfl⟩
    · exact ih c hc
  | failed rest passed answer => simp
  | cut d rest passed => simp

/-- No launch is called while readiness is waited for. -/
theorem Awaiting.launched_eq (h : Awaiting env timeout due now events later outcome) :
    attempted (told events) = [] ∧ Supervisor.launched (told events) = [] := by
  refine ⟨List.filterMap_eq_nil_iff.2 fun c hc => ?_, List.filterMap_eq_nil_iff.2 fun c hc => ?_⟩
  · rcases h.calls c hc with ⟨p, check, rfl⟩ | ⟨p, r, rfl⟩
    · rfl
    · rfl
  · rcases h.calls c hc with ⟨p, check, rfl⟩ | ⟨p, r, rfl⟩
    · rfl
    · rfl

/-- When all checks have passed, each of them was called and has passed, in order. -/
theorem Awaiting.awaits_eq (h : Awaiting env timeout due now events later (some (.ok ()))) :
    awaits (told events) = due.map Due.key ∧ Supervisor.passed (told events) = due.map Due.process := by
  generalize ho : some (Except.ok ()) = outcome at h
  induction h with
  | done now => exact ⟨rfl, rfl⟩
  | ready passed more ih =>
    obtain ⟨h1, h2⟩ := ih ho
    simpa [awaits, List.filterMap_cons, Call.await?, Supervisor.passed, Call.passed?, Due.key] using And.intro h1 h2
  | failed rest passed answer => simp at ho
  | cut d rest passed => simp at ho

theorem Awaiting.awaits_prefix (h : Awaiting env timeout due now events later outcome) :
    awaits (told events) <+: due.map Due.key := by
  induction h with
  | done now => exact List.prefix_refl _
  | ready passed more ih => simpa [awaits, List.filterMap_cons, Call.await?, Due.key, List.prefix_cons_inj] using ih
  | failed rest passed answer => simp [awaits, List.filterMap_cons, Call.await?, Due.key]
  | cut d rest passed => simp [awaits, Call.await?, Due.key]

/-- Before a check is called, those before it have passed. -/
theorem Awaiting.await_due (h : Awaiting env timeout due now events later outcome) {pre post : List (Call η)} {p : η}
    {check : ReadyCheck} {ms : Nat} (ht : told events = pre ++ .await p check ms :: post) :
    ms = timeout ∧ ∃ earlier d rest, due = earlier ++ d :: rest ∧ d.key = (p, check) ∧ awaits pre = earlier.map Due.key ∧
      Supervisor.passed pre = earlier.map Due.process := by
  induction h generalizing pre with
  | done now => simp [told] at ht
  | @ready d rest before after later events outcome passed more ih =>
    simp only [told_append, told_awaitEvents, told_readyEvents, List.cons_append, List.nil_append] at ht
    rcases pre with _ | ⟨c, _ | ⟨c', pre⟩⟩
    · simp only [List.nil_append, List.cons.injEq, Call.await.injEq] at ht
      obtain ⟨⟨rfl, rfl, rfl⟩, -⟩ := ht
      exact ⟨rfl, [], d, rest, rfl, rfl, rfl, rfl⟩
    · simp at ht
    · simp only [List.cons_append, List.cons.injEq] at ht
      obtain ⟨rfl, rfl, ht⟩ := ht
      obtain ⟨hms, earlier, d', rest', hdue, hkey, ha, hp⟩ := ih ht
      refine ⟨hms, d :: earlier, d', rest', by rw [hdue]; rfl, hkey, ?_, ?_⟩
      · simpa [awaits, List.filterMap_cons, Call.await?, Due.key] using ha
      · simpa [Supervisor.passed, List.filterMap_cons, Call.passed?] using hp
  | failed rest passed answer =>
    simp only [told_append, told_awaitEvents, told_readyEvents, List.cons_append, List.nil_append] at ht
    rcases pre with _ | ⟨c, _ | ⟨c', pre⟩⟩
    · simp only [List.nil_append, List.cons.injEq, Call.await.injEq] at ht
      obtain ⟨⟨rfl, rfl, rfl⟩, -⟩ := ht
      exact ⟨rfl, [], _, rest, rfl, rfl, rfl, rfl⟩
    · simp at ht
    · simp at ht
  | cut d rest passed =>
    rw [told_awaitEvents] at ht
    rcases pre with _ | ⟨c, pre⟩
    · simp only [List.nil_append, List.cons.injEq, Call.await.injEq] at ht
      obtain ⟨⟨rfl, rfl, rfl⟩, -⟩ := ht
      exact ⟨rfl, [], d, rest, rfl, rfl, rfl, rfl⟩
    · simp at ht

/-- A readiness check that has failed is the last call, and its error is why the launch fails. -/
theorem Awaiting.error_last (h : Awaiting env timeout due now events later outcome) {pre post : List (Call η)}
    {c : Call η} {e : LaunchError} (ht : told events = pre ++ c :: post) (hc : c.error? = some e) :
    outcome = some (.error e) ∧ post = [] := by
  induction h generalizing pre with
  | done now => simp [told] at ht
  | ready passed more ih =>
    simp only [told_append, told_awaitEvents, told_readyEvents, List.cons_append, List.nil_append] at ht
    rcases pre with _ | ⟨_, _ | ⟨_, pre⟩⟩
    · obtain ⟨rfl, -⟩ := List.cons.inj ht
      cases hc
    · obtain ⟨rfl, -⟩ := List.cons.inj (List.cons.inj ht).2
      cases hc
    · exact ih (List.cons.inj (List.cons.inj ht).2).2
  | failed rest passed answer =>
    simp only [told_append, told_awaitEvents, told_readyEvents, List.cons_append, List.nil_append] at ht
    rcases pre with _ | ⟨_, _ | ⟨_, pre⟩⟩
    · obtain ⟨rfl, -⟩ := List.cons.inj ht
      cases hc
    · obtain ⟨rfl, rfl⟩ := List.cons.inj (List.cons.inj ht).2
      cases hc
      exact ⟨rfl, rfl⟩
    · simp at ht
  | cut d rest passed =>
    rw [told_awaitEvents] at ht
    rcases pre with _ | ⟨_, pre⟩
    · obtain ⟨rfl, -⟩ := List.cons.inj ht
      cases hc
    · simp at ht

theorem Awaiting.ofGroup (h : Awaiting env timeout due now events later outcome) : ∀ e ∈ events, ofGroup e.2 = true := by
  induction h with
  | done now => exact List.forall_mem_nil _
  | ready passed more ih =>
    rw [List.forall_mem_append]
    exact ⟨by simp [awaitEvents, readyEvents, Supervisor.ofGroup], ih⟩
  | failed rest passed answer => simp [awaitEvents, readyEvents, Supervisor.ofGroup]
  | cut d rest passed => simp [awaitEvents, Supervisor.ofGroup]

end Awaiting

end StagedLaunch.Supervisor
