import StagedLaunch.Proofs.Supervisor.Trace

/-!
# The calls of the launch of a plan

The launch of a group, that of one group after another, and a whole run. A launch and a readiness check are called when they
are due (`Launching.launch_due`, `Launching.await_due`), a call that fails is the last (`Launching.error_last`), and a launch
that comes to its end is complete (`Launching.complete`). `run_trace` puts the calls of a run together.
-/

namespace StagedLaunch.Supervisor

variable {ε σ η : Type}

/-! ## One group -/

/-- The calls launch all of some specifications, and every readiness check that is then due has been called and has passed.
-/
structure Complete (specs : List LaunchSpec) (trace : List (Call η)) : Prop where
  /-- The launches are those of the specifications, in order. -/
  attempted_eq : attempted trace = specs
  /-- All of them have succeeded. -/
  launched_eq : (launched trace).map Prod.fst = specs
  /-- The checks are the ones that are due, in order. -/
  awaits_eq : awaits trace = (dueOf (launched trace)).map Due.key
  /-- All of them have passed. -/
  passed_eq : passed trace = (dueOf (launched trace)).map Due.process

theorem Complete.append {specs specs' : List LaunchSpec} {trace trace' : List (Call η)} (h : Complete specs trace)
    (h' : Complete specs' trace') : Complete (specs ++ specs') (trace ++ trace') := by
  refine ⟨?_, ?_, ?_, ?_⟩
  · rw [attempted_append, h.attempted_eq, h'.attempted_eq]
  · rw [launched_append, List.map_append, h.launched_eq, h'.launched_eq]
  · rw [awaits_append, launched_append, dueOf_append, List.map_append, h.awaits_eq, h'.awaits_eq]
  · rw [passed_append, launched_append, dueOf_append, List.map_append, h.passed_eq, h'.passed_eq]

section GroupLaunch

variable {env : Environment ε σ η} {timeout start now later : Nat} {group : Group} {events : Events η}
  {started : List (Started η)} {outcome : Option (Except LaunchError Unit)}

/-- The calls of a group are its launches, of which one has failed, or its launches and then its readiness checks. -/
theorem GroupLaunch.parts (h : GroupLaunch env timeout start group now events started later outcome) :
    (∃ e, outcome = some (.error e) ∧ Spawning env start group.specs now events started later (some e)) ∨
      ∃ a b spawned ready result, told events = told a ++ told b ∧
        Spawning env start group.specs now a started spawned none ∧
        Awaiting env timeout (groupDue group started) spawned b ready result ∧
        (∀ e, result = some (.error e) → outcome = some (.error e)) ∧
        (outcome = some (.ok ()) → result = some (.ok ())) := by
  cases h with
  | notSpawned spawn => exact Or.inl ⟨_, rfl, spawn⟩
  | notReady spawn await stopped => exact Or.inr ⟨_, _, _, _, _, told_append _ _, spawn, await, fun _ => id, id⟩
  | notSettled spawn await passed =>
    exact Or.inr ⟨_, _, _, _, _, by rw [told_append, told_append, told_settleEvents, List.append_nil], spawn, await,
      nofun, nofun⟩
  | settled spawn await =>
    exact Or.inr ⟨_, _, _, _, _, by rw [told_append, told_append, told_settleEvents, List.append_nil], spawn, await,
      nofun, fun _ => rfl⟩

/-- Once all processes of a group are launched, the checks that are due are those of the launched processes. -/
theorem Spawning.groupDue_eq (h : Spawning env start group.specs now events started later none) :
    groupDue group started = dueOf (Supervisor.launched (told events)) := by
  rw [groupDue, h.launched_eq]

/-- Once all processes of a group are launched, each of its specifications has a process. -/
theorem Spawning.launched_fst (h : Spawning env start group.specs now events started later none) :
    (Supervisor.launched (told events)).map Prod.fst = group.specs := by
  have hlength : group.specs.length = (started.map Started.handle).length := by rw [List.length_map, h.length_eq]
  rw [h.launched_eq, List.map_fst_zip (Nat.le_of_eq hlength)]

/-- When a group is launched, all of its processes are launched and ready. -/
theorem GroupLaunch.complete (h : GroupLaunch env timeout start group now events started later (some (.ok ()))) :
    Complete group.specs (told events) := by
  rcases h.parts with ⟨e, he, -⟩ | ⟨a, b, spawned, ready, result, ht, spawn, await, -, hok⟩
  · cases he
  · cases hok rfl
    obtain ⟨ha, hl⟩ := await.launched_eq
    obtain ⟨hw, hp⟩ := await.awaits_eq
    obtain ⟨hw', hp'⟩ := spawn.awaits_eq
    rw [spawn.groupDue_eq] at hw hp
    refine ⟨?_, ?_, ?_, ?_⟩
    · rw [ht, attempted_append, spawn.attempted_eq, ha, List.append_nil]
    · rw [ht, launched_append, hl, List.append_nil, spawn.launched_fst]
    · rw [ht, awaits_append, launched_append, hl, List.append_nil, hw, hw', List.nil_append]
    · rw [ht, passed_append, launched_append, hl, List.append_nil, hp, hp', List.nil_append]

theorem GroupLaunch.attempted_prefix (h : GroupLaunch env timeout start group now events started later outcome) :
    attempted (told events) <+: group.specs := by
  rcases h.parts with ⟨e, -, spawn⟩ | ⟨a, b, spawned, ready, result, ht, spawn, await, -⟩
  · exact spawn.attempted_prefix
  · have hall : attempted (told events) = group.specs := by
      rw [ht, attempted_append, spawn.attempted_eq, await.launched_eq.1, List.append_nil]
    exact hall ▸ List.prefix_refl _

theorem GroupLaunch.awaits_prefix (h : GroupLaunch env timeout start group now events started later outcome) :
    awaits (told events) <+: (dueOf (launched (told events))).map Due.key := by
  rcases h.parts with ⟨e, -, spawn⟩ | ⟨a, b, spawned, ready, result, ht, spawn, await, -⟩
  · rw [spawn.awaits_eq.1]
    exact List.nil_prefix
  · rw [ht, awaits_append, launched_append, spawn.awaits_eq.1, await.launched_eq.2, List.append_nil, List.nil_append,
      ← spawn.groupDue_eq]
    exact await.awaits_prefix

theorem GroupLaunch.handles_eq (h : GroupLaunch env timeout start group now events started later outcome) :
    (launched (told events)).map Prod.snd = started.map Started.handle := by
  rcases h.parts with ⟨e, -, spawn⟩ | ⟨a, b, spawned, ready, result, ht, spawn, await, -⟩
  · exact spawn.handles_eq
  · rw [ht, launched_append, await.launched_eq.2, List.append_nil, spawn.handles_eq]

/-- The calls of a group are launches and readiness checks. -/
theorem GroupLaunch.calls (h : GroupLaunch env timeout start group now events started later outcome) :
    ∀ c ∈ told events, c.phase = .launch := by
  rcases h.parts with ⟨e, -, spawn⟩ | ⟨a, b, spawned, ready, result, ht, spawn, await, -⟩
  · intro c hc
    obtain ⟨spec, r, rfl⟩ := spawn.calls c hc
    rfl
  · intro c hc
    rw [ht, List.mem_append] at hc
    rcases hc with hc | hc
    · obtain ⟨spec, r, rfl⟩ := spawn.calls c hc
      rfl
    · rcases await.calls c hc with ⟨p, check, rfl⟩ | ⟨p, r, rfl⟩
      · rfl
      · rfl

theorem ofGroup_settleEvents (group : Group) (spawned ready : Nat) :
    ∀ e ∈ (settleEvents group spawned ready : Events η), ofGroup e.2 = true := by
  unfold settleEvents
  split
  · exact List.forall_mem_nil _
  · simp [ofGroup]

theorem GroupLaunch.ofGroup (h : GroupLaunch env timeout start group now events started later outcome) :
    ∀ e ∈ events, ofGroup e.2 = true := by
  cases h with
  | notSpawned spawn => exact spawn.ofGroup
  | notReady spawn await stopped =>
    rw [List.forall_mem_append]
    exact ⟨spawn.ofGroup, await.ofGroup⟩
  | notSettled spawn await passed =>
    rw [List.forall_mem_append, List.forall_mem_append]
    exact ⟨⟨spawn.ofGroup, await.ofGroup⟩, ofGroup_settleEvents _ _ _⟩
  | settled spawn await =>
    rw [List.forall_mem_append, List.forall_mem_append]
    exact ⟨⟨spawn.ofGroup, await.ofGroup⟩, ofGroup_settleEvents _ _ _⟩

/-- Before a launch of a group is called, those of the specifications before it have succeeded, and no check was called. -/
theorem GroupLaunch.launch_due (h : GroupLaunch env timeout start group now events started later outcome)
    {pre post : List (Call η)} {spec : LaunchSpec} {r : Except LaunchError η}
    (ht : told events = pre ++ .launch spec r :: post) :
    ∃ rest, group.specs = (launched pre).map Prod.fst ++ spec :: rest ∧ attempted pre = (launched pre).map Prod.fst ∧
      awaits pre = [] := by
  have hspawn : ∀ {a : Events η} {spawned : Nat} {failure : Option LaunchError} {post' : List (Call η)},
      Spawning env start group.specs now a started spawned failure → told a = pre ++ .launch spec r :: post' →
      ∃ rest, group.specs = (launched pre).map Prod.fst ++ spec :: rest ∧ attempted pre = (launched pre).map Prod.fst ∧
        awaits pre = [] := by
    intro a spawned failure post' spawn ha
    obtain ⟨rest, hrest, hpre⟩ := spawn.launch_due ha
    have hnil := spawn.awaits_eq.1
    rw [ha, awaits_append, List.append_eq_nil_iff] at hnil
    exact ⟨rest, hrest, hpre, hnil.1⟩
  rcases h.parts with ⟨e, -, spawn⟩ | ⟨a, b, spawned, ready, result, hab, spawn, await, -⟩
  · exact hspawn spawn ht
  · rw [hab] at ht
    rcases append_eq_append_cons ht with ⟨post', ha, -⟩ | ⟨pre', -, hb⟩
    · exact hspawn spawn ha
    · obtain ⟨p, check, hc⟩ | ⟨p, r, hc⟩ := await.calls (.launch spec r) (by rw [hb]; simp)
      · cases hc
      · cases hc

/-- Before a check of a group is called, all of its processes are launched and the checks before it have passed. -/
theorem GroupLaunch.await_due (h : GroupLaunch env timeout start group now events started later outcome)
    {pre post : List (Call η)} {p : η} {check : ReadyCheck} {ms : Nat}
    (ht : told events = pre ++ .await p check ms :: post) :
    ms = timeout ∧ attempted pre = group.specs ∧ (launched pre).map Prod.fst = group.specs ∧
      ∃ earlier d rest, dueOf (launched pre) = earlier ++ d :: rest ∧ d.key = (p, check) ∧
        awaits pre = earlier.map Due.key ∧ passed pre = earlier.map Due.process := by
  rcases h.parts with ⟨e, -, spawn⟩ | ⟨a, b, spawned, ready, result, hab, spawn, await, -⟩
  · obtain ⟨spec, r, hc⟩ := spawn.calls (.await p check ms) (by rw [ht]; simp)
    cases hc
  · rw [hab] at ht
    rcases append_eq_append_cons ht with ⟨post', ha, -⟩ | ⟨pre', rfl, hb⟩
    · obtain ⟨spec, r, hc⟩ := spawn.calls (.await p check ms) (by rw [ha]; simp)
      cases hc
    · obtain ⟨hms, earlier, d, rest, hdue, hkey, hw, hp⟩ := await.await_due hb
      obtain ⟨hatt, hl⟩ := await.launched_eq
      rw [hb, attempted_append, List.append_eq_nil_iff] at hatt
      rw [hb, launched_append, List.append_eq_nil_iff] at hl
      refine ⟨hms, ?_, ?_, earlier, d, rest, ?_, hkey, ?_, ?_⟩
      · rw [attempted_append, spawn.attempted_eq, hatt.1, List.append_nil]
      · rw [launched_append, hl.1, List.append_nil, spawn.launched_fst]
      · rw [launched_append, hl.1, List.append_nil, ← spawn.groupDue_eq, hdue]
      · rw [awaits_append, spawn.awaits_eq.1, hw, List.nil_append]
      · rw [passed_append, spawn.awaits_eq.2, hp, List.nil_append]

/-- A call that has failed is the last of its group, and its error is why the launch fails. -/
theorem GroupLaunch.error_last (h : GroupLaunch env timeout start group now events started later outcome)
    {pre post : List (Call η)} {c : Call η} {e : LaunchError} (ht : told events = pre ++ c :: post)
    (hc : c.error? = some e) : outcome = some (.error e) ∧ post = [] := by
  rcases h.parts with ⟨e', rfl, spawn⟩ | ⟨a, b, spawned, ready, result, hab, spawn, await, herror, -⟩
  · obtain ⟨hf, hpost⟩ := spawn.error_last ht hc
    cases hf
    exact ⟨rfl, hpost⟩
  · rw [hab] at ht
    rcases append_eq_append_cons ht with ⟨post', ha, -⟩ | ⟨pre', -, hb⟩
    · cases (spawn.error_last ha hc).1
    · obtain ⟨hr, hpost⟩ := await.error_last hb hc
      exact ⟨herror e hr, hpost⟩

end GroupLaunch

/-! ## One group after another -/

/-- What has been called when a specification is launched: the groups before its own are complete, the specifications before
it in its group have been launched, and no readiness check of the group has been called. -/
def LaunchDue (groups : List Group) (before : List (Call η)) (spec : LaunchSpec) : Prop :=
  ∃ k group earlier current rest, groups[k]? = some group ∧ before = earlier ++ current ∧
    Complete ((groups.take k).flatMap Group.specs) earlier ∧
    group.specs = (launched current).map Prod.fst ++ spec :: rest ∧
    attempted current = (launched current).map Prod.fst ∧ awaits current = []

/-- What has been called when a process is asked for its readiness: the groups before its own are complete, all
specifications of its group have been launched, the check is the next that is due, and those before it have passed. -/
def AwaitDue (groups : List Group) (before : List (Call η)) (p : η) (check : ReadyCheck) : Prop :=
  ∃ k group earlier current passing d rest, groups[k]? = some group ∧ before = earlier ++ current ∧
    Complete ((groups.take k).flatMap Group.specs) earlier ∧
    attempted current = group.specs ∧ (launched current).map Prod.fst = group.specs ∧
    dueOf (launched current) = passing ++ d :: rest ∧ d.key = (p, check) ∧
    awaits current = passing.map Due.key ∧ passed current = passing.map Due.process

theorem Complete.nil : Complete [] ([] : List (Call η)) := ⟨rfl, rfl, rfl, rfl⟩

/-- What is due in a group is due in the first of some groups. -/
theorem LaunchDue.first {group : Group} (groups : List Group) {before : List (Call η)} {spec : LaunchSpec}
    (h : ∃ rest, group.specs = (launched before).map Prod.fst ++ spec :: rest ∧
      attempted before = (launched before).map Prod.fst ∧ awaits before = []) :
    LaunchDue (group :: groups) before spec := by
  obtain ⟨rest, h⟩ := h
  exact ⟨0, group, [], before, rest, rfl, rfl, .nil, h⟩

theorem AwaitDue.first {group : Group} (groups : List Group) {before : List (Call η)} {p : η} {check : ReadyCheck}
    (h : attempted before = group.specs ∧ (launched before).map Prod.fst = group.specs ∧
      ∃ passing d rest, dueOf (launched before) = passing ++ d :: rest ∧ d.key = (p, check) ∧
        awaits before = passing.map Due.key ∧ passed before = passing.map Due.process) :
    AwaitDue (group :: groups) before p check := by
  obtain ⟨hatt, hl, passing, d, rest, h⟩ := h
  exact ⟨0, group, [], before, passing, d, rest, rfl, rfl, .nil, hatt, hl, h⟩

/-- A group that is complete before the others keeps what is due in them. -/
theorem LaunchDue.next {group : Group} {groups : List Group} {first before : List (Call η)} {spec : LaunchSpec}
    (hfirst : Complete group.specs first) (h : LaunchDue groups before spec) :
    LaunchDue (group :: groups) (first ++ before) spec := by
  obtain ⟨k, g, earlier, current, rest, hk, rfl, hc, hspecs, hatt, haw⟩ := h
  refine ⟨k + 1, g, first ++ earlier, current, rest, hk, (List.append_assoc ..).symm, ?_, hspecs, hatt, haw⟩
  rw [List.take_succ_cons, List.flatMap_cons]
  exact hfirst.append hc

theorem AwaitDue.next {group : Group} {groups : List Group} {first before : List (Call η)} {p : η} {check : ReadyCheck}
    (hfirst : Complete group.specs first) (h : AwaitDue groups before p check) :
    AwaitDue (group :: groups) (first ++ before) p check := by
  obtain ⟨k, g, earlier, current, passing, d, rest, hk, rfl, hc, h⟩ := h
  refine ⟨k + 1, g, first ++ earlier, current, passing, d, rest, hk, (List.append_assoc ..).symm, ?_, h⟩
  rw [List.take_succ_cons, List.flatMap_cons]
  exact hfirst.append hc

section Launching

variable {env : Environment ε σ η} {timeout start index now later : Nat} {old new : RunState} {groups : List Group}
  {events : Events η} {started : List (Started η)} {outcome : Option (Except LaunchError Unit)}

/-- When all groups are launched, all of their processes are launched and ready. -/
theorem Launching.complete (h : Launching env timeout start index old groups now events started later new (some (.ok ()))) :
    Complete (groups.flatMap Group.specs) (told events) := by
  generalize ho : some (Except.ok ()) = outcome at h
  induction h with
  | done index state now => exact .nil
  | stopped rest launch stopped => exact absurd ho.symm stopped
  | next launch others ih =>
    rw [told_append, told_append, told_groupEvents, List.nil_append, List.flatMap_cons]
    exact launch.complete.append (ih ho)

theorem Launching.attempted_prefix (h : Launching env timeout start index old groups now events started later new outcome) :
    attempted (told events) <+: groups.flatMap Group.specs := by
  induction h with
  | done index state now => exact List.prefix_refl _
  | stopped rest launch stopped =>
    rw [told_append, told_groupEvents, List.nil_append, List.flatMap_cons]
    exact launch.attempted_prefix.trans (List.prefix_append _ _)
  | next launch others ih =>
    rw [told_append, told_append, told_groupEvents, List.nil_append, List.flatMap_cons, attempted_append,
      launch.complete.attempted_eq, List.prefix_append_right_inj]
    exact ih

theorem Launching.awaits_prefix (h : Launching env timeout start index old groups now events started later new outcome) :
    awaits (told events) <+: (dueOf (launched (told events))).map Due.key := by
  induction h with
  | done index state now => exact List.prefix_refl _
  | stopped rest launch stopped =>
    rw [told_append, told_groupEvents, List.nil_append]
    exact launch.awaits_prefix
  | next launch others ih =>
    rw [told_append, told_append, told_groupEvents, List.nil_append, awaits_append, launched_append, dueOf_append,
      List.map_append, launch.complete.awaits_eq, List.prefix_append_right_inj]
    exact ih

/-- The processes that were launched are the ones in the list of the run. -/
theorem Launching.handles_eq (h : Launching env timeout start index old groups now events started later new outcome) :
    (launched (told events)).map Prod.snd = started.map Started.handle := by
  induction h with
  | done index state now => rfl
  | stopped rest launch stopped =>
    rw [told_append, told_groupEvents, List.nil_append]
    exact launch.handles_eq
  | next launch others ih =>
    rw [told_append, told_append, told_groupEvents, List.nil_append, launched_append, List.map_append, List.map_append,
      launch.handles_eq, ih]

/-- The calls of the launch are launches and readiness checks. -/
theorem Launching.calls (h : Launching env timeout start index old groups now events started later new outcome) :
    ∀ c ∈ told events, c.phase = .launch := by
  induction h with
  | done index state now => exact List.forall_mem_nil _
  | stopped rest launch stopped =>
    rw [told_append, told_groupEvents, List.nil_append]
    exact launch.calls
  | next launch others ih =>
    intro c hc
    rw [told_append, told_append, told_groupEvents, List.nil_append, List.mem_append] at hc
    rcases hc with hc | hc
    · exact launch.calls c hc
    · exact ih c hc

/-- Whatever is launched is due. -/
theorem Launching.launch_due (h : Launching env timeout start index old groups now events started later new outcome)
    {pre post : List (Call η)} {spec : LaunchSpec} {r : Except LaunchError η}
    (ht : told events = pre ++ .launch spec r :: post) : LaunchDue groups pre spec := by
  induction h generalizing pre with
  | done index state now => simp [told] at ht
  | stopped rest launch stopped =>
    rw [told_append, told_groupEvents, List.nil_append] at ht
    exact LaunchDue.first rest (launch.launch_due ht)
  | @next _ _ _ rest _ _ _ _ _ _ _ _ _ launch others ih =>
    rw [told_append, told_append, told_groupEvents, List.nil_append] at ht
    -- the call is made in this group, or in a later one, and then after all of this one
    rcases append_eq_append_cons ht with ⟨post', ha, -⟩ | ⟨pre', rfl, hb⟩
    · exact LaunchDue.first rest (launch.launch_due ha)
    · exact (ih hb).next launch.complete

/-- Whatever is asked for its readiness is due. -/
theorem Launching.await_due (h : Launching env timeout start index old groups now events started later new outcome)
    {pre post : List (Call η)} {p : η} {check : ReadyCheck} {ms : Nat}
    (ht : told events = pre ++ .await p check ms :: post) : ms = timeout ∧ AwaitDue groups pre p check := by
  induction h generalizing pre with
  | done index state now => simp [told] at ht
  | stopped rest launch stopped =>
    rw [told_append, told_groupEvents, List.nil_append] at ht
    obtain ⟨hms, hdue⟩ := launch.await_due ht
    exact ⟨hms, AwaitDue.first rest hdue⟩
  | @next _ _ _ rest _ _ _ _ _ _ _ _ _ launch others ih =>
    rw [told_append, told_append, told_groupEvents, List.nil_append] at ht
    rcases append_eq_append_cons ht with ⟨post', ha, -⟩ | ⟨pre', rfl, hb⟩
    · obtain ⟨hms, hdue⟩ := launch.await_due ha
      exact ⟨hms, AwaitDue.first rest hdue⟩
    · obtain ⟨hms, hdue⟩ := ih hb
      exact ⟨hms, hdue.next launch.complete⟩

/-- A call that has failed is the last of the launch, and its error is why the launch fails. -/
theorem Launching.error_last (h : Launching env timeout start index old groups now events started later new outcome)
    {pre post : List (Call η)} {c : Call η} {e : LaunchError} (ht : told events = pre ++ c :: post)
    (hc : c.error? = some e) : outcome = some (.error e) ∧ post = [] := by
  induction h generalizing pre with
  | done index state now => simp [told] at ht
  | stopped rest launch stopped =>
    rw [told_append, told_groupEvents, List.nil_append] at ht
    exact launch.error_last ht hc
  | next launch others ih =>
    rw [told_append, told_append, told_groupEvents, List.nil_append] at ht
    rcases append_eq_append_cons ht with ⟨post', ha, -⟩ | ⟨pre', -, hb⟩
    -- a group that the launch goes on from has no call that failed
    · cases (launch.error_last ha hc).1
    · exact ih hb

end Launching

/-! ## A whole run -/

/-- The calls at the end of a run stop processes. -/
theorem Stopping.phase_eq {env : Environment ε σ η} {shutdown : Shutdown} {started : List (Started η)} {now later : Nat}
    {events : Events η} {records : List StopRecord} (h : Stopping env shutdown started now events records later) :
    ∀ c ∈ told events, c.phase = .stop := by
  induction h with
  | done now => exact List.forall_mem_nil _
  | stop passed more ih =>
    intro c hc
    rw [told_append, told_stopEvents, List.cons_append, List.cons_append, List.nil_append, List.mem_cons,
      List.mem_cons] at hc
    rcases hc with rfl | rfl | hc
    · rfl
    · rfl
    · exact ih c hc

section Driving

variable {env : Environment ε σ η} {options : RunOptions} {plan : Plan} {i : Option Interruption} {start built now : Nat}
  {events : Events η} {started : List (Started η)} {state : RunState} {failure : Option LaunchError} {interrupted : Bool}

/-- Before the processes are stopped a run builds and, when the build has succeeded, launches. -/
theorem Driving.parts (h : Driving env options plan i start built events started now state failure interrupted) :
    (∃ e, events = buildEvents plan start built (.error e) ∧ started = [] ∧ failure = some e ∧ interrupted = false) ∨
      ∃ launch rest later last outcome, events = buildEvents plan start built (.ok ()) ++ launch ++ rest ∧
        (∀ e ∈ rest, ofRun e.2 = true) ∧
        Launching env options.readyTimeout start 0 .building plan.groups built launch started later last outcome ∧
        (∀ e, outcome = some (.error e) → failure = some e) ∧ (failure = none → outcome = some (.ok ())) := by
  cases h with
  | notBuilt answer => exact Or.inl ⟨_, rfl, rfl, rfl, rfl⟩
  | notLaunched launch =>
    refine Or.inr ⟨_, [], _, _, _, (List.append_nil _).symm, List.forall_mem_nil _, launch, ?_, nofun⟩
    intro e he
    cases he
    rfl
  | interrupted launch => exact Or.inr ⟨_, _, _, _, _, rfl, ofRun_interruptEvents _ _, launch, nofun, nofun⟩
  | ran launch whole =>
    refine Or.inr ⟨_, _, _, _, _, List.append_assoc .., ?_, launch, nofun, fun _ => rfl⟩
    rw [List.forall_mem_append]
    exact ⟨by simp [openEvents, ofRun], by simp [ofRun]⟩
  | cutShort launch cut =>
    refine Or.inr ⟨_, _, _, _, _, List.append_assoc .., ?_, launch, nofun, fun _ => rfl⟩
    rw [List.forall_mem_append, List.forall_mem_append]
    exact ⟨by simp [openEvents, ofRun], ofRun_interruptEvents _ _, by simp [ofRun]⟩

/-- Before the processes are stopped the calls are those of the build and, when it has succeeded, those of the launch. -/
theorem Driving.calls (h : Driving env options plan i start built events started now state failure interrupted) :
    (∃ e, told events = [.build plan, .built (.error e)] ∧ started = [] ∧ failure = some e) ∨
      ∃ launch later last outcome, told events = [.build plan, .built (.ok ())] ++ told launch ∧
        Launching env options.readyTimeout start 0 .building plan.groups built launch started later last outcome ∧
        (∀ e, outcome = some (.error e) → failure = some e) ∧ (failure = none → outcome = some (.ok ())) := by
  rcases h.parts with ⟨e, rfl, hs, hf, -⟩ | ⟨launch, rest, later, last, outcome, rfl, hrest, hl⟩
  · exact Or.inl ⟨e, told_buildEvents _ _ _ _, hs, hf⟩
  · refine Or.inr ⟨launch, later, last, outcome, ?_, hl⟩
    rw [told_append, told_append, told_buildEvents, told_of_ofRun hrest, List.append_nil]

/-- Nothing is stopped before the end. -/
theorem Driving.not_stop (h : Driving env options plan i start built events started now state failure interrupted) :
    ∀ c ∈ told events, c.phase ≠ .stop := by
  rcases h.calls with ⟨e, ht, -, -⟩ | ⟨launch, later, last, outcome, ht, launching, -⟩
  · rw [ht]
    simp [Call.phase]
  · rw [ht, List.forall_mem_append]
    refine ⟨by simp [Call.phase], fun c hc => ?_⟩
    rw [launching.calls c hc]
    decide

end Driving

/-- The calls of a run are those before its processes are stopped and those that stop them; and the report is about the same
processes. -/
theorem run_trace (env : Environment ε σ η) (options : RunOptions) (plan : Plan) (interrupt : Nat → Option Interruption)
    (start : Nat) (world : σ) :
    let f := run env options plan interrupt start world
    ∃ (events after : Events η) (started : List (Started η)) (now : Nat) (state : RunState) (records : List StopRecord),
      calls env options plan interrupt start world = told events ++ told after ∧
      Driving env options plan (interrupt (listensFrom env plan start world)) start (listensFrom env plan start world) events
        started now state f.failure f.report.interrupted ∧
      Stopping env options.shutdown started now after records f.now ∧
      f.report = ⟨plan.case, started.map Started.record, records, f.report.interrupted, .done⟩ := by
  obtain ⟨hreport, hfailure, hnow, -, -⟩ := run_recording env options plan interrupt start world
  obtain ⟨drive, stop, htold, hrun⟩ := run_course env options plan interrupt start world
  rw [hfailure, hreport] at drive
  rw [hnow] at stop
  rw [hreport] at hrun
  refine ⟨_, _, _, _, _, _, ?_, drive, stop, hrun⟩
  rw [calls, htold, told_append, told_append, told_append, told_failureEvents, List.append_nil]
  exact List.append_nil _

end StagedLaunch.Supervisor
