import StagedLaunch.Proofs.SideBySide
import StagedLaunch.Proofs.Supervisor.LaunchTrace

/-!
# Runs of a plan side by side

Two environments answer the calls of a run alike, in states that are related by what was called before
(`Environment.AnswersAlike`). Then the runs in them are the same: they make the same calls and have the same report, and their
states are related at the end by all calls (`run_sideBySide`). With one environment twice this says what holds at the end of
every run when each call keeps it.
-/

namespace StagedLaunch

variable {ε ε' σ τ η α β : Type}

open Supervisor

/-- Nothing was stopped so far. -/
def Supervisor.Quiet (trace : List (Call η)) : Prop := ∀ c ∈ trace, c.phase ≠ .stop

/-- Two environments answer the calls of a run of a plan alike. `R` relates their states by the calls before. Processes are
launched in the order of the plan, and before any is stopped. -/
structure Environment.AnswersAlike (env : Environment ε σ η) (env' : Environment ε' τ η) (plan : Plan)
    (R : List (Call η) → σ → τ → Prop) : Prop where
  /-- Processes have the same names. -/
  name_eq : env'.name = env.name
  /-- Processes that were launched have the same numbers. -/
  pid_eq : ∀ {trace w w' spec h}, (spec, h) ∈ launched trace → R trace w w' → env'.pid h w' = env.pid h w
  /-- The states stay related while time passes. -/
  elapse : ∀ trace, KeptInTime env.elapse env'.elapse (R trace)
  /-- The build ends alike. -/
  build : ∀ {w w'} (now : Nat), R [] w w' →
    EndsAlike (fun r => R (.build plan :: r.toList.map .built)) ((env.build plan).run env.elapse none now w)
      ((env'.build plan).run env'.elapse none now w')
  /-- A launch takes the same time. -/
  launch_took : ∀ {trace w w' spec} (now : Nat), Quiet trace → attempted trace ++ [spec] <+: plan.specs → R trace w w' →
    (env'.launch spec now w').took = (env.launch spec now w).took
  /-- A launch ends alike. -/
  launch_result : ∀ {trace w w' spec} (now : Nat), Quiet trace → attempted trace ++ [spec] <+: plan.specs → R trace w w' →
    (env'.launch spec now w').result = (env.launch spec now w).result
  /-- A launch leaves related states. -/
  launch : ∀ {trace w w' spec} (now : Nat), Quiet trace → attempted trace ++ [spec] <+: plan.specs → R trace w w' →
    R (trace ++ [.launch spec (env.launch spec now w).result]) (env.launch spec now w).state (env'.launch spec now w').state
  /-- Waiting for readiness ends alike. -/
  await : ∀ {trace w w' spec h check} (cut : Option Nat) (now timeout : Nat), Quiet trace → (spec, h) ∈ launched trace →
    spec.ready = some check → R trace w w' →
      EndsAlike (fun r => R (trace ++ .await h check timeout :: r.toList.map (.awaited h)))
        ((env.waitReady h check timeout).run env.elapse cut now w)
        ((env'.waitReady h check timeout).run env'.elapse cut now w')
  /-- Stopping a process ends alike. -/
  stop : ∀ {trace w w' spec h} (now : Nat) (shutdown : Shutdown), (spec, h) ∈ launched trace → R trace w w' →
    EndsAlike (fun r => R (trace ++ .stop h shutdown :: r.toList.map (.stopped h)))
      ((env.terminate h shutdown).run env.elapse none now w) ((env'.terminate h shutdown).run env'.elapse none now w')

namespace Supervisor

/-! ## Sessions side by side -/

/-- Two runs keep the same of their own, the processes that were launched among it, and what they work with is related by
what was called. -/
structure Beside (R : List (Call η) → σ → τ → Prop) (trace : List (Call η)) (s : Session σ η) (s' : Session τ η) : Prop where
  /-- They stand at the same point. -/
  state_eq : s'.state = s.state
  /-- They have launched the same processes. -/
  started_eq : s'.started = s.started
  /-- These are the ones whose launch has succeeded. -/
  handles_eq : s.started.map Started.handle = (launched trace).map Prod.snd
  /-- What they work with is related. -/
  world : R trace s.world s'.world

/-- Two parts of a run after the same calls go the same way: they end alike, tell the same, and are beside each other at the
end. -/
structure SameWay (R : List (Call η) → σ → τ → Prop) (trace : List (Call η)) (r : Run (Notice (Call η)) (Session σ η) α)
    (r' : Run (Notice (Call η)) (Session τ η) α) : Prop where
  /-- The results are the same. -/
  result_eq : r'.result = r.result
  /-- The instants are the same. -/
  now_eq : r'.now = r.now
  /-- They tell the same. -/
  events_eq : r'.events = r.events
  /-- They are beside each other. -/
  beside : Beside R (trace ++ told r.events) r.state r'.state

theorem Beside.mono {R R' : List (Call η) → σ → τ → Prop} {trace : List (Call η)} {s : Session σ η} {s' : Session τ η}
    (h : Beside R trace s s') (hR : ∀ w w', R trace w w' → R' trace w w') : Beside R' trace s s' :=
  ⟨h.state_eq, h.started_eq, h.handles_eq, hR _ _ h.world⟩

/-- A process that the run keeps was launched. -/
theorem Beside.mem_launched {R : List (Call η) → σ → τ → Prop} {trace : List (Call η)} {s : Session σ η} {s' : Session τ η}
    (h : Beside R trace s s') {p : Started η} (hp : p ∈ s.started) : ∃ spec, (spec, p.handle) ∈ launched trace := by
  have hmem : p.handle ∈ (launched trace).map Prod.snd := h.handles_eq ▸ List.mem_map_of_mem hp
  obtain ⟨⟨spec, handle⟩, hmem, rfl⟩ := List.mem_map.1 hmem
  exact ⟨spec, hmem⟩

/-- A call with its answer, if there is one, shows nothing when neither does. -/
theorem filterMap_answer {f : Call η → Option β} {call : Call η} {answer : α → Call η} (hcall : f call = none)
    (hanswer : ∀ a, f (answer a) = none) (r : Option α) : (call :: r.toList.map answer).filterMap f = [] := by
  cases r with
  | none => simp [hcall]
  | some a => simp [hcall, hanswer]

namespace SameWay

variable {env : Environment ε σ η} {env' : Environment ε' τ η} {R : List (Call η) → σ → τ → Prop} {trace : List (Call η)}
  {cut : Option Nat} {now : Nat} {s : Session σ η} {s' : Session τ η}

theorem bind {m : Act (Call η) σ η α} {m' : Act (Call η) τ η α} {f : α → Act (Call η) σ η β} {f' : α → Act (Call η) τ η β}
    (h : SameWay R trace (m.run (elapse env) cut now s) (m'.run (elapse env') cut now s'))
    (hf : ∀ a later v v' events, m.run (elapse env) cut now s = ⟨some a, later, v, events⟩ →
      Beside R (trace ++ told events) v v' →
      SameWay R (trace ++ told events) ((f a).run (elapse env) cut later v) ((f' a).run (elapse env') cut later v')) :
    SameWay R trace ((m >>= f).run (elapse env) cut now s) ((m' >>= f').run (elapse env') cut now s') := by
  rcases hr : m.run (elapse env) cut now s with ⟨r, later, v, events⟩
  rcases hr' : m'.run (elapse env') cut now s' with ⟨r', later', v', events'⟩
  rw [hr, hr'] at h
  obtain ⟨rfl, rfl, rfl, hbeside⟩ := h
  cases r' with
  | none =>
    rw [Activity.run_bind_none hr, Activity.run_bind_none hr']
    exact ⟨rfl, rfl, rfl, hbeside⟩
  | some a =>
    rw [Activity.run_bind_some hr, Activity.run_bind_some hr']
    have hrest := hf a _ _ _ _ hr hbeside
    refine ⟨hrest.result_eq, hrest.now_eq, congrArg (events' ++ ·) hrest.events_eq, ?_⟩
    have hbeside' := hrest.beside
    rwa [List.append_assoc, ← told_append] at hbeside'

theorem pure (a : α) (h : Beside R trace s s') :
    SameWay R trace ((Pure.pure a : Act (Call η) σ η α).run (elapse env) cut now s)
      ((Pure.pure a : Act (Call η) τ η α).run (elapse env') cut now s') :=
  ⟨rfl, rfl, rfl, by rwa [show told (_ : List (Nat × Notice (Call η))) = [] from rfl, List.append_nil]⟩

/-- What the run tells of its own makes no difference. -/
theorem after {r : Run (Notice (Call η)) (Session σ η) α} {r' : Run (Notice (Call η)) (Session τ η) α}
    {events : List (Nat × Notice (Call η))} (hevents : told events = []) (h : SameWay R trace r r') :
    SameWay R trace (r.after events) (r'.after events) := by
  refine ⟨h.result_eq, h.now_eq, congrArg (events ++ ·) h.events_eq, ?_⟩
  rw [Run.after_events, told_append, hevents, List.nil_append]
  exact h.beside

theorem tell {n : Notice (Call η)} (hn : n.told? = none) (h : Beside R trace s s') :
    SameWay R trace ((Activity.tell n : Act (Call η) σ η Unit).run (elapse env) cut now s)
      ((Activity.tell n : Act (Call η) τ η Unit).run (elapse env') cut now s') := by
  have hevents : told [(now, n)] = [] := by simp [told, hn]
  refine ⟨rfl, rfl, rfl, ?_⟩
  rw [Activity.run_tell, hevents, List.append_nil]
  exact h

theorem tell_bind {n : Notice (Call η)} (hn : n.told? = none) {f : Unit → Act (Call η) σ η α} {f' : Unit → Act (Call η) τ η α}
    (h : SameWay R trace ((f ()).run (elapse env) cut now s) ((f' ()).run (elapse env') cut now s')) :
    SameWay R trace ((Activity.tell n >>= f).run (elapse env) cut now s)
      ((Activity.tell n >>= f').run (elapse env') cut now s') := by
  have hevents : told [(now, n)] = [] := by simp [told, hn]
  rw [Activity.run_bind_some (Activity.run_tell n now s), Activity.run_bind_some (Activity.run_tell n now s')]
  exact h.after hevents

theorem setState_bind (new : RunState) {f : Unit → Act (Call η) σ η α} {f' : Unit → Act (Call η) τ η α}
    (h : Beside R trace s s')
    (hf : Beside R trace { s with state := new } { s' with state := new } →
      SameWay R trace ((f ()).run (elapse env) cut now { s with state := new })
        ((f' ()).run (elapse env') cut now { s' with state := new })) :
    SameWay R trace ((setState new >>= f).run (elapse env) cut now s) ((setState new >>= f').run (elapse env') cut now s') := by
  have hs : (setState new : Act (Call η) σ η Unit).run (elapse env) cut now s =
    ⟨some (), now, { s with state := new }, [(now, .state s.state new)]⟩ := rfl
  have hs' : (setState new : Act (Call η) τ η Unit).run (elapse env') cut now s' =
    ⟨some (), now, { s' with state := new }, [(now, .state s'.state new)]⟩ := rfl
  rw [Activity.run_bind_some hs, Activity.run_bind_some hs', h.state_eq]
  exact (hf ⟨rfl, h.started_eq, h.handles_eq, h.world⟩).after rfl

theorem clock_bind {f : Nat → Act (Call η) σ η α} {f' : Nat → Act (Call η) τ η α}
    (h : SameWay R trace ((f now).run (elapse env) cut now s) ((f' now).run (elapse env') cut now s')) :
    SameWay R trace ((Activity.look (fun now _ => now) >>= f).run (elapse env) cut now s)
      ((Activity.look (fun now _ => now) >>= f').run (elapse env') cut now s') :=
  h

/-- What the surroundings do goes the same way when it ends alike, and then the call and its answer are among the calls. -/
theorem onWorld {m : Activity ε σ α} {m' : Activity ε' τ α} {call : Call η} {answer : α → Call η}
    (hcall : call.launched? = none) (hanswer : ∀ a, (answer a).launched? = none) (h : Beside R trace s s')
    (hm : EndsAlike (fun r => R (trace ++ call :: r.toList.map answer)) (m.run env.elapse cut now s.world)
      (m'.run env'.elapse cut now s'.world)) :
    SameWay R trace ((Supervisor.onWorld (m.recorded call answer)).run (elapse env) cut now s)
      ((Supervisor.onWorld (m'.recorded call answer)).run (elapse env') cut now s') := by
  rcases hr : m.run env.elapse cut now s.world with ⟨r, later, world, events⟩
  rcases hr' : m'.run env'.elapse cut now s'.world with ⟨r', later', world', events'⟩
  rw [hr, hr'] at hm
  obtain ⟨rfl, rfl, hworld⟩ := hm
  rw [run_onWorld_recorded call answer hr, run_onWorld_recorded call answer hr']
  have htold : told ((now, .told call) :: (r'.toList.map fun a => (later', Notice.told (answer a)))) =
      call :: r'.toList.map answer := by
    cases r' with
    | none => rfl
    | some a => rfl
  refine ⟨rfl, rfl, rfl, h.state_eq, h.started_eq, ?_, ?_⟩
  · have hnone : launched (call :: r'.toList.map answer) = [] := filterMap_answer hcall hanswer r'
    rw [htold, launched_append, hnone, List.append_nil]
    exact h.handles_eq
  · rw [htold]
    exact hworld

end SameWay

/-! ## The parts of a run -/

/-- A relation as long as nothing was stopped. -/
def WhileQuiet (R : List (Call η) → σ → τ → Prop) (trace : List (Call η)) (w : σ) (w' : τ) : Prop := Quiet trace ∧ R trace w w'

theorem Quiet.append {trace more : List (Call η)} (h : Quiet trace) (hmore : ∀ c ∈ more, c.phase ≠ .stop) :
    Quiet (trace ++ more) :=
  List.forall_mem_append.2 ⟨h, hmore⟩

/-- A launch calls nothing but itself. -/
theorem told_launchOne {env : Environment ε σ η} {cut : Option Nat} {start now later : Nat} {spec : LaunchSpec}
    {s v : Session σ η} {r : Except LaunchError η} {events : Events η}
    (h : (launchOne env.recording start spec).run (elapse env) cut now s = ⟨some r, later, v, events⟩) :
    told events = [.launch spec r] := by
  rcases hl : env.launch spec now s.world with ⟨notices, took, w, e | p⟩
  · cases (run_launchOne_error env cut start hl).symm.trans h
    rfl
  · cases (run_launchOne_ok env cut start hl).symm.trans h
    rfl

/-- When all specifications are launched, the processes are those that the calls show. -/
theorem launched_launchAll {env : Environment ε σ η} {cut : Option Nat} {start now later : Nat} {specs : List LaunchSpec}
    {s v : Session σ η} {processes : List (LaunchSpec × η)} {events : Events η}
    (h : (launchAll env.recording start specs).run (elapse env) cut now s = ⟨some (.ok processes), later, v, events⟩) :
    launched (told events) = processes := by
  obtain ⟨events', started, later', failure, world, hrun, hspawn⟩ := run_launchAll env cut start specs now s
  have heq := h.symm.trans hrun
  simp only [Run.mk.injEq, Option.some.injEq] at heq
  obtain ⟨hresult, -, -, rfl⟩ := heq
  cases failure with
  | some e => cases hresult
  | none =>
    cases hresult
    exact hspawn.launched_eq

/-- When a group is launched, all of its specifications were. -/
theorem attempted_launchGroup {env : Environment ε σ η} {cut : Option Nat} {options : RunOptions} {start index now later : Nat}
    {group : Group} {s v : Session σ η} {u : Unit} {events : Events η}
    (h : (launchGroup env.recording options start index group).run (elapse env) cut now s =
      ⟨some (.ok u), later, v, events⟩) :
    attempted (told events) = group.specs := by
  obtain ⟨outcome, later', world, events', started, hrun, hgroup⟩ := run_launchGroup env cut options start index group now s
  have heq := h.symm.trans hrun
  simp only [Run.mk.injEq] at heq
  obtain ⟨rfl, -, -, rfl⟩ := heq
  rw [told_append, told_groupEvents, List.nil_append]
  exact hgroup.complete.attempted_eq

section Parts

variable {env : Environment ε σ η} {env' : Environment ε' τ η} {plan : Plan} {R : List (Call η) → σ → τ → Prop}
  {trace : List (Call η)} {cut : Option Nat} {now : Nat} {s : Session σ η} {s' : Session τ η}

theorem sameWay_pause (hR : KeptInTime env.elapse env'.elapse (R trace)) (ms : Nat) (h : Beside R trace s s') :
    SameWay R trace ((Activity.pause ms : Act (Call η) σ η Unit).run (elapse env) cut now s)
      ((Activity.pause ms : Act (Call η) τ η Unit).run (elapse env') cut now s') := by
  have helapse : ∀ later, Beside R trace (elapse env now later s) (elapse env' now later s') := fun later =>
    ⟨h.state_eq, h.started_eq, h.handles_eq, hR _ _ _ _ h.world⟩
  simp only [Activity.pause, Activity.run]
  split
  · exact ⟨rfl, rfl, rfl, by simpa [told] using helapse _⟩
  · exact ⟨rfl, rfl, rfl, by simpa [told] using helapse _⟩

theorem sameWay_settle (hR : KeptInTime env.elapse env'.elapse (R trace)) (group : Group) (spawned : Nat)
    (h : Beside R trace s s') :
    SameWay R trace ((settle group spawned : Act (Call η) σ η Unit).run (elapse env) cut now s)
      ((settle group spawned : Act (Call η) τ η Unit).run (elapse env') cut now s') := by
  simp only [settle, Activity.run]
  split
  · exact .pure () h
  · have hsettling : told [(now, (.settling group.label (group.settle - (now - spawned)) : Notice (Call η)))] = [] := rfl
    exact (sameWay_pause hR _ h).after hsettling

variable (hR : env.AnswersAlike env' plan R)
include hR

theorem keptInTime_whileQuiet (trace : List (Call η)) : KeptInTime env.elapse env'.elapse (WhileQuiet R trace) :=
  fun now later w w' h => ⟨h.1, hR.elapse trace now later w w' h.2⟩

theorem sameWay_launchOne (start : Nat) {spec : LaunchSpec} (hspec : attempted trace ++ [spec] <+: plan.specs)
    (h : Beside (WhileQuiet R) trace s s') :
    SameWay (WhileQuiet R) trace ((launchOne env.recording start spec).run (elapse env) cut now s)
      ((launchOne env'.recording start spec).run (elapse env') cut now s') := by
  obtain ⟨hquiet, hworld⟩ := h.world
  have htook := hR.launch_took now hquiet hspec hworld
  have hresult := hR.launch_result now hquiet hspec hworld
  have hstate := hR.launch now hquiet hspec hworld
  rcases hl : env.launch spec now s.world with ⟨notices, took, w, r⟩
  rcases hl' : env'.launch spec now s'.world with ⟨notices', took', w', r'⟩
  simp only [hl, hl'] at htook hresult hstate
  subst htook hresult
  have hquiet' : Quiet (trace ++ [.launch spec r']) := hquiet.append (by simp [Call.phase])
  cases r' with
  | error e =>
    rw [run_launchOne_error env cut start hl, run_launchOne_error env' cut start hl']
    refine ⟨rfl, rfl, rfl, h.state_eq, h.started_eq, ?_, hquiet', hR.elapse _ _ _ _ _ hstate⟩
    rw [told_launchEvents, launched_append]
    exact h.handles_eq.trans (congrArg _ (List.append_nil _).symm)
  | ok p =>
    have hlater := hR.elapse _ now (now + took') _ _ hstate
    have hmem : (spec, p) ∈ launched (trace ++ [.launch spec (.ok p)]) := by
      rw [launched_append]
      exact List.mem_append_right _ (List.mem_singleton.2 rfl)
    have hpid := hR.pid_eq hmem hlater
    rw [run_launchOne_ok env cut start hl, run_launchOne_ok env' cut start hl', hR.name_eq, hpid, h.started_eq]
    refine ⟨rfl, rfl, rfl, h.state_eq, rfl, ?_, hquiet', hlater⟩
    rw [told_launchEvents, launched_append, List.map_append, List.map_append, h.handles_eq]
    rfl

theorem sameWay_launchAll (start : Nat) (specs : List LaunchSpec) (hspecs : attempted trace ++ specs <+: plan.specs)
    (h : Beside (WhileQuiet R) trace s s') :
    SameWay (WhileQuiet R) trace ((launchAll env.recording start specs).run (elapse env) cut now s)
      ((launchAll env'.recording start specs).run (elapse env') cut now s') := by
  induction specs generalizing trace now s s' with
  | nil => exact .pure _ h
  | cons spec specs ih =>
    have hspec : attempted trace ++ [spec] <+: plan.specs :=
      ((List.prefix_append_right_inj _).2 (List.prefix_append [spec] specs)).trans hspecs
    refine (sameWay_launchOne hR start hspec h).bind fun r later v v' events hrun hv => ?_
    cases r with
    | error e => exact .pure _ hv
    | ok p =>
      have hrest : attempted (trace ++ told events) ++ specs <+: plan.specs := by
        rw [told_launchOne hrun, attempted_append, List.append_assoc]
        exact hspecs
      refine (ih hrest hv).bind fun r later v v' events hrun hv => ?_
      cases r with
      | error e => exact .pure _ hv
      | ok more => exact .pure _ hv

theorem sameWay_awaitAll (timeout : Nat) (processes : List (LaunchSpec × η)) (hmem : ∀ p ∈ processes, p ∈ launched trace)
    (h : Beside (WhileQuiet R) trace s s') :
    SameWay (WhileQuiet R) trace ((awaitAll env.recording timeout processes).run (elapse env) cut now s)
      ((awaitAll env'.recording timeout processes).run (elapse env') cut now s') := by
  induction processes generalizing trace now s s' with
  | nil => exact .pure _ h
  | cons p processes ih =>
    obtain ⟨spec, p⟩ := p
    obtain ⟨hp, hrest⟩ := List.forall_mem_cons.1 hmem
    cases hc : spec.ready with
    | none =>
      simp only [awaitAll, hc]
      exact ih hrest h
    | some check =>
      simp only [awaitAll, hc]
      have hawait : EndsAlike (fun r => WhileQuiet R (trace ++ .await p check timeout :: r.toList.map (.awaited p))) _ _ :=
        (hR.await cut now timeout h.world.1 hp hc h.world.2).mono
          fun r v v' hv => ⟨h.world.1.append (by cases r <;> simp [Call.phase]), hv⟩
      refine .tell_bind rfl ((SameWay.onWorld rfl (fun a => by cases a <;> rfl) h hawait).bind
        fun r later v v' events hrun hv => .tell_bind rfl ?_)
      cases r with
      | error e => exact .pure _ hv
      | ok u =>
        refine ih (fun p hp => ?_) hv
        rw [launched_append]
        exact List.mem_append_left _ (hrest p hp)

theorem sameWay_launchGroup (options : RunOptions) (start index : Nat) {group : Group}
    (hspecs : attempted trace ++ group.specs <+: plan.specs) (h : Beside (WhileQuiet R) trace s s') :
    SameWay (WhileQuiet R) trace ((launchGroup env.recording options start index group).run (elapse env) cut now s)
      ((launchGroup env'.recording options start index group).run (elapse env') cut now s') := by
  refine .setState_bind _ h fun h => .tell_bind rfl ((sameWay_launchAll hR start _ hspecs h).bind
    fun r later v v' events hrun hv => ?_)
  cases r with
  | error e => exact .pure _ hv
  | ok processes =>
    have hmem : ∀ p ∈ processes, p ∈ launched (trace ++ told events) := fun p hp => by
      rw [launched_append, launched_launchAll hrun]
      exact List.mem_append_right _ hp
    refine .clock_bind ((sameWay_awaitAll hR options.readyTimeout processes hmem hv).bind
      fun r ready v v' events hrun hv => ?_)
    cases r with
    | error e => exact .pure _ hv
    | ok u =>
      exact (sameWay_settle (keptInTime_whileQuiet hR _) group later hv).bind fun _ _ _ _ _ _ hv => .pure _ hv

theorem sameWay_launchGroups (options : RunOptions) (start index : Nat) (groups : List Group)
    (hspecs : attempted trace ++ groups.flatMap Group.specs <+: plan.specs) (h : Beside (WhileQuiet R) trace s s') :
    SameWay (WhileQuiet R) trace ((launchGroups env.recording options start index groups).run (elapse env) cut now s)
      ((launchGroups env'.recording options start index groups).run (elapse env') cut now s') := by
  induction groups generalizing trace index now s s' with
  | nil => exact .pure _ h
  | cons group groups ih =>
    rw [List.flatMap_cons, ← List.append_assoc] at hspecs
    refine (sameWay_launchGroup hR options start index ((List.prefix_append _ _).trans hspecs) h).bind
      fun r later v v' events hrun hv => ?_
    cases r with
    | error e => exact .pure _ hv
    | ok u =>
      refine ih (index + 1) ?_ hv
      rwa [attempted_append, attempted_launchGroup hrun]

theorem sameWay_window (options : RunOptions) (h : Beside R trace s s') :
    SameWay R trace ((window options plan : Act (Call η) σ η Unit).run (elapse env) cut now s)
      ((window options plan : Act (Call η) τ η Unit).run (elapse env') cut now s') := by
  have hopen : SameWay R trace ((openWindow options plan : Act (Call η) σ η Unit).run (elapse env) cut now s)
      ((openWindow options plan : Act (Call η) τ η Unit).run (elapse env') cut now s') :=
    .setState_bind _ h fun h => .tell rfl h
  exact hopen.bind fun _ _ _ _ _ _ hv => (sameWay_pause (hR.elapse _) _ hv).bind fun _ _ _ _ _ _ hv => .tell rfl hv

/-! ## Stopping -/

theorem sameWay_stopAll (shutdown : Shutdown) (started : List (Started η))
    (hmem : ∀ p ∈ started, ∃ spec, (spec, p.handle) ∈ launched trace) (h : Beside R trace s s') :
    SameWay R trace ((stopAll env.recording shutdown started).run (elapse env) none now s)
      ((stopAll env'.recording shutdown started).run (elapse env') none now s') := by
  have hname : env'.recording.name = env.recording.name := hR.name_eq
  induction started generalizing trace now s s' with
  | nil => exact .pure _ h
  | cons p started ih =>
    obtain ⟨⟨spec, hp⟩, hrest⟩ := List.forall_mem_cons.1 hmem
    rw [stopAll, stopAll, hname]
    refine .tell_bind rfl ((SameWay.onWorld rfl (fun _ => rfl) h (hR.stop now shutdown hp h.world)).bind
      fun outcome later v v' events hrun hv => .tell_bind rfl ((ih (fun q hq => ?_) hv).bind
        fun _ _ _ _ _ _ hv => .pure _ hv))
    obtain ⟨spec, hq⟩ := hrest q hq
    rw [launched_append]
    exact ⟨spec, List.mem_append_left _ hq⟩

theorem sameWay_finish (options : RunOptions) (failure : Option LaunchError) (h : Beside R trace s s') :
    SameWay R trace ((finish env.recording options failure).run (elapse env) none now s)
      ((finish env'.recording options failure).run (elapse env') none now s') := by
  have hteardown : SameWay R trace ((teardown env.recording options.shutdown).run (elapse env) none now s)
      ((teardown env'.recording options.shutdown).run (elapse env') none now s') := by
    simp only [teardown, Activity.run, h.started_eq]
    exact .setState_bind _ h fun h' => sameWay_stopAll hR options.shutdown _ (fun _ => h.mem_launched) h'
  have hrest : SameWay R trace
      ((teardown env.recording options.shutdown >>= fun stopped => setState .done >>= fun _ => Pure.pure stopped :
        Act (Call η) σ η (List StopRecord)).run (elapse env) none now s)
      ((teardown env'.recording options.shutdown >>= fun stopped => setState .done >>= fun _ => Pure.pure stopped :
        Act (Call η) τ η (List StopRecord)).run (elapse env') none now s') :=
    hteardown.bind fun _ _ _ _ _ _ hv => .setState_bind _ hv fun hv => .pure _ hv
  cases failure with
  | none => exact hrest
  | some e => exact .tell_bind rfl hrest

end Parts

/-! ## Whole runs -/

/-- Two runs have gone the same way up to where their processes are stopped. -/
structure SameDrive (R : List (Call η) → σ → τ → Prop) (trace : List (Call η)) (d : Drive (Call η) σ η)
    (d' : Drive (Call η) τ η) : Prop where
  /-- They have failed alike, or not at all. -/
  failure_eq : d'.failure = d.failure
  /-- They were interrupted alike. -/
  interrupted_eq : d'.interrupted = d.interrupted
  /-- The instants are the same. -/
  now_eq : d'.now = d.now
  /-- They have told the same. -/
  events_eq : d'.events = d.events
  /-- They are beside each other. -/
  beside : Beside R (trace ++ told d.events) d.session d'.session

/-- Two runs in different surroundings have gone the same way. -/
structure SameRun (R : List (Call η) → σ → τ → Prop) (trace trace' : List (Call η)) (f : Finished ε σ)
    (f' : Finished ε' τ) : Prop where
  /-- They have the same report. -/
  report_eq : f'.report = f.report
  /-- They have the same failure, or none. -/
  failure_eq : f'.failure = f.failure
  /-- They end at the same instant. -/
  now_eq : f'.now = f.now
  /-- They tell the same of their own. -/
  own_eq : own f'.events = own f.events
  /-- They make the same calls, with the same answers. -/
  calls_eq : trace' = trace
  /-- What they worked with is related by the calls. -/
  world : R trace f.world f'.world

/-- What came before makes no difference. -/
theorem SameDrive.after {R : List (Call η) → σ → τ → Prop} {trace : List (Call η)} {events : Events η}
    {d : Drive (Call η) σ η} {d' : Drive (Call η) τ η} (h : SameDrive R (trace ++ told events) d d') :
    SameDrive R trace { d with events := events ++ d.events } { d' with events := events ++ d'.events } := by
  refine ⟨h.failure_eq, h.interrupted_eq, h.now_eq, congrArg (events ++ ·) h.events_eq, ?_⟩
  rw [told_append, ← List.append_assoc]
  exact h.beside

section Runs

variable {env : Environment ε σ η} {env' : Environment ε' τ η} {plan : Plan} {R : List (Call η) → σ → τ → Prop}
  (hR : env.AnswersAlike env' plan R) {trace : List (Call η)} (options : RunOptions) (interrupt : Nat → Option Interruption)
  (i : Option Interruption) (start now : Nat) {w : σ} {w' : τ} {s : Session σ η} {s' : Session τ η}
include hR

theorem sameDrive_window (h : Beside R trace s s') :
    SameDrive R trace (driveWindow env.recording options plan i now s) (driveWindow env'.recording options plan i now s') := by
  have helapse : elapse env.recording = elapse env := rfl
  have helapse' : elapse env'.recording = elapse env' := rfl
  have hwindow : SameWay R trace
      ((window options plan : Act (Call η) σ η Unit).run (elapse env) (i.map Interruption.instant) now s)
      ((window options plan : Act (Call η) τ η Unit).run (elapse env') (i.map Interruption.instant) now s') :=
    sameWay_window hR options h
  rcases hr : (window options plan : Act (Call η) σ η Unit).run (elapse env) (i.map Interruption.instant) now s with
    ⟨r, later, v, events⟩
  rcases hr' : (window options plan : Act (Call η) τ η Unit).run (elapse env') (i.map Interruption.instant) now s' with
    ⟨r', later', v', events'⟩
  rw [hr, hr'] at hwindow
  obtain ⟨rfl, rfl, rfl, hbeside⟩ := hwindow
  simp only [driveWindow, helapse, helapse', hr, hr']
  cases r' with
  | some u => exact ⟨rfl, rfl, rfl, rfl, hbeside⟩
  | none =>
    have hstopped : told [(later', (.stoppedEarly : Notice (Call η)))] = [] := rfl
    refine ⟨rfl, rfl, rfl, rfl, ?_⟩
    rw [told_append, told_append, told_interruptEvents, hstopped, List.append_nil, List.append_nil]
    exact hbeside

theorem sameDrive_launch (hspecs : attempted trace ++ plan.specs <+: plan.specs) (h : Beside (WhileQuiet R) trace s s') :
    SameDrive R trace (driveLaunch env.recording options plan i start now s)
      (driveLaunch env'.recording options plan i start now s') := by
  have helapse : elapse env.recording = elapse env := rfl
  have helapse' : elapse env'.recording = elapse env' := rfl
  have hlaunch : SameWay (WhileQuiet R) trace
      ((launchGroups env.recording options start 0 plan.groups).run (elapse env) (i.map Interruption.instant) now s)
      ((launchGroups env'.recording options start 0 plan.groups).run (elapse env') (i.map Interruption.instant) now s') :=
    sameWay_launchGroups hR options start 0 plan.groups hspecs h
  rcases hr : (launchGroups env.recording options start 0 plan.groups).run (elapse env) (i.map Interruption.instant) now s
    with ⟨r, later, v, events⟩
  rcases hr' : (launchGroups env'.recording options start 0 plan.groups).run (elapse env') (i.map Interruption.instant) now s'
    with ⟨r', later', v', events'⟩
  rw [hr, hr'] at hlaunch
  obtain ⟨rfl, rfl, rfl, hbeside⟩ := hlaunch
  have hbeside' : Beside R (trace ++ told events') v v' := hbeside.mono fun _ _ => And.right
  simp only [driveLaunch, helapse, helapse', hr, hr', hbeside'.state_eq]
  rcases r' with _ | e | u
  · refine ⟨rfl, rfl, rfl, rfl, ?_⟩
    rw [told_append, told_interruptEvents, List.append_nil]
    exact hbeside'
  · exact ⟨rfl, rfl, rfl, rfl, hbeside'⟩
  · exact (sameDrive_window hR options i later' hbeside').after

theorem sameDrive (h : R [] w w') :
    SameDrive R [] (drive env.recording options plan interrupt start w) (drive env'.recording options plan interrupt start w') := by
  have helapse : elapse env.recording = elapse env := rfl
  have helapse' : elapse env'.recording = elapse env' := rfl
  have hstart : Beside (WhileQuiet R) [] (⟨w, .idle, []⟩ : Session σ η) ⟨w', .idle, []⟩ :=
    ⟨rfl, rfl, rfl, List.forall_mem_nil _, h⟩
  have hbuild : SameWay (WhileQuiet R) [] ((build env.recording plan).run (elapse env) none start ⟨w, .idle, []⟩)
      ((build env'.recording plan).run (elapse env') none start ⟨w', .idle, []⟩) := by
    have hanswer : EndsAlike (fun r => WhileQuiet R ([] ++ .build plan :: r.toList.map .built)) _ _ :=
      (hR.build start h).mono fun r v v' hv => ⟨by cases r <;> simp [Quiet, Call.phase], hv⟩
    exact .setState_bind _ hstart fun hv => .tell_bind rfl ((SameWay.onWorld rfl (fun _ => rfl) hv hanswer).bind
      fun _ _ _ _ _ _ hv => .tell_bind rfl (.pure _ hv))
  obtain ⟨result, world, hrun, -⟩ := run_build env plan start w
  obtain ⟨result', world', hrun', -⟩ := run_build env' plan start w'
  rw [hrun, hrun'] at hbuild
  obtain ⟨hresult, hnow, hevents, hbeside⟩ := hbuild
  dsimp only at hresult hnow hevents hbeside
  cases hresult
  simp only [drive, helapse, helapse', hrun, hrun', hnow]
  have hbeside' : Beside R ([] ++ told (buildEvents plan start (listensFrom env plan start w) result))
      (⟨world, .building, []⟩ : Session σ η) ⟨world', .building, []⟩ := hbeside.mono fun _ _ => And.right
  cases result with
  | error e => exact ⟨rfl, rfl, rfl, rfl, hbeside'⟩
  | ok u =>
    refine SameDrive.after (sameDrive_launch hR options _ start _ ?_ hbeside)
    exact List.prefix_refl _

/-- Runs in surroundings that answer alike are the same. -/
theorem run_sideBySide (h : R [] w w') :
    SameRun R (calls env options plan interrupt start w) (calls env' options plan interrupt start w')
      (run env options plan interrupt start w) (run env' options plan interrupt start w') := by
  have helapse : elapse env.recording = elapse env := rfl
  have helapse' : elapse env'.recording = elapse env' := rfl
  have hdrive := sameDrive hR options interrupt start h
  rcases hd : drive env.recording options plan interrupt start w with ⟨failure, interrupted, now, s, events⟩
  rcases hd' : drive env'.recording options plan interrupt start w' with ⟨failure', interrupted', now', s', events'⟩
  rw [hd, hd'] at hdrive
  obtain ⟨rfl, rfl, rfl, rfl, hbeside⟩ := hdrive
  have hfinish : SameWay R ([] ++ told events') ((finish env.recording options failure').run (elapse env) none now' s)
      ((finish env'.recording options failure').run (elapse env') none now' s') := sameWay_finish hR options failure' hbeside
  rcases hr : (finish env.recording options failure').run (elapse env) none now' s with ⟨r, later, v, stops⟩
  rcases hr' : (finish env'.recording options failure').run (elapse env') none now' s' with ⟨r', later', v', stops'⟩
  rw [hr, hr'] at hfinish
  obtain ⟨rfl, rfl, rfl, hend⟩ := hfinish
  have hstate : v'.state = v.state := hend.state_eq
  have hstarted : v'.started = v.started := hend.started_eq
  -- both runs with their calls recorded, spelled out
  have hf : run env.recording options plan interrupt start w = ⟨⟨plan.case, v.started.map Started.record, r'.getD [],
      interrupted', v.state⟩, failure', events' ++ stops', later', v.world⟩ := by simp only [run, helapse, hd, hr]
  have hf' : run env'.recording options plan interrupt start w' = ⟨⟨plan.case, v.started.map Started.record, r'.getD [],
      interrupted', v.state⟩, failure', events' ++ stops', later', v'.world⟩ := by
    simp only [run, helapse', hd', hr', hstate, hstarted]
  obtain ⟨hreport, hfailure, hnow, hworld, hown⟩ := run_recording env options plan interrupt start w
  obtain ⟨hreport', hfailure', hnow', hworld', hown'⟩ := run_recording env' options plan interrupt start w'
  have hcalls : calls env options plan interrupt start w = told (events' ++ stops') := by rw [calls, hf]
  have hcalls' : calls env' options plan interrupt start w' = told (events' ++ stops') := by rw [calls, hf']
  refine ⟨?_, ?_, ?_, ?_, hcalls'.trans hcalls.symm, ?_⟩
  · rw [← hreport, ← hreport', hf, hf']
  · rw [← hfailure, ← hfailure', hf, hf']
  · rw [← hnow, ← hnow', hf, hf']
  · rw [← hown, ← hown', hf, hf']
  · rw [← hworld, ← hworld', hcalls, hf, hf', told_append]
    exact hend.world

end Runs

end Supervisor

/-! ## One run -/

/-- Every call of a run of a plan keeps what `I` says, by the calls so far, about what the run works with. -/
structure Environment.Keeps (env : Environment ε σ η) (plan : Plan) (I : List (Call η) → σ → Prop) : Prop where
  /-- It is kept while time passes. -/
  elapse : ∀ {trace w} (now later : Nat), I trace w → I trace (env.elapse now later w)
  /-- The build keeps it. -/
  build : ∀ {w} (now : Nat), I [] w → let r := (env.build plan).run env.elapse none now w
    I (.build plan :: r.result.toList.map .built) r.state
  /-- A launch keeps it. -/
  launch : ∀ {trace w spec} (now : Nat), Quiet trace → attempted trace ++ [spec] <+: plan.specs → I trace w →
    I (trace ++ [.launch spec (env.launch spec now w).result]) (env.launch spec now w).state
  /-- Waiting for readiness keeps it. -/
  await : ∀ {trace w spec h check} (cut : Option Nat) (now timeout : Nat), Quiet trace → (spec, h) ∈ launched trace →
    spec.ready = some check → I trace w → let r := (env.waitReady h check timeout).run env.elapse cut now w
      I (trace ++ .await h check timeout :: r.result.toList.map (.awaited h)) r.state
  /-- Stopping a process keeps it. -/
  stop : ∀ {trace w spec h} (now : Nat) (shutdown : Shutdown), (spec, h) ∈ launched trace → I trace w →
    let r := (env.terminate h shutdown).run env.elapse none now w
    I (trace ++ .stop h shutdown :: r.result.toList.map (.stopped h)) r.state

/-- What every call keeps holds at the end of a run. -/
theorem Environment.Keeps.run {env : Environment ε σ η} {plan : Plan} {I : List (Call η) → σ → Prop} (h : env.Keeps plan I)
    (options : RunOptions) (interrupt : Nat → Option Interruption) (start : Nat) {w : σ} (hw : I [] w) :
    I (calls env options plan interrupt start w) (Supervisor.run env options plan interrupt start w).world := by
  have hsame : env.AnswersAlike env plan fun trace w w' => w' = w ∧ I trace w :=
    { name_eq := rfl
      pid_eq := by
        rintro trace w w' spec p - ⟨rfl, -⟩
        rfl
      elapse := by
        rintro trace now later w w' ⟨rfl, hw⟩
        exact ⟨rfl, h.elapse now later hw⟩
      build := by
        rintro w w' now ⟨rfl, hw⟩
        exact ⟨rfl, rfl, rfl, h.build now hw⟩
      launch_took := by
        rintro trace w w' spec now - - ⟨rfl, -⟩
        rfl
      launch_result := by
        rintro trace w w' spec now - - ⟨rfl, -⟩
        rfl
      launch := by
        rintro trace w w' spec now hquiet hspec ⟨rfl, hw⟩
        exact ⟨rfl, h.launch now hquiet hspec hw⟩
      await := by
        rintro trace w w' spec p check cut now timeout hquiet hp hc ⟨rfl, hw⟩
        exact ⟨rfl, rfl, rfl, h.await cut now timeout hquiet hp hc hw⟩
      stop := by
        rintro trace w w' spec p now shutdown hp ⟨rfl, hw⟩
        exact ⟨rfl, rfl, rfl, h.stop now shutdown hp hw⟩ }
  exact (run_sideBySide hsame options interrupt start ⟨rfl, hw⟩).world.2

end StagedLaunch
