import Mathlib.Data.List.Forall2
import StagedLaunch.Proofs.Machine.Mirror
import StagedLaunch.Proofs.Machine.Opening
import StagedLaunch.Proofs.Machine.Outputs

/-!
# What a run does, in order

`Machine.audited` is a machine that does what another does and notes the effects of a run: the build commands, the files that
are put in place of others, and the programs that are started. A run first runs build commands, and then each launch opens its
output files and starts its program; between these it has no effects (`EffectsOf`, `Machine.run_audited`).
-/

namespace StagedLaunch

open Supervisor

variable {σ : Type}

/-- Something that a run does, besides asking and sending signals. -/
inductive Effect where
  /-- A build command is run. -/
  | command (step : BuildStep)
  /-- Files are put in place of those that were there before. -/
  | files (before after : FileTree)
  /-- A program is started, or that fails; its output goes to files. -/
  | spawn (program : String) (args : List String) (places : Place × Place) (result : Except OsError Nat)

/-- The machine that does the same and notes the effects. -/
def Machine.audited (m : Machine σ) : Machine (σ × List Effect) where
  elapse now later s := (m.elapse now later s.1, s.2)
  files s := m.files s.1
  withFiles t s := (m.withFiles t s.1, s.2 ++ [.files (m.files s.1) t])
  sockets s := m.sockets s.1
  accepts port s := m.accepts port s.1
  command step s :=
    let r := m.command step s.1
    ⟨r.output, r.rest, (r.state, s.2 ++ [.command step]), r.result⟩
  spawn program args places s :=
    let r := m.spawn program args places s.1
    (r.1, (r.2, s.2 ++ [.spawn program args places r.1]))
  poll pid s :=
    let r := m.poll pid s.1
    (r.1, (r.2, s.2))
  signalGroup pid signal s := (m.signalGroup pid signal s.1, s.2)
  signal pid signal s :=
    let r := m.signal pid signal s.1
    (r.1, (r.2, s.2))

/-- The effects that were noted. -/
def Watched.effects (w : Watched (σ × List Effect)) : List Effect := w.machine.2

namespace Machine

variable (m : Machine σ)

/-- To note the effects changes nothing. -/
theorem audited_mirrors : m.audited.Mirrors m Prod.fst where
  elapse _ _ _ := rfl
  files_eq _ := rfl
  withFiles _ _ := rfl
  sockets_eq _ := rfl
  accepts_eq _ _ := rfl
  output_eq _ _ := rfl
  rest_eq _ _ := rfl
  result_eq _ _ := rfl
  command _ _ := rfl
  spawn_eq _ _ _ _ := rfl
  spawn _ _ _ _ := rfl
  poll_eq _ _ := rfl
  poll _ _ := rfl
  signalGroup _ _ _ := rfl
  signal_eq _ _ _ := rfl
  signal _ _ _ := rfl

theorem effects_poll (c : Child) (w : Watched (σ × List Effect)) : (c.poll m.audited w).2.effects = w.effects := by
  unfold Child.poll
  cases c.seenExit? w with
  | some status => rfl
  | none =>
    rcases hpoll : m.poll c.pid w.machine.1 with ⟨e | _ | status, s⟩
    · simp [audited, hpoll, Watched.effects]
    · simp [audited, hpoll, Watched.effects]
    · simp [audited, hpoll, Watched.effects]

end Machine

/-! ## One launch -/

/-- The effects of a launch, by what has become of it: its output files are opened, and if that succeeds its program is
started. -/
inductive LaunchEffects (spec : LaunchSpec) : Except LaunchError Child → List Effect → Prop where
  /-- An output file could not be opened. -/
  | unopened {before : FileTree} {e : LaunchError} (refused : (spec.output.open before).1 = .error e) :
      LaunchEffects spec (.error e) [.files before (spec.output.open before).2]
  /-- The program could not be started. -/
  | unstarted {before : FileTree} {places : Place × Place} {e : OsError} (opened : (spec.output.open before).1 = .ok places) :
      LaunchEffects spec (.error (.spawn spec.name spec.program e))
        [.files before (spec.output.open before).2, .spawn spec.program spec.args places (.error e)]
  /-- The program was started. -/
  | started {before : FileTree} {places : Place × Place} {index pid : Nat}
      (opened : (spec.output.open before).1 = .ok places) :
      LaunchEffects spec (.ok ⟨spec, index, pid⟩)
        [.files before (spec.output.open before).2, .spawn spec.program spec.args places (.ok pid)]

namespace LaunchEffects

variable {spec : LaunchSpec} {result : Except LaunchError Child} {effects : List Effect}

/-- Files are put in place by opening the output files. -/
theorem after_eq (h : LaunchEffects spec result effects) {before after : FileTree} (hfiles : .files before after ∈ effects) :
    after = (spec.output.open before).2 := by
  cases h with
  | unopened refused =>
    cases List.mem_singleton.1 hfiles
    rfl
  | unstarted opened =>
    cases (List.mem_cons.1 hfiles).resolve_right (by simp)
    rfl
  | started opened =>
    cases (List.mem_cons.1 hfiles).resolve_right (by simp)
    rfl

/-- A process that was launched is one of its specification. -/
theorem spec_eq {c : Child} (h : LaunchEffects spec (.ok c) effects) : c.spec = spec := by
  cases h with
  | started opened => rfl

/-- A launch that succeeds has opened both output files. -/
theorem opened {c : Child} (h : LaunchEffects spec (.ok c) effects) :
    ∃ before, .files before (spec.output.open before).2 ∈ effects ∧ spec.output.opened before = [.out, .err] := by
  cases h with
  | @started before places index pid opened =>
    exact ⟨before, List.mem_cons_self .., ((spec.output.opensOutputs before).all places opened).1⟩

/-- A launch that succeeds has started its program. -/
theorem spawned {c : Child} (h : LaunchEffects spec (.ok c) effects) :
    ∃ places, .spawn spec.program spec.args places (.ok c.pid) ∈ effects := by
  cases h with
  | @started before places index pid opened => exact ⟨places, List.mem_cons_of_mem _ (List.mem_singleton.2 rfl)⟩

end LaunchEffects

theorem Machine.launch_effects (m : Machine σ) (spec : LaunchSpec) (w : Watched (σ × List Effect)) :
    ∃ effects, (m.audited.launch spec w).state.effects = w.effects ++ effects ∧
      LaunchEffects spec (m.audited.launch spec w).result effects := by
  have hfiles : m.audited.files w.machine = m.files w.machine.1 := rfl
  unfold launch
  rw [hfiles]
  rcases hopen : spec.output.open (m.files w.machine.1) with ⟨e | places, t⟩
  · obtain ⟨hrefused, rfl⟩ := Prod.mk.inj hopen
    exact ⟨_, rfl, .unopened hrefused⟩
  · obtain ⟨hopened, hafter⟩ := Prod.mk.inj hopen
    rcases hspawn : m.spawn spec.program spec.args places (m.withFiles t w.machine.1) with ⟨e | pid, s⟩
    · have hstart : m.audited.spawn spec.program spec.args places (m.audited.withFiles t w.machine) =
          (.error e, (s, w.effects ++ [.files (m.files w.machine.1) t] ++
            [.spawn spec.program spec.args places (.error e)])) := by
        simp only [audited, hspawn, Watched.effects]
      refine ⟨[.files (m.files w.machine.1) t, .spawn spec.program spec.args places (.error e)], ?_, ?_⟩
      · simp only [hstart]
        exact List.append_assoc ..
      · simp only [hstart]
        rw [← hafter]
        exact .unstarted hopened
    · have hstart : m.audited.spawn spec.program spec.args places (m.audited.withFiles t w.machine) =
          (.ok pid, (s, w.effects ++ [.files (m.files w.machine.1) t] ++ [.spawn spec.program spec.args places (.ok pid)])) := by
        simp only [audited, hspawn, Watched.effects]
      refine ⟨[.files (m.files w.machine.1) t, .spawn spec.program spec.args places (.ok pid)], ?_, ?_⟩
      · simp only [hstart]
        exact List.append_assoc ..
      · simp only [hstart]
        rw [← hafter]
        exact .started hopened

/-! ## A run -/

/-- Effects are those of a run with some calls: build commands, all of them if the build has succeeded, and then what each
launch does. -/
structure EffectsOf (stage : BuildStage) (trace : List (Call Child)) (ran : List BuildStep) (launches : List (List Effect))
    (effects : List Effect) : Prop where
  /-- The commands come before the launches. -/
  effects_eq : effects = ran.map .command ++ launches.flatten
  /-- The commands are the first of those of the build. -/
  ran_prefix : ran <+: stage.steps
  /-- No command is left out when the build succeeds. -/
  ran_eq : .built (.ok ()) ∈ trace → ran = stage.steps
  /-- The launches are those that were called. -/
  launches : List.Forall₂ (fun attempt => LaunchEffects attempt.1 attempt.2) (attempts trace) launches

/-- What is related to the elements of a list, one by one, is related to one of them. -/
theorem exists_of_forall₂ {α β : Type} {R : α → β → Prop} {as : List α} {bs : List β} (h : List.Forall₂ R as bs) {b : β}
    (hb : b ∈ bs) : ∃ a ∈ as, R a b := by
  induction h with
  | nil => cases hb
  | cons hab _ ih =>
    rcases List.mem_cons.1 hb with rfl | hb
    · exact ⟨_, List.mem_cons_self .., hab⟩
    · obtain ⟨a, ha, hab⟩ := ih hb
      exact ⟨a, List.mem_cons_of_mem _ ha, hab⟩

namespace EffectsOf

variable {stage : BuildStage} {trace : List (Call Child)} {ran : List BuildStep} {launches : List (List Effect)}
  {effects : List Effect}

/-- An effect is a build command or belongs to a launch. -/
theorem of_mem (h : EffectsOf stage trace ran launches effects) {x : Effect} (hx : x ∈ effects) :
    (∃ step ∈ stage.steps, x = .command step) ∨
      ∃ spec result es, (spec, result) ∈ attempts trace ∧ LaunchEffects spec result es ∧ x ∈ es := by
  rw [h.effects_eq, List.mem_append] at hx
  rcases hx with hx | hx
  · obtain ⟨step, hstep, rfl⟩ := List.mem_map.1 hx
    exact .inl ⟨step, h.ran_prefix.subset hstep, rfl⟩
  · obtain ⟨es, hes, hx⟩ := List.mem_flatten.1 hx
    obtain ⟨attempt, hattempt, hlaunch⟩ := exists_of_forall₂ h.launches hes
    exact .inr ⟨attempt.1, attempt.2, es, hattempt, hlaunch, hx⟩

/-- When nothing is launched, build commands are all there is. -/
theorem eq_of_not_launched (h : EffectsOf stage trace ran launches effects) (hnone : attempted trace = []) :
    effects = ran.map .command := by
  have hattempts : attempts trace = [] := List.map_eq_nil_iff.1 ((attempts_map_fst trace).trans hnone)
  have hlaunches := h.launches
  rw [hattempts, List.forall₂_nil_left_iff] at hlaunches
  rw [h.effects_eq, hlaunches, List.flatten_nil, List.append_nil]

/-- Files are put in place for a launch, which opens its output files. -/
theorem of_files (h : EffectsOf stage trace ran launches effects) {before after : FileTree}
    (hfiles : .files before after ∈ effects) : ∃ spec ∈ attempted trace, after = (spec.output.open before).2 := by
  rcases h.of_mem hfiles with ⟨step, -, ⟨⟩⟩ | ⟨spec, result, es, hattempt, hlaunch, hmem⟩
  exact ⟨spec, attempts_map_fst trace ▸ List.mem_map_of_mem hattempt, hlaunch.after_eq hmem⟩

/-- The effects of a launch that has succeeded are among those of the run. -/
theorem exists_of_launched (h : EffectsOf stage trace ran launches effects) {spec : LaunchSpec} {c : Child}
    (hlaunched : (spec, c) ∈ launched trace) : ∃ es, LaunchEffects spec (.ok c) es ∧ es ⊆ effects := by
  obtain ⟨es, hes, hlaunch⟩ := exists_of_forall₂ h.launches.flip (mem_launched_iff.1 hlaunched)
  refine ⟨es, hlaunch, fun x hx => ?_⟩
  rw [h.effects_eq]
  exact List.mem_append_right _ (List.mem_flatten.2 ⟨es, hes, hx⟩)

theorem spec_eq (h : EffectsOf stage trace ran launches effects) {spec : LaunchSpec} {c : Child}
    (hlaunched : (spec, c) ∈ launched trace) : c.spec = spec := by
  obtain ⟨es, hlaunch, -⟩ := h.exists_of_launched hlaunched
  exact hlaunch.spec_eq

/-- For a launch that has succeeded both output files were opened. -/
theorem opened_of_launched (h : EffectsOf stage trace ran launches effects) {spec : LaunchSpec} {c : Child}
    (hlaunched : (spec, c) ∈ launched trace) :
    ∃ before, .files before (spec.output.open before).2 ∈ effects ∧ spec.output.opened before = [.out, .err] := by
  obtain ⟨es, hlaunch, hsub⟩ := h.exists_of_launched hlaunched
  obtain ⟨before, hmem, hopened⟩ := hlaunch.opened
  exact ⟨before, hsub hmem, hopened⟩

end EffectsOf

/-- The effects that were noted so far are those of the calls so far. -/
structure KeepsEffects (stage : BuildStage) (trace : List (Call Child)) (w : Watched (σ × List Effect)) : Prop where
  /-- At the beginning there are none. -/
  fresh : trace = [] → w.effects = []
  /-- They are in order. -/
  ordered : ∃ ran launches, EffectsOf stage trace ran launches w.effects

namespace KeepsEffects

variable {m : Machine σ} {stage : BuildStage} {trace : List (Call Child)} {w w' : Watched (σ × List Effect)}

theorem of_effects (h : KeepsEffects stage trace w) (heffects : w'.effects = w.effects) : KeepsEffects stage trace w' :=
  ⟨fun htrace => heffects.trans (h.fresh htrace), heffects ▸ h.ordered⟩

theorem keeps (m : Machine σ) (stage : BuildStage) (trace : List (Call Child)) :
    m.audited.Keeps (fun _ => True) (KeepsEffects stage trace) where
  elapse _ _ h := h.of_effects rfl
  poll _ h := h.of_effects (m.effects_poll ..)
  signalGroup _ _ h _ := h.of_effects rfl
  signal _ _ h _ := h.of_effects rfl

/-- Calls that neither launch nor answer for the build change nothing. -/
theorem append (h : KeepsEffects stage trace w) {more : List (Call Child)} (hattempts : attempts more = [])
    (hbuilt : .built (.ok ()) ∉ more) (hmore : more ≠ []) : KeepsEffects stage (trace ++ more) w := by
  obtain ⟨ran, launches, heffects⟩ := h.ordered
  refine ⟨fun htrace => absurd (List.append_eq_nil_iff.1 htrace).2 hmore, ran, launches, heffects.effects_eq,
    heffects.ran_prefix, fun hmem => heffects.ran_eq ((List.mem_append.1 hmem).resolve_right hbuilt), ?_⟩
  rw [attempts_append, hattempts, List.append_nil]
  exact heffects.launches

/-- While a build goes on, the effects are the build commands that were run. -/
theorem commands (m : Machine σ) : m.audited.BuildKeeps fun ran w => w.effects = ran.map .command where
  elapse _ _ h := h
  command := by
    intro done w step h
    have hnoted : Watched.effects { w with machine := (m.audited.command step w.machine).state } =
        w.effects ++ [.command step] := rfl
    rw [hnoted, h, List.map_append]
    rfl

theorem build (m : Machine σ) (stage : BuildStage) (plan : Plan) (now : Nat) (h : KeepsEffects stage [] w) :
    let r := (stage.build m.audited plan).run m.audited.elapseWatched none now w
    KeepsEffects stage (.build plan :: r.result.toList.map .built) r.state := by
  intro r
  obtain ⟨ran, hran, hall, heffects⟩ := (commands m).build stage plan now (h.fresh rfl)
  have hattempts : attempts (.build plan :: r.result.toList.map .built : List (Call Child)) = [] :=
    filterMap_answer rfl (fun _ => rfl) r.result
  refine ⟨nofun, ran, [], heffects.trans (List.append_nil _).symm, hran, fun hmem => hall ?_, ?_⟩
  · obtain ⟨result, hresult, heq⟩ := List.mem_map.1 ((List.mem_cons.1 hmem).resolve_left nofun)
    cases heq
    exact Option.mem_toList.1 hresult
  · rw [hattempts]
    exact .nil

theorem launched (h : KeepsEffects stage trace w) (spec : LaunchSpec) :
    KeepsEffects stage (trace ++ [.launch spec (m.audited.launch spec w).result]) (m.audited.launch spec w).state := by
  obtain ⟨ran, launches, heffects⟩ := h.ordered
  obtain ⟨effects, hnoted, hlaunch⟩ := m.launch_effects spec w
  refine ⟨fun htrace => absurd htrace (by simp), ran, launches ++ [effects], ?_, heffects.ran_prefix, fun hmem => ?_, ?_⟩
  · rw [hnoted, heffects.effects_eq, List.flatten_append, List.append_assoc, List.flatten_singleton]
  · exact heffects.ran_eq ((List.mem_append.1 hmem).resolve_right (by simp))
  · rw [attempts_append]
    exact List.rel_append heffects.launches (.cons hlaunch .nil)

theorem environment (m : Machine σ) (stage : BuildStage) (plan : Plan) :
    (m.audited.environment stage).Keeps plan (KeepsEffects stage) where
  elapse now later h := (keeps m _ _).elapse now later h
  build now h := build m stage plan now h
  launch _ _ _ h := h.launched _
  await cut now timeout _ _ _ h := ((keeps m _ _).waitReady trivial cut _ timeout now h).append
    (filterMap_answer rfl (fun _ => rfl) _) (by simp) (by simp)
  stop now shutdown _ h := ((keeps m _ _).terminate trivial shutdown now h).append
    (filterMap_answer rfl (fun _ => rfl) _) (by simp) (by simp)

end KeepsEffects

/-- The effects of a run are in order, and to note them has changed nothing. -/
theorem Machine.run_audited (m : Machine σ) (stage : BuildStage) (options : RunOptions) (plan : Plan)
    (interrupt : Nat → Option Interruption) (start : Nat) (s : σ) :
    SameRun (fun _ w w' => w'.map Prod.fst = w)
      (calls (m.environment stage) options plan interrupt start (.fresh s))
      (calls (m.audited.environment stage) options plan interrupt start (.fresh (s, [])))
      (run (m.environment stage) options plan interrupt start (.fresh s))
      (run (m.audited.environment stage) options plan interrupt start (.fresh (s, []))) ∧
    ∃ ran launches, EffectsOf stage (calls (m.environment stage) options plan interrupt start (.fresh s)) ran launches
      (run (m.audited.environment stage) options plan interrupt start (.fresh (s, []))).world.effects := by
  have hsame := m.audited_mirrors.run stage options plan interrupt start (s, [])
  have hfresh : KeepsEffects stage ([] : List (Call Child)) (Watched.fresh (s, ([] : List Effect))) :=
    ⟨fun _ => rfl, [], [], rfl, List.nil_prefix, nofun, .nil⟩
  have hend := (KeepsEffects.environment m stage plan).run options interrupt start hfresh
  rw [hsame.calls_eq] at hend
  exact ⟨hsame, hend.ordered⟩

end StagedLaunch
