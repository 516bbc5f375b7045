import StagedLaunch.Proofs.Machine.Opening
import StagedLaunch.Proofs.Machine.Outputs

/-!
# Files that a run leaves alone

A machine may leave a place alone, so that what stands there only changes when files are put in place
(`Machine.LeavesAlone`). Then a run keeps what stands there unless it has called a launch whose output goes there
(`Machine.run_keptAt`).
-/

namespace StagedLaunch

open Supervisor FileTree

variable {σ : Type}

/-- Two trees have the same working directory and the same at a place. -/
structure FileTree.SameAt (p : Place) (t t' : FileTree) : Prop where
  /-- The working directory is the same. -/
  cwd_eq : t'.cwd = t.cwd
  /-- The same stands at the place. -/
  at?_eq : t'.at? p = t.at? p

/-- A machine leaves what stands at a place alone, and puts files there as it is told. -/
structure Machine.LeavesAlone (m : Machine σ) (p : Place) : Prop where
  /-- While time passes. -/
  elapse : ∀ now later s, SameAt p (m.files s) (m.files (m.elapse now later s))
  /-- Files are put in place. -/
  withFiles : ∀ t s, SameAt p t (m.files (m.withFiles t s))
  /-- When a build command is run. -/
  command : ∀ step s, SameAt p (m.files s) (m.files (m.command step s).state)
  /-- When a program is started. -/
  spawn : ∀ program args places s, SameAt p (m.files s) (m.files (m.spawn program args places s).2)
  /-- When an exit is asked for. -/
  poll : ∀ pid s, SameAt p (m.files s) (m.files (m.poll pid s).2)
  /-- When a signal is sent to a group. -/
  signalGroup : ∀ pid signal s, SameAt p (m.files s) (m.files (m.signalGroup pid signal s))
  /-- When a signal is sent to a process. -/
  signal : ∀ pid signal s, SameAt p (m.files s) (m.files (m.signal pid signal s).2)

/-- What stood at a place is kept, unless a launch was called whose output goes there. -/
structure KeepsPlace (m : Machine σ) (p : Place) (t : FileTree) (trace : List (Call Child)) (w : Watched σ) : Prop where
  /-- The working directory is the same. -/
  cwd_eq : (m.files w.machine).cwd = t.cwd
  /-- What stands there is kept. -/
  kept : (∀ spec ∈ attempted trace, ∀ stream, p ≠ spec.output.place t.cwd stream) → KeptAt p t (m.files w.machine)

namespace KeepsPlace

variable {m : Machine σ} {p : Place} {t : FileTree} {trace : List (Call Child)} {w w' : Watched σ}

theorem of_sameAt (h : KeepsPlace m p t trace w) (hsame : SameAt p (m.files w.machine) (m.files w'.machine)) :
    KeepsPlace m p t trace w' :=
  ⟨hsame.cwd_eq.trans h.cwd_eq, fun hplaces => (h.kept hplaces).trans (.inl hsame.at?_eq)⟩

theorem sameAt_poll (hm : m.LeavesAlone p) (c : Child) (w : Watched σ) :
    SameAt p (m.files w.machine) (m.files (c.poll m w).2.machine) := by
  have hpoll := hm.poll c.pid w.machine
  unfold Child.poll
  cases c.seenExit? w with
  | some status => exact ⟨rfl, rfl⟩
  | none =>
    rcases h : m.poll c.pid w.machine with ⟨e | _ | status, s⟩
    · rwa [h] at hpoll
    · rwa [h] at hpoll
    · rwa [h] at hpoll

theorem keeps (hm : m.LeavesAlone p) (t : FileTree) (trace : List (Call Child)) :
    m.Keeps (fun _ => True) (KeepsPlace m p t trace) where
  elapse now later h := h.of_sameAt (hm.elapse now later _)
  poll _ h := h.of_sameAt (sameAt_poll hm _ _)
  signalGroup signal _ h _ := h.of_sameAt (hm.signalGroup _ signal _)
  signal signal _ h _ := h.of_sameAt (hm.signal _ signal _)

/-- Calls that launch nothing change nothing. -/
theorem append (h : KeepsPlace m p t trace w) {more : List (Call Child)} (hmore : attempted more = []) :
    KeepsPlace m p t (trace ++ more) w := by
  refine ⟨h.cwd_eq, ?_⟩
  rw [attempted_append, hmore, List.append_nil]
  exact h.kept

theorem buildKeeps (hm : m.LeavesAlone p) (t : FileTree) : m.BuildKeeps fun _ => KeepsPlace m p t [] where
  elapse now later h := h.of_sameAt (hm.elapse now later _)
  command step h := h.of_sameAt (hm.command step _)

theorem build (hm : m.LeavesAlone p) (stage : BuildStage) (plan : Plan) (now : Nat) (h : KeepsPlace m p t [] w) :
    KeepsPlace m p t [] ((stage.build m plan).run m.elapseWatched none now w).state := by
  obtain ⟨ran, -, -, hend⟩ := (buildKeeps hm t).build stage plan now h
  exact hend

/-- A build that is cut off keeps what stands there. -/
theorem yielding (hm : m.LeavesAlone p) (stage : BuildStage) (plan : Plan) (cut : Option Nat) (now : Nat) (s : σ) :
    KeptAt p (m.files s)
      (m.files ((stage.build m plan).yielding.run m.elapseWatched cut now (.fresh s)).state.machine) := by
  have hfresh : KeepsPlace m p (m.files s) [] (Watched.fresh s) := ⟨rfl, fun _ => .refl p (m.files s)⟩
  obtain ⟨ran, -, hend⟩ := (buildKeeps hm (m.files s)).yielding stage plan cut now hfresh
  exact hend.kept (List.forall_mem_nil _)

theorem launched (hm : m.LeavesAlone p) (h : KeepsPlace m p t trace w) (spec : LaunchSpec) :
    KeepsPlace m p t (trace ++ [.launch spec (m.launch spec w).result]) (m.launch spec w).state := by
  have htouches := spec.output.open_touches (m.files w.machine)
  have hcwd := (spec.output.opensOutputs (m.files w.machine)).cwd_eq
  rw [h.cwd_eq] at hcwd
  generalize ht' : (spec.output.open (m.files w.machine)).2 = t' at htouches hcwd
  have hopened : KeepsPlace m p t (trace ++ [.launch spec (m.launch spec w).result])
      { w with machine := m.withFiles t' w.machine } := by
    have hput := hm.withFiles t' w.machine
    refine ⟨hput.cwd_eq.trans hcwd, fun hplaces => ?_⟩
    rw [attempted_append] at hplaces
    have hbefore := h.kept fun spec hspec => hplaces spec (List.mem_append_left _ hspec)
    refine (hbefore.trans (htouches.kept p fun stream _ => ?_)).trans (.inl hput.at?_eq)
    rw [h.cwd_eq]
    exact hplaces spec (List.mem_append_right _ (List.mem_singleton_self spec)) stream
  generalize (m.launch spec w).result = result at hopened
  unfold Machine.launch
  rcases hopen : spec.output.open (m.files w.machine) with ⟨e | places, t''⟩
  · rw [hopen] at ht'
    subst ht'
    exact hopened
  · rw [hopen] at ht'
    subst ht'
    have hspawn := hm.spawn spec.program spec.args places (m.withFiles t'' w.machine)
    rcases hstart : m.spawn spec.program spec.args places (m.withFiles t'' w.machine) with ⟨e | pid, s⟩
    · rw [hstart] at hspawn
      simp only [hstart]
      exact hopened.of_sameAt hspawn
    · rw [hstart] at hspawn
      simp only [hstart]
      exact hopened.of_sameAt hspawn

theorem environment (hm : m.LeavesAlone p) (t : FileTree) (stage : BuildStage) (plan : Plan) :
    (m.environment stage).Keeps plan (KeepsPlace m p t) where
  elapse now later h := (keeps hm t _).elapse now later h
  build now h := (build hm stage plan now h).append (filterMap_answer rfl (fun _ => rfl) _)
  launch _ _ _ h := h.launched hm _
  await cut now timeout _ _ _ h := ((keeps hm t _).waitReady trivial cut _ timeout now h).append
    (filterMap_answer rfl (fun _ => rfl) _)
  stop now shutdown _ h := ((keeps hm t _).terminate trivial shutdown now h).append
    (filterMap_answer rfl (fun _ => rfl) _)

end KeepsPlace

/-- A run keeps what stands at a place that the machine leaves alone, unless it has called a launch whose output goes there. -/
theorem Machine.run_keptAt (m : Machine σ) {p : Place} (hm : m.LeavesAlone p) (stage : BuildStage) (options : RunOptions)
    (plan : Plan) (interrupt : Nat → Option Interruption) (start : Nat) (s : σ)
    (hplaces : ∀ spec ∈ attempted (calls (m.environment stage) options plan interrupt start (.fresh s)), ∀ stream,
      p ≠ spec.output.place (m.files s).cwd stream) :
    KeptAt p (m.files s) (m.files (run (m.environment stage) options plan interrupt start (.fresh s)).world.machine) := by
  have hfresh : KeepsPlace m p (m.files s) [] (Watched.fresh s) := ⟨rfl, fun _ => .refl p (m.files s)⟩
  exact ((KeepsPlace.environment hm (m.files s) stage plan).run options interrupt start hfresh).kept hplaces

end StagedLaunch
