import Mathlib.Data.List.Nodup
import Mathlib.Data.List.Perm.Subperm
import StagedLaunch.Proofs.Machine.Building
import StagedLaunch.Proofs.Machine.Logged
import StagedLaunch.Proofs.Machine.Readiness
import StagedLaunch.Proofs.Machine.Termination
import StagedLaunch.Proofs.Supervisor.Failure

/-!
# Exits that were seen

What a run does about exits that it has seen. A signal is only sent to a process that the run has started and whose exit it has
not learned: of the processes that had the number so far, more were started than have exited (`SignalsTheLiving`). And a run
that fails because a process exited early reports that exit of it, with the same code (`run_respectsExits`).
-/

namespace StagedLaunch

variable {σ : Type}

/-! ## Signals -/

namespace MachineCall

/-- The number of a process that was started. -/
def started? : MachineCall → Option Nat
  | .spawn _ _ _ (.ok pid) => some pid
  | _ => none

/-- The number of a process whose exit was learned. Asking in vain, or failing to ask, is to learn of no exit. -/
def exited? : MachineCall → Option Nat
  | .poll pid (.ok (some _)) => some pid
  | _ => none

/-- The number of the process or of the group that a signal was sent to. -/
def signalled? : MachineCall → Option Nat
  | .signalGroup pid _ | .signal pid _ => some pid
  | _ => none

end MachineCall

/-- The numbers of the processes that were started. -/
def startedPids (log : List MachineCall) : List Nat := log.filterMap MachineCall.started?

/-- The numbers of the processes whose exits were learned. -/
def exitedPids (log : List MachineCall) : List Nat := log.filterMap MachineCall.exited?

@[simp] theorem startedPids_append (a b : List MachineCall) : startedPids (a ++ b) = startedPids a ++ startedPids b :=
  List.filterMap_append

@[simp] theorem exitedPids_append (a b : List MachineCall) : exitedPids (a ++ b) = exitedPids a ++ exitedPids b :=
  List.filterMap_append

/-- Of the processes that had a number so far, more were started than have exited. -/
def Living (log : List MachineCall) (pid : Nat) : Prop := (exitedPids log).count pid < (startedPids log).count pid

/-- Every signal is sent to a process that was started before and whose exit was not learned. -/
def SignalsTheLiving (log : List MachineCall) : Prop :=
  ∀ before call after pid, log = before ++ call :: after → call.signalled? = some pid → Living before pid

theorem SignalsTheLiving.nil : SignalsTheLiving [] := by
  intro before call after pid h
  simp at h

theorem SignalsTheLiving.snoc {log : List MachineCall} (h : SignalsTheLiving log) {call : MachineCall}
    (hcall : ∀ pid, call.signalled? = some pid → Living log pid) : SignalsTheLiving (log ++ [call]) := by
  intro before call' after pid heq hsignal
  rcases Supervisor.append_eq_append_cons heq with ⟨after', hlog, -⟩ | ⟨before', rfl, hlast⟩
  · exact h before call' after' pid hlog hsignal
  · obtain ⟨rfl, hnil⟩ : before' = [] ∧ call = call' := by
      cases before' with
      | nil => exact ⟨rfl, (List.cons.inj hlast).1⟩
      | cons c before' => simp at hlast
    subst hnil
    rw [List.append_nil]
    exact hcall pid hsignal

/-- When no two processes have the same number, a signal goes to one that was started and whose exit was not learned. -/
theorem Living.mem_of_nodup {log : List MachineCall} {pid : Nat} (h : Living log pid) (hnodup : (startedPids log).Nodup) :
    pid ∈ startedPids log ∧ pid ∉ exitedPids log := by
  have hle := List.nodup_iff_count_le_one.1 hnodup pid
  unfold Living at h
  refine ⟨List.count_pos_iff.1 (by omega), fun hexited => ?_⟩
  have := List.count_pos_iff.2 hexited
  omega

open Supervisor

/-- What the log of a machine has to do with the calls of a run: the processes in it are those that were launched, the exits in
it those that were seen, and its signals go to the living. -/
structure KeepsCount (trace : List (Call Child)) (w : Watched (σ × List MachineCall)) : Prop where
  /-- The processes that were started are those that were launched. -/
  started_eq : startedPids w.log = (launched trace).map fun p => p.2.pid
  /-- The exits that were learned are those of launched processes that were seen, each once. -/
  exited : ∃ gone : List Child, (∀ c ∈ gone, c ∈ (launched trace).map Prod.snd) ∧
    w.exits.map Prod.fst = gone.map Child.index ∧ (gone.map Child.index).Nodup ∧
    exitedPids w.log = (gone.map Child.pid).reverse
  /-- Signals go to the living. -/
  signals : SignalsTheLiving w.log

theorem Child.index_not_mem_exits {c : Child} {w : Watched σ} (h : c.seenExit? w = none) : c.index ∉ w.exits.map Prod.fst := by
  intro hmem
  obtain ⟨e, he, heq⟩ := List.mem_map.1 hmem
  have hne := List.lookup_eq_none_iff.1 h e he
  rw [heq, bne_self_eq_false] at hne
  cases hne

namespace KeepsCount

variable {trace : List (Call Child)} {w : Watched (σ × List MachineCall)} {spec : LaunchSpec} {c : Child}

theorem fresh (s : σ) : KeepsCount [] (.fresh (s, [])) :=
  ⟨rfl, ⟨[], List.forall_mem_nil _, rfl, List.nodup_nil, rfl⟩, .nil⟩

/-- Calls that launch nothing make no difference. -/
theorem append (h : KeepsCount trace w) {more : List (Call Child)} (hmore : launched more = []) :
    KeepsCount (trace ++ more) w := by
  have heq : launched (trace ++ more) = launched trace := by
    rw [Supervisor.launched_append, hmore, List.append_nil]
  exact ⟨by rw [heq]; exact h.started_eq, by rw [heq]; exact h.exited, h.signals⟩

/-- A launched process whose exit was not seen is among the living. -/
theorem living (h : KeepsCount trace w) (hc : (spec, c) ∈ launched trace) (hseen : c.seenExit? w = none) :
    Living w.log c.pid := by
  obtain ⟨gone, hgone, hexits, hnodup, hexited⟩ := h.exited
  have hnew : c.index ∉ gone.map Child.index := hexits ▸ Child.index_not_mem_exits hseen
  have hfresh : (c :: gone).Nodup :=
    List.nodup_cons.2 ⟨fun hmem => hnew (List.mem_map_of_mem hmem), List.Nodup.of_map Child.index hnodup⟩
  have hsub : c :: gone ⊆ (launched trace).map Prod.snd :=
    List.cons_subset.2 ⟨List.mem_map_of_mem hc, hgone⟩
  -- the process and those whose exits were seen are different ones among those that were launched
  have hcount := (List.subperm_of_subset hfresh hsub).countP_le fun d => d.pid == c.pid
  simp only [List.countP_cons, beq_self_eq_true, if_true, List.countP_map] at hcount
  rw [Living, hexited, List.count_reverse, h.started_eq, List.count_eq_countP, List.count_eq_countP, List.countP_map,
    List.countP_map]
  exact hcount

/-- A call that starts no process and learns of no exit. -/
theorem log_snoc (h : KeepsCount trace w) {call : MachineCall} {s : σ} (hstarted : call.started? = none)
    (hexited : call.exited? = none) (hsignal : ∀ pid, call.signalled? = some pid → Living w.log pid) :
    KeepsCount trace { w with machine := (s, w.log ++ [call]) } := by
  have hstarted' : startedPids (w.log ++ [call]) = startedPids w.log := by simp [startedPids, hstarted]
  have hexited' : exitedPids (w.log ++ [call]) = exitedPids w.log := by simp [exitedPids, hexited]
  obtain ⟨gone, hgone, hexits, hnodup, heq⟩ := h.exited
  exact ⟨hstarted'.trans h.started_eq, ⟨gone, hgone, hexits, hnodup, hexited'.trans heq⟩, h.signals.snoc hsignal⟩

theorem poll (m : Machine σ) (h : KeepsCount trace w) (hc : (spec, c) ∈ launched trace) :
    KeepsCount trace (c.poll m.logged w).2 := by
  unfold Child.poll
  cases hseen : c.seenExit? w with
  | some status => exact h
  | none =>
    have hlog : (m.logged.poll c.pid w.machine).2 =
      ((m.poll c.pid w.machine.1).2, w.log ++ [.poll c.pid (m.poll c.pid w.machine.1).1]) := rfl
    have hanswer : (m.logged.poll c.pid w.machine).1 = (m.poll c.pid w.machine.1).1 := rfl
    rcases hpoll : m.logged.poll c.pid w.machine with ⟨answer, s⟩
    rw [hpoll] at hlog hanswer
    dsimp only at hlog hanswer
    rw [← hanswer] at hlog
    subst hlog
    rcases answer with e | _ | status
    · exact h.log_snoc rfl rfl nofun
    · exact h.log_snoc rfl rfl nofun
    · obtain ⟨gone, hgone, hexits, hnodup, heq⟩ := h.exited
      have hnew : c.index ∉ gone.map Child.index := hexits ▸ Child.index_not_mem_exits hseen
      refine ⟨?_, ⟨c :: gone, List.forall_mem_cons.2 ⟨List.mem_map_of_mem hc, hgone⟩, ?_, ?_, ?_⟩, h.signals.snoc nofun⟩
      · exact (startedPids_append _ _).trans ((List.append_nil _).trans h.started_eq)
      · rw [List.map_cons, List.map_cons, hexits]
      · rw [List.map_cons]
        exact List.nodup_cons.2 ⟨hnew, hnodup⟩
      · rw [List.map_cons, List.reverse_cons, ← heq]
        exact exitedPids_append _ _

theorem keeps (m : Machine σ) (trace : List (Call Child)) :
    m.logged.Keeps (fun c => ∃ spec, (spec, c) ∈ launched trace) (KeepsCount trace) where
  elapse _ _ h := ⟨h.started_eq, h.exited, h.signals⟩
  poll := by
    rintro c w ⟨spec, hc⟩ h
    exact h.poll m hc
  signalGroup := by
    rintro c w signal ⟨spec, hc⟩ h hseen
    refine h.log_snoc rfl rfl fun pid hpid => ?_
    cases hpid
    exact h.living hc hseen
  signal := by
    rintro c w signal ⟨spec, hc⟩ h hseen
    refine h.log_snoc rfl rfl fun pid hpid => ?_
    cases hpid
    exact h.living hc hseen

/-- A launch adds a process to those that were launched and to those that were started. -/
theorem launch (m : Machine σ) (h : KeepsCount trace w) (spec : LaunchSpec) :
    KeepsCount (trace ++ [.launch spec (m.logged.launch spec w).result]) (m.logged.launch spec w).state := by
  unfold Machine.launch
  rcases spec.output.open (m.logged.files w.machine) with ⟨e | places, t⟩
  · have hsame : KeepsCount trace { w with machine := m.logged.withFiles t w.machine } :=
      ⟨h.started_eq, h.exited, h.signals⟩
    exact hsame.append rfl
  · have hlog : (m.logged.spawn spec.program spec.args places (m.logged.withFiles t w.machine)).2 =
      ((m.spawn spec.program spec.args places (m.withFiles t w.machine.1)).2, w.log ++
        [.spawn spec.program spec.args places (m.spawn spec.program spec.args places (m.withFiles t w.machine.1)).1]) := rfl
    have hresult : (m.logged.spawn spec.program spec.args places (m.logged.withFiles t w.machine)).1 =
      (m.spawn spec.program spec.args places (m.withFiles t w.machine.1)).1 := rfl
    rcases hspawn : m.logged.spawn spec.program spec.args places (m.logged.withFiles t w.machine) with ⟨result, s⟩
    rw [hspawn] at hlog hresult
    dsimp only at hlog hresult
    rw [← hresult] at hlog
    subst hlog
    dsimp only
    rw [hspawn]
    cases result with
    | error e =>
      have hspawned : KeepsCount trace { w with machine :=
          ((m.spawn spec.program spec.args places (m.withFiles t w.machine.1)).2,
            w.log ++ [.spawn spec.program spec.args places (.error e)]) } := h.log_snoc rfl rfl nofun
      exact hspawned.append rfl
    | ok pid =>
      obtain ⟨gone, hgone, hexits, hnodup, heq⟩ := h.exited
      refine ⟨?_, ⟨gone, fun c hc => ?_, hexits, hnodup, ?_⟩, h.signals.snoc nofun⟩
      · rw [Supervisor.launched_append, List.map_append, ← h.started_eq]
        exact startedPids_append _ _
      · rw [Supervisor.launched_append, List.map_append]
        exact List.mem_append_left _ (hgone c hc)
      · exact (exitedPids_append _ _).trans ((List.append_nil _).trans heq)

theorem environment (m : Machine σ) (stage : BuildStage) (plan : Plan) :
    (m.logged.environment stage).Keeps plan KeepsCount where
  elapse now later h := (keeps m _).elapse now later h
  build := by
    intro w now h
    have hbuild : m.logged.BuildKeeps fun _ => KeepsCount [] :=
      { elapse := fun now later h => (keeps m []).elapse now later h
        command := fun step h => h.log_snoc rfl rfl nofun }
    obtain ⟨-, -, -, hend⟩ := hbuild.build stage plan now h
    exact hend.append (filterMap_answer rfl (fun _ => rfl) _)
  launch _ _ _ h := h.launch m _
  await cut now timeout _ hc _ h :=
    ((keeps m _).waitReady ⟨_, hc⟩ cut _ timeout now h).append (filterMap_answer rfl (fun r => by cases r <;> rfl) _)
  stop now shutdown hc h := ((keeps m _).terminate ⟨_, hc⟩ shutdown now h).append (filterMap_answer rfl (fun _ => rfl) _)

end KeepsCount

/-! ## Early exits -/

/-- An answer that does not say that a process exited early. -/
def TellsNoExit {α : Type} (r : Except LaunchError α) : Prop := ∀ name code, r ≠ .error (.exitedEarly name code)

/-- No build fails because a process exited early. -/
theorem BuildOutcome.tellsNoExit {stage : BuildStage} {plan : Plan} {t : FileTree} {r : Except LaunchError Unit}
    (h : BuildOutcome stage plan t r) : TellsNoExit r := by
  rintro name code rfl
  rcases h with ⟨-, ⟨⟩⟩ | ⟨⟨⟩⟩

/-- Opening an output file fails with the path of what could not be opened. -/
theorem openOutput_error {t t' : FileTree} {path : String} {e : LaunchError} (h : openOutput t path = (.error e, t')) :
    ∃ p cause, e = .outputFile p cause := by
  unfold openOutput at h
  split at h
  · rename_i e' t₁ hmade
    cases h
    unfold makeParent at hmade
    split at hmade
    · rename_i parent hparent
      split at hmade
      · cases hmade
      · rcases hdirs : t.makeDirectories parent with ⟨cause | u, t₂⟩
        · rw [hdirs] at hmade
          cases hmade
          exact ⟨parent, cause, rfl⟩
        · rw [hdirs] at hmade
          cases hmade
    · cases hmade
  · split at h
    · cases h
    · rename_i cause hcreate
      cases h
      exact ⟨path, cause, rfl⟩

/-- No launch fails because a process exited early. -/
theorem Machine.launch_tellsNoExit (m : Machine σ) (spec : LaunchSpec) (w : Watched σ) :
    TellsNoExit (m.launch spec w).result := by
  intro name code
  unfold launch OutputFiles.open
  rcases hout : openOutput (m.files w.machine) spec.output.stdout with ⟨e | out, t⟩
  · obtain ⟨p, cause, rfl⟩ := openOutput_error hout
    exact nofun
  · dsimp only
    rcases herr : openOutput t spec.output.stderr with ⟨e | err, t'⟩
    · obtain ⟨p, cause, rfl⟩ := openOutput_error herr
      exact nofun
    · dsimp only
      split
      · exact nofun
      · exact nofun

/-- What was learned about processes that exited before they were ready. -/
structure KeepsExits (trace : List (Call Child)) (w : Watched σ) : Prop where
  /-- Their exits were seen, and the errors name them with their codes. -/
  awaited : ∀ c name code, .awaited c (.error (.exitedEarly name code)) ∈ trace → name = c.spec.name ∧
    (∃ spec, (spec, c) ∈ launched trace) ∧ ∃ status, c.seenExit? w = some status ∧ code = status.code?
  /-- Stopping them has found the same exits. -/
  stopped : ∀ c name code outcome, .awaited c (.error (.exitedEarly name code)) ∈ trace → .stopped c outcome ∈ trace →
    outcome = .alreadyExited code
  /-- No build has failed with such an exit. -/
  built : ∀ name code, .built (.error (.exitedEarly name code)) ∉ trace
  /-- No launch has failed with such an exit. -/
  launch : ∀ spec name code, .launch spec (.error (.exitedEarly name code)) ∉ trace

/-- An exit that was seen stays the same, whoever is asked for. -/
theorem Child.seenExit?_of_poll (m : Machine σ) (c d : Child) {w : Watched σ} {status : ExitStatus}
    (h : c.seenExit? w = some status) : c.seenExit? (d.poll m w).2 = some status := by
  unfold Child.poll
  split
  · exact h
  · rename_i hseen
    rcases m.poll d.pid w.machine with ⟨e | _ | status', s⟩
    · exact h
    · exact h
    · have hne : (c.index == d.index) = false := by
        refine beq_eq_false_iff_ne.2 fun heq => ?_
        rw [seenExit?, ← heq] at hseen
        cases hseen.symm.trans h
      rw [seenExit?, List.lookup_cons, hne]
      exact h

namespace KeepsExits

variable {trace : List (Call Child)} {w : Watched σ} {spec : LaunchSpec} {c : Child}

theorem keeps (m : Machine σ) (trace : List (Call Child)) : m.Keeps (fun _ => True) (KeepsExits trace) where
  elapse _ _ h := ⟨h.awaited, h.stopped, h.built, h.launch⟩
  poll := by
    rintro d w - h
    refine ⟨fun c name code hmem => ?_, h.stopped, h.built, h.launch⟩
    obtain ⟨hname, hlaunched, status, hseen, hcode⟩ := h.awaited c name code hmem
    exact ⟨hname, hlaunched, status, Child.seenExit?_of_poll m c d hseen, hcode⟩
  signalGroup _ _ h _ := ⟨h.awaited, h.stopped, h.built, h.launch⟩
  signal _ _ h _ := ⟨h.awaited, h.stopped, h.built, h.launch⟩

/-- Without calls nothing was learned. -/
theorem nil (w : Watched σ) : KeepsExits [] w where
  awaited _ _ _ hmem := absurd hmem List.not_mem_nil
  stopped _ _ _ _ hmem := absurd hmem List.not_mem_nil
  built _ _ := List.not_mem_nil
  launch _ _ _ := List.not_mem_nil

/-- What is said of some calls is said of more, when the new ones neither are about early exits nor stop anything. -/
theorem append (h : KeepsExits trace w) {more : List (Call Child)}
    (hmore : ∀ d ∈ more, d.phase ≠ .stop ∧ ∀ name code, d.error? ≠ some (.exitedEarly name code)) :
    KeepsExits (trace ++ more) w := by
  have hold : ∀ {d : Call Child} {name code}, d ∈ trace ++ more → d.error? = some (.exitedEarly name code) → d ∈ trace :=
    fun hd herror => (List.mem_append.1 hd).resolve_right fun hnew => (hmore _ hnew).2 _ _ herror
  refine ⟨fun c name code hmem => ?_, fun c name code outcome hmem hstop => ?_, fun name code hmem => ?_,
    fun spec name code hmem => ?_⟩
  · obtain ⟨hname, ⟨spec, hspec⟩, hseen⟩ := h.awaited c name code (hold hmem rfl)
    refine ⟨hname, ⟨spec, ?_⟩, hseen⟩
    rw [launched_append]
    exact List.mem_append_left _ hspec
  · exact h.stopped c name code outcome (hold hmem rfl)
      ((List.mem_append.1 hstop).resolve_right fun hnew => (hmore _ hnew).1 rfl)
  · exact h.built name code (hold hmem rfl)
  · exact h.launch spec name code (hold hmem rfl)

theorem build (m : Machine σ) (stage : BuildStage) (plan : Plan) (now : Nat) (w : Watched σ) :
    let r := (stage.build m plan).run m.elapseWatched none now w
    KeepsExits (.build plan :: r.result.toList.map .built) r.state := by
  intro r
  have hend : KeepsExits [] r.state := nil r.state
  refine hend.append fun d hd => ?_
  rcases List.mem_cons.1 hd with rfl | hd
  · exact ⟨nofun, nofun⟩
  · obtain ⟨a, ha, rfl⟩ := List.mem_map.1 hd
    refine ⟨nofun, fun name code herror => ?_⟩
    have hresult := (stage.build_outcome m plan now w (Option.mem_toList.1 ha)).tellsNoExit name code
    rcases a with e | u
    · cases herror
      exact hresult rfl
    · cases herror

theorem launched (m : Machine σ) (h : KeepsExits trace w) (spec : LaunchSpec) :
    KeepsExits (trace ++ [.launch spec (m.launch spec w).result]) (m.launch spec w).state := by
  have hexits : (m.launch spec w).state.exits = w.exits := by
    unfold Machine.launch
    split
    · rfl
    · split
      · rfl
      · rfl
  have hstate : KeepsExits trace (m.launch spec w).state := by
    refine ⟨fun c name code hmem => ?_, h.stopped, h.built, h.launch⟩
    rw [Child.seenExit?, hexits]
    exact h.awaited c name code hmem
  refine hstate.append fun d hd => ?_
  obtain rfl := List.mem_singleton.1 hd
  refine ⟨nofun, fun name code herror => ?_⟩
  have hresult := m.launch_tellsNoExit spec w name code
  rcases hr : (m.launch spec w).result with e | c
  · rw [hr] at herror hresult
    cases herror
    exact hresult rfl
  · rw [hr] at herror
    cases herror

/-- An exit that ends a wait for readiness was seen. -/
theorem exited (h : KeepsExits trace w) (hquiet : Quiet trace) (hc : (spec, c) ∈ Supervisor.launched trace)
    {status : ExitStatus} (hseen : c.seenExit? w = some status) (check : ReadyCheck) (timeout : Nat) :
    KeepsExits (trace ++ [.await c check timeout, .awaited c (.error (.exitedEarly c.spec.name status.code?))]) w := by
  have hmore : ∀ d ∈ trace ++ [.await c check timeout, .awaited c (.error (.exitedEarly c.spec.name status.code?))],
      d ∈ trace ∨ d = .await c check timeout ∨ d = .awaited c (.error (.exitedEarly c.spec.name status.code?)) := by
    intro d hd
    simpa using hd
  have hlaunched : (spec, c) ∈ Supervisor.launched
      (trace ++ [.await c check timeout, .awaited c (.error (.exitedEarly c.spec.name status.code?))]) := by
    rw [launched_append]
    exact List.mem_append_left _ hc
  refine ⟨fun d name code hmem => ?_, fun d name code outcome hmem hstop => ?_, fun name code hmem => ?_,
    fun spec name code hmem => ?_⟩
  · rcases hmore _ hmem with hmem | hmem | hmem
    · obtain ⟨hname, ⟨spec', hspec⟩, hd⟩ := h.awaited d name code hmem
      refine ⟨hname, ⟨spec', ?_⟩, hd⟩
      rw [launched_append]
      exact List.mem_append_left _ hspec
    · cases hmem
    · cases hmem
      exact ⟨rfl, ⟨spec, hlaunched⟩, status, hseen, rfl⟩
  · rcases hmore _ hstop with hstop | hstop | hstop
    · exact absurd rfl (hquiet _ hstop)
    · cases hstop
    · cases hstop
  · rcases hmore _ hmem with hmem | hmem | hmem
    · exact h.built name code hmem
    · cases hmem
    · cases hmem
  · rcases hmore _ hmem with hmem | hmem | hmem
    · exact h.launch spec name code hmem
    · cases hmem
    · cases hmem

theorem await (m : Machine σ) (h : KeepsExits trace w) (hquiet : Quiet trace) (hc : (spec, c) ∈ Supervisor.launched trace)
    (cut : Option Nat) (check : ReadyCheck) (timeout now : Nat) :
    let r := (c.waitReady m check timeout).run m.elapseWatched cut now w
    KeepsExits (trace ++ .await c check timeout :: r.result.toList.map (.awaited c)) r.state := by
  intro r
  have hend : KeepsExits trace r.state := (keeps m trace).waitReady trivial cut check timeout now h
  by_cases hexit : ∃ name code, r.result = some (.error (.exitedEarly name code))
  · obtain ⟨name, code, hresult⟩ := hexit
    obtain ⟨rfl, status, hseen, rfl⟩ := Child.seenExit?_of_waitReady m c hresult
    rw [hresult]
    exact hend.exited hquiet hc hseen check timeout
  · refine hend.append fun d hd => ?_
    rcases List.mem_cons.1 hd with rfl | hd
    · exact ⟨nofun, nofun⟩
    · obtain ⟨a, ha, rfl⟩ := List.mem_map.1 hd
      refine ⟨nofun, fun name code herror => hexit ⟨name, code, ?_⟩⟩
      rw [Option.mem_toList.1 ha]
      rcases a with e | u
      · cases herror
        rfl
      · cases herror

theorem stop (m : Machine σ) (h : KeepsExits trace w) (shutdown : Shutdown) (now : Nat) :
    let r := (c.terminate m shutdown).run m.elapseWatched none now w
    KeepsExits (trace ++ .stop c shutdown :: r.result.toList.map (.stopped c)) r.state := by
  intro r
  have hend : KeepsExits trace r.state := (keeps m trace).terminate trivial shutdown now h
  have hmore : ∀ d ∈ trace ++ .stop c shutdown :: r.result.toList.map (.stopped c),
      d ∈ trace ∨ d = .stop c shutdown ∨ ∃ a, r.result = some a ∧ d = .stopped c a := by
    intro d hd
    rcases List.mem_append.1 hd with hd | hd
    · exact Or.inl hd
    · rcases List.mem_cons.1 hd with hd | hd
      · exact Or.inr (Or.inl hd)
      · obtain ⟨a, ha, rfl⟩ := List.mem_map.1 hd
        exact Or.inr (Or.inr ⟨a, Option.mem_toList.1 ha, rfl⟩)
  have hold : ∀ {d : Call Child}, d ∈ trace ++ .stop c shutdown :: r.result.toList.map (.stopped c) → d.phase ≠ .stop →
      d ∈ trace := by
    intro d hd hphase
    rcases hmore d hd with hd | rfl | ⟨a, -, rfl⟩
    · exact hd
    · exact absurd rfl hphase
    · exact absurd rfl hphase
  refine ⟨fun d name code hmem => ?_, fun d name code outcome hmem hstop => ?_, fun name code hmem => ?_,
    fun spec name code hmem => ?_⟩
  · obtain ⟨hname, ⟨spec', hspec⟩, hd⟩ := hend.awaited d name code (hold hmem nofun)
    refine ⟨hname, ⟨spec', ?_⟩, hd⟩
    rw [launched_append]
    exact List.mem_append_left _ hspec
  · have hmem := hold hmem nofun
    rcases hmore _ hstop with hstop | hstop | ⟨a, hresult, hstop⟩
    · exact h.stopped d name code outcome hmem hstop
    · cases hstop
    · -- the exit was seen before, so asking finds it at once
      cases hstop
      obtain ⟨-, -, status, hseen, rfl⟩ := h.awaited c name code hmem
      have hpoll : (c.poll m w).1 = .ok (some status) := by rw [Child.poll, hseen]
      have hrun : r = _ := Child.run_terminate_of_exited m c shutdown now w hpoll
      rw [hrun] at hresult
      exact (Option.some.inj hresult).symm
  · exact h.built name code (hold hmem nofun)
  · exact h.launch spec name code (hold hmem nofun)

theorem environment (m : Machine σ) (stage : BuildStage) (plan : Plan) :
    (m.environment stage).Keeps plan KeepsExits where
  elapse now later h := (keeps m _).elapse now later h
  build now _ := build m stage plan now _
  launch _ _ _ h := h.launched m _
  await cut now timeout hquiet hc _ h := h.await m hquiet hc cut _ timeout now
  stop now shutdown _ h := h.stop m shutdown now

end KeepsExits

/-! ## A whole run -/

/-- A run that is interrupted while it launches fails for that, and any other that is interrupted does not fail. -/
theorem Supervisor.Driving.failure_of_interrupted {ε τ η : Type} {env : Environment ε τ η} {options : RunOptions} {plan : Plan}
    {i : Option Interruption} {start built now : Nat} {events : Events η} {started : List (Started η)} {state : RunState}
    {failure : Option LaunchError} (h : Driving env options plan i start built events started now state failure true) :
    failure = none ∨ ∃ group, failure = some (.interrupted group) := by
  cases h with
  | interrupted launch => exact Or.inr ⟨_, rfl⟩
  | cutShort launch cut => exact Or.inl rfl

/-- A run that fails because a process exited early has been told so when it waited for the process. -/
theorem awaited_of_exitedEarly (m : Machine σ) (stage : BuildStage) (options : RunOptions) (plan : Plan)
    (interrupt : Nat → Option Interruption) (start : Nat) (s : σ) {name : String} {code : Option Int}
    (h : (run (m.environment stage) options plan interrupt start (.fresh s)).failure = some (.exitedEarly name code)) :
    ∃ c, .awaited c (.error (.exitedEarly name code)) ∈ calls (m.environment stage) options plan interrupt start (.fresh s) := by
  have hkept := (KeepsExits.environment m stage plan).run options interrupt start (KeepsExits.nil (.fresh s))
  have hfirst := run_firstError (m.environment stage) options plan interrupt start (.fresh s)
  obtain ⟨events, after, started, now, state, records, -, drive, -, -⟩ :=
    run_trace (m.environment stage) options plan interrupt start (.fresh s)
  generalize calls (m.environment stage) options plan interrupt start (.fresh s) = trace at hkept hfirst ⊢
  cases hi : (run (m.environment stage) options plan interrupt start (.fresh s)).report.interrupted with
  | true =>
    rw [hi, h] at drive
    rcases drive.failure_of_interrupted with hnone | ⟨group, hgroup⟩
    · cases hnone
    · cases hgroup
  | false =>
    rw [hi, h] at hfirst
    obtain ⟨call, hmem, herror⟩ := List.exists_of_findSome?_eq_some hfirst
    rcases call with plan | (e | u) | ⟨spec, e | c⟩ | ⟨c, check, timeout⟩ | ⟨c, e | u⟩ | ⟨c, shutdown⟩ | ⟨c, outcome⟩
    · cases herror
    · cases herror
      exact absurd hmem (hkept.built name code)
    · cases herror
    · cases herror
      exact absurd hmem (hkept.launch spec name code)
    · cases herror
    · cases herror
    · cases herror
      exact ⟨c, hmem⟩
    · cases herror
    · cases herror
    · cases herror

/-- What a run does about exits that it has seen. -/
structure RespectsExits (log : List MachineCall) (trace : List (Call Child)) (report : Report)
    (failure : Option LaunchError) : Prop where
  /-- The processes that were started are those that the run has launched. -/
  started_eq : startedPids log = (launched trace).map fun p => p.2.pid
  /-- Signals only go to processes that were started before and whose exits were not learned. -/
  signals : SignalsTheLiving log
  /-- When no two processes have the same number, that says that no number is signalled after its exit was learned. -/
  distinct : (startedPids log).Nodup → ∀ before call after pid, log = before ++ call :: after → call.signalled? = some pid →
    pid ∈ startedPids before ∧ pid ∉ exitedPids before
  /-- A run that fails with an early exit has learned of that exit when it waited for the process, and reports of it that it
  had exited already, with the same code. -/
  exitedEarly : ∀ name code, failure = some (.exitedEarly name code) → ∃ (i : Nat) (spec : LaunchSpec) (c : Child),
    (launched trace)[i]? = some (spec, c) ∧ c.spec.name = name ∧ .awaited c (.error (.exitedEarly name code)) ∈ trace ∧
      (report.launched[i]?).map LaunchRecord.name = some name ∧
      report.terminated[i]? = some ⟨name, .alreadyExited code⟩

/-- No run signals a process whose exit it has learned, or one that it has not launched; and what it reports of an early exit
is what it has failed with. The log in which the signals are looked up makes no difference to the run. -/
theorem Machine.run_respectsExits (m : Machine σ) (stage : BuildStage) (options : RunOptions) (plan : Plan)
    (interrupt : Nat → Option Interruption) (start : Nat) (s : σ) :
    let f := run (m.environment stage) options plan interrupt start (.fresh s)
    let logged := run (m.logged.environment stage) options plan interrupt start (.fresh (s, []))
    logged.world.forget = f.world ∧ logged.report = f.report ∧ logged.failure = f.failure ∧ logged.now = f.now ∧
      RespectsExits logged.world.log (calls (m.environment stage) options plan interrupt start (.fresh s)) f.report
        f.failure := by
  intro f logged
  have hsame := m.run_logged stage options plan interrupt start s
  refine ⟨hsame.world, hsame.report_eq, hsame.failure_eq, hsame.now_eq, ?_⟩
  have hcount := (KeepsCount.environment m stage plan).run options interrupt start (KeepsCount.fresh s)
  rw [hsame.calls_eq] at hcount
  refine ⟨hcount.started_eq, hcount.signals, fun hnodup before call after pid hlog hsignal => ?_, fun name code hfailure => ?_⟩
  · refine (hcount.signals before call after pid hlog hsignal).mem_of_nodup ?_
    have hlog' : startedPids logged.world.log = startedPids before ++ startedPids (call :: after) := by
      rw [hlog, startedPids_append]
    exact (List.nodup_append.1 (hlog' ▸ hnodup)).1
  · have hkept := (KeepsExits.environment m stage plan).run options interrupt start (KeepsExits.nil (.fresh s))
    obtain ⟨c, hmem⟩ := awaited_of_exitedEarly m stage options plan interrupt start s hfailure
    have hnames := run_record_names (m.environment stage) options plan interrupt start (.fresh s)
    obtain ⟨-, hstops, hterminated⟩ := run_stopped (m.environment stage) options plan interrupt start (.fresh s)
    generalize calls (m.environment stage) options plan interrupt start (.fresh s) = trace
      at hkept hmem hnames hstops hterminated ⊢
    obtain ⟨rfl, ⟨spec, hspec⟩, -⟩ := hkept.awaited c name code hmem
    obtain ⟨i, hi⟩ := List.mem_iff_getElem?.1 hspec
    -- the stop of the process is found at the place of its launch
    have hstopped : ((stopped trace)[i]?).map Prod.fst = some c := by
      rw [← List.getElem?_map, hstops, List.getElem?_map, hi]
      rfl
    obtain ⟨⟨c', outcome⟩, hstop, rfl⟩ := Option.map_eq_some_iff.1 hstopped
    obtain rfl : outcome = .alreadyExited code := by
      refine hkept.stopped c' _ code outcome hmem ?_
      obtain ⟨call, hcall, hcalled⟩ := List.mem_filterMap.1 (List.mem_of_getElem? hstop)
      cases call with
      | stopped d o =>
        cases hcalled
        exact hcall
      | _ => cases hcalled
    refine ⟨i, spec, c', hi, rfl, hmem, ?_, ?_⟩
    · rw [← List.getElem?_map, hnames, List.getElem?_map, hi]
      rfl
    · rw [hterminated, List.getElem?_map, hstop]
      rfl

end StagedLaunch
