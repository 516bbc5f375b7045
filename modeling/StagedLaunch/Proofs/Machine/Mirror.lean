import StagedLaunch.Proofs.Machine.SideBySide
import StagedLaunch.Proofs.Supervisor.SideBySide

/-!
# Machines that do what another does

A machine may do what another does and keep something of its own beside it, such as a log (`Machine.Mirrors`). What it keeps
makes no difference to a run: its calls, its report and the state of the other machine are the same (`Machine.Mirrors.run`).
-/

namespace StagedLaunch

variable {σ τ : Type}

/-- A watched machine, seen as another. -/
def Watched.map (inner : τ → σ) (w : Watched τ) : Watched σ := ⟨inner w.machine, w.launches, w.exits⟩

/-- A machine does what another does, whose state is `inner` of its own. -/
structure Machine.Mirrors (m' : Machine τ) (m : Machine σ) (inner : τ → σ) : Prop where
  /-- Time passes alike. -/
  elapse : ∀ now later s, inner (m'.elapse now later s) = m.elapse now later (inner s)
  /-- The files are the same. -/
  files_eq : ∀ s, m'.files s = m.files (inner s)
  /-- Files are put in place alike. -/
  withFiles : ∀ t s, inner (m'.withFiles t s) = m.withFiles t (inner s)
  /-- The sockets are the same. -/
  sockets_eq : ∀ s, m'.sockets s = m.sockets (inner s)
  /-- Connections are accepted alike. -/
  accepts_eq : ∀ port s, m'.accepts port s = m.accepts port (inner s)
  /-- A build command writes the same. -/
  output_eq : ∀ step s, (m'.command step s).output = (m.command step (inner s)).output
  /-- A build command ends after the same time. -/
  rest_eq : ∀ step s, (m'.command step s).rest = (m.command step (inner s)).rest
  /-- A build command ends alike. -/
  result_eq : ∀ step s, (m'.command step s).result = (m.command step (inner s)).result
  /-- A build command does the same. -/
  command : ∀ step s, inner (m'.command step s).state = (m.command step (inner s)).state
  /-- A program is started or not. -/
  spawn_eq : ∀ program args places s, (m'.spawn program args places s).1 = (m.spawn program args places (inner s)).1
  /-- A program is started alike. -/
  spawn : ∀ program args places s, inner (m'.spawn program args places s).2 = (m.spawn program args places (inner s)).2
  /-- Asking for an exit has the same answer. -/
  poll_eq : ∀ pid s, (m'.poll pid s).1 = (m.poll pid (inner s)).1
  /-- Asking for an exit does the same. -/
  poll : ∀ pid s, inner (m'.poll pid s).2 = (m.poll pid (inner s)).2
  /-- A signal to a group does the same. -/
  signalGroup : ∀ pid signal s, inner (m'.signalGroup pid signal s) = m.signalGroup pid signal (inner s)
  /-- A signal to a process succeeds on both or fails alike. -/
  signal_eq : ∀ pid signal s, (m'.signal pid signal s).1 = (m.signal pid signal (inner s)).1
  /-- A signal to a process does the same. -/
  signal : ∀ pid signal s, inner (m'.signal pid signal s).2 = (m.signal pid signal (inner s)).2

namespace Machine.Mirrors

variable {m' : Machine τ} {m : Machine σ} {inner : τ → σ} (h : m'.Mirrors m inner)
include h

theorem child_poll (c : Child) (w : Watched τ) :
    (c.poll m' w).1 = (c.poll m (w.map inner)).1 ∧ (c.poll m' w).2.map inner = (c.poll m (w.map inner)).2 := by
  have hseen : c.seenExit? (w.map inner) = c.seenExit? w := rfl
  have hmachine : (w.map inner).machine = inner w.machine := rfl
  have hanswer := h.poll_eq c.pid w.machine
  have hstate := h.poll c.pid w.machine
  unfold Child.poll
  rw [hseen, hmachine]
  cases c.seenExit? w with
  | some status => exact ⟨rfl, rfl⟩
  | none =>
    rcases hpoll : m'.poll c.pid w.machine with ⟨answer, s⟩
    rcases hpoll' : m.poll c.pid (inner w.machine) with ⟨answer', s'⟩
    rw [hpoll, hpoll'] at hanswer hstate
    cases hanswer
    cases hstate
    rcases answer with e | _ | status
    · exact ⟨rfl, rfl⟩
    · exact ⟨rfl, rfl⟩
    · exact ⟨rfl, rfl⟩

theorem passes_eq (probe : Probe) (path : String) (s : τ) : probe.passes m' path s = probe.passes m path (inner s) := by
  cases probe with
  | _ => simp only [Probe.passes, h.files_eq, h.sockets_eq, h.accepts_eq]

theorem doSame (P : Child → Prop) : m.DoSame m' P fun w w' => w'.map inner = w where
  elapse := by
    rintro now later w w' rfl
    simp only [elapseWatched, Watched.map, h.elapse]
  seen_eq := by
    rintro c w w' - rfl
    rfl
  poll_eq := by
    rintro c w w' - rfl
    exact (h.child_poll c w').1
  poll := by
    rintro c w w' - rfl
    exact (h.child_poll c w').2
  passes_eq := by
    rintro c w w' probe - rfl
    exact h.passes_eq probe _ _
  signalGroup := by
    rintro c w w' signal - rfl -
    simp only [Watched.map, h.signalGroup]
  signal_eq := by
    rintro c w w' signal - rfl -
    exact h.signal_eq ..
  signal := by
    rintro c w w' signal - rfl -
    simp only [Watched.map, h.signal]

theorem buildSame : m.BuildSame m' fun _ w w' => w'.map inner = w where
  elapse := by
    rintro - now later w w' rfl
    simp only [elapseWatched, Watched.map, h.elapse]
  output_eq := by
    rintro - w w' step rfl
    exact h.output_eq ..
  rest_eq := by
    rintro - w w' step rfl
    exact h.rest_eq ..
  result_eq := by
    rintro - w w' step rfl
    exact h.result_eq ..
  command := by
    rintro - w w' step rfl
    simp only [Watched.map, h.command]
  verify_eq := by
    rintro - w w' plan rfl
    simp only [Watched.map, h.files_eq]

/-- A launch does the same. -/
theorem launch (spec : LaunchSpec) (w : Watched τ) :
    (m'.launch spec w).took = (m.launch spec (w.map inner)).took ∧
      (m'.launch spec w).result = (m.launch spec (w.map inner)).result ∧
      (m'.launch spec w).state.map inner = (m.launch spec (w.map inner)).state := by
  have hmachine : (w.map inner).machine = inner w.machine := rfl
  unfold Machine.launch
  rw [h.files_eq, hmachine]
  rcases spec.output.open (m.files (inner w.machine)) with ⟨e | places, t⟩
  · simp only [Watched.map, h.withFiles, and_self]
  · have hresult := h.spawn_eq spec.program spec.args places (m'.withFiles t w.machine)
    have hstate := h.spawn spec.program spec.args places (m'.withFiles t w.machine)
    rw [h.withFiles] at hresult hstate
    rcases hspawn : m'.spawn spec.program spec.args places (m'.withFiles t w.machine) with ⟨result, s⟩
    rcases hspawn' : m.spawn spec.program spec.args places (m.withFiles t (inner w.machine)) with ⟨result', s'⟩
    rw [hspawn, hspawn'] at hresult hstate
    cases hresult
    cases hstate
    simp only [hspawn, hspawn']
    rcases result with e | pid
    · exact ⟨rfl, rfl, rfl⟩
    · exact ⟨rfl, rfl, rfl⟩

theorem answersAlike (stage : BuildStage) (plan : Plan) :
    (m.environment stage).AnswersAlike (m'.environment stage) plan fun _ w w' => w'.map inner = w where
  name_eq := rfl
  pid_eq := by
    rintro trace w w' spec c - rfl
    rfl
  elapse _ := (h.doSame fun _ => True).elapse
  build _ hw := (BuildStage.same_build h.buildSame stage plan hw).mono fun _ _ _ ⟨_, _, _, hv⟩ => hv
  launch_took := by
    rintro trace w w' spec now - - rfl
    exact (h.launch spec w').1
  launch_result := by
    rintro trace w w' spec now - - rfl
    exact (h.launch spec w').2.1
  launch := by
    rintro trace w w' spec now - - rfl
    exact (h.launch spec w').2.2
  await _ _ timeout _ _ _ hw := Child.same_waitReady (h.doSame fun _ => True) trivial _ timeout hw
  stop _ shutdown _ hw := Child.same_terminate (h.doSame fun _ => True) trivial shutdown hw

/-- What a machine keeps beside another makes no difference to a run. -/
theorem run (stage : BuildStage) (options : RunOptions) (plan : Plan) (interrupt : Nat → Option Interruption) (start : Nat)
    (s : τ) :
    Supervisor.SameRun (fun _ w w' => w'.map inner = w)
      (Supervisor.calls (m.environment stage) options plan interrupt start (.fresh (inner s)))
      (Supervisor.calls (m'.environment stage) options plan interrupt start (.fresh s))
      (Supervisor.run (m.environment stage) options plan interrupt start (.fresh (inner s)))
      (Supervisor.run (m'.environment stage) options plan interrupt start (.fresh s)) :=
  Supervisor.run_sideBySide (h.answersAlike stage plan) options interrupt start rfl

end Machine.Mirrors

end StagedLaunch
