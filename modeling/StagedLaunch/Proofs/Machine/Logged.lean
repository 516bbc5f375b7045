import StagedLaunch.Proofs.Machine.Mirror

/-!
# Machines that keep a log

`Machine.logged` is a machine that does what another does and keeps a log of what it was asked to do: the build commands, the
programs that were started, the signals, and the answers to those who asked for an exit. Keeping the log changes nothing of a
run (`run_logged`), so statements about the log of a run are statements about what the run has asked of the machine.
-/

namespace StagedLaunch

variable {σ : Type}

/-- Something that a machine was asked to do. -/
inductive MachineCall where
  /-- A build command was run. -/
  | command (step : BuildStep)
  /-- A program was to be started, with its output in files. -/
  | spawn (program : String) (args : List String) (places : Place × Place) (result : Except OsError Nat)
  /-- The exit of a process was asked for. -/
  | poll (pid : Nat) (answer : Except OsError (Option ExitStatus))
  /-- A signal was sent to a group. -/
  | signalGroup (pid : Nat) (signal : Signal)
  /-- A signal was sent to a process. -/
  | signal (pid : Nat) (signal : Signal)

/-- The machine that does the same and keeps a log. -/
def Machine.logged (m : Machine σ) : Machine (σ × List MachineCall) where
  elapse now later s := (m.elapse now later s.1, s.2)
  files s := m.files s.1
  withFiles t s := (m.withFiles t s.1, s.2)
  sockets s := m.sockets s.1
  accepts port s := m.accepts port s.1
  command step s :=
    let r := m.command step s.1
    ⟨r.output, r.rest, (r.state, s.2 ++ [.command step]), r.result⟩
  spawn program args places s :=
    let r := m.spawn program args places s.1
    (r.1, (r.2, s.2 ++ [.spawn program args places r.1]))
  poll pid s :=
    let r := m.poll pid s.1
    (r.1, (r.2, s.2 ++ [.poll pid r.1]))
  signalGroup pid signal s := (m.signalGroup pid signal s.1, s.2 ++ [.signalGroup pid signal])
  signal pid signal s :=
    let r := m.signal pid signal s.1
    (r.1, (r.2, s.2 ++ [.signal pid signal]))

/-- A watched machine without its log. -/
def Watched.forget (w : Watched (σ × List MachineCall)) : Watched σ := ⟨w.machine.1, w.launches, w.exits⟩

/-- The log of a watched machine. -/
def Watched.log (w : Watched (σ × List MachineCall)) : List MachineCall := w.machine.2

namespace Machine

variable (m : Machine σ)

theorem logged_mirrors : m.logged.Mirrors m Prod.fst where
  elapse _ _ _ := rfl
  files_eq _ := rfl
  withFiles _ _ := rfl
  sockets_eq _ := rfl
  accepts_eq _ _ := rfl
  output_eq _ _ := rfl
  rest_eq _ _ := rfl
  result_eq _ _ := rfl
  command _ _ := rfl
  spawn_eq _ _ _ _ := rfl
  spawn _ _ _ _ := rfl
  poll_eq _ _ := rfl
  poll _ _ := rfl
  signalGroup _ _ _ := rfl
  signal_eq _ _ _ := rfl
  signal _ _ _ := rfl

/-- A log of some calls, kept while one is made. -/
theorem poll_logged (c : Child) (w : Watched (σ × List MachineCall)) :
    (c.poll m.logged w).1 = (c.poll m w.forget).1 ∧ (c.poll m.logged w).2.forget = (c.poll m w.forget).2 ∧
      (c.poll m.logged w).2.log =
        w.log ++ if (c.seenExit? w).isSome then [] else [.poll c.pid (m.poll c.pid w.machine.1).1] := by
  refine ⟨(m.logged_mirrors.child_poll c w).1, (m.logged_mirrors.child_poll c w).2, ?_⟩
  unfold Child.poll
  cases hs : c.seenExit? w with
  | some status => exact (List.append_nil _).symm
  | none =>
    rcases hpoll : m.poll c.pid w.machine.1 with ⟨e | _ | status, s⟩
    · simp [logged, hpoll, Watched.log]
    · simp [logged, hpoll, Watched.log]
    · simp [logged, hpoll, Watched.log]

/-- Keeping a log changes nothing of a run. -/
theorem run_logged (stage : BuildStage) (options : RunOptions) (plan : Plan) (interrupt : Nat → Option Interruption)
    (start : Nat) (s : σ) :
    Supervisor.SameRun (fun _ w w' => w'.forget = w)
      (Supervisor.calls (m.environment stage) options plan interrupt start (.fresh s))
      (Supervisor.calls (m.logged.environment stage) options plan interrupt start (.fresh (s, [])))
      (Supervisor.run (m.environment stage) options plan interrupt start (.fresh s))
      (Supervisor.run (m.logged.environment stage) options plan interrupt start (.fresh (s, []))) :=
  m.logged_mirrors.run stage options plan interrupt start (s, [])

end Machine

end StagedLaunch
