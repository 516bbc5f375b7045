import Mathlib.Data.List.Forall2
import StagedLaunch.Proofs.Program
import StagedLaunch.Proofs.Supervisor.Shortening

/-!
# The log of a report

The report of a run is logged as one line for each process that the run has launched, one line for how each of them has
ended, in the same order, and a summary (`Supervisor.IsAccountOf`). The program writes these lines whether the run has failed or
not, and the error of a run that has failed only after them (`Program.WritesReport`).

What a line says is read off its level, its message and its fields: `Record.TellsLaunch`, `Record.TellsStop` and
`Record.TellsEnd`.
-/

namespace StagedLaunch

open Supervisor

/-! ## What a line says -/

namespace Record

/-- The value of a field. -/
def field? (r : Record) (name : String) : Option FieldValue := r.fields.lookup name

/-- The line of a launch: which process, its number, and when it was launched, as far as 64 bits can hold that. -/
structure TellsLaunch (r : Record) (l : LaunchRecord) : Prop where
  /-- It tells of progress. -/
  level_eq : r.level = .info
  /-- It is about a launch. -/
  message_eq : r.message = "launched"
  /-- It names the process. -/
  process_eq : r.field? "process" = some (.text l.name)
  /-- It gives the number of the process, or zero. -/
  pid_eq : r.field? "pid" = some (.number (l.pid.getD 0))
  /-- It gives the time since the start of the run in milliseconds. -/
  time_eq : l.offset < UInt64.size → r.field? "at_ms" = some (.number l.offset)
  /-- A time that 64 bits cannot hold is cut to them. -/
  time_cut : r.field? "at_ms" = some (.number (l.offset % UInt64.size))

/-- The line of a process that has ended: which process, and how grave that is. -/
structure TellsStop (r : Record) (name : String) (outcome : StopOutcome) : Prop where
  /-- It is about a process that has ended. -/
  message_mem : r.message ∈ ["had already exited", "stopped", "killed", "could not be stopped"]
  /-- It names the process. -/
  process_eq : r.field? "process" = some (.text name)
  /-- It tells of progress exactly when a signal has stopped the process. -/
  info_iff : r.level = .info ↔ ∃ signal, outcome = .stopped signal
  /-- It warns exactly when the process had exited, was killed or could not be stopped. -/
  warn_iff : r.level = .warn ↔
    (∃ code, outcome = .alreadyExited code) ∨ outcome = .killed ∨ ∃ error, outcome = .failed error

/-- The line of a run that is done. -/
structure TellsEnd (r : Record) (case : RunCase) (processes : Nat) (interrupted : Bool) : Prop where
  /-- It tells of progress. -/
  level_eq : r.level = .info
  /-- It is about the run as a whole. -/
  message_eq : r.message = "run finished"
  /-- It gives the case. -/
  case_eq : r.field? "case" = some (.text case.name)
  /-- It counts the processes. -/
  processes_eq : r.field? "processes" = some (.number processes)
  /-- It says whether the run was interrupted. -/
  interrupted_eq : r.field? "interrupted" = some (.truth interrupted)
  /-- It says that the run is done. -/
  state_eq : r.field? "state" = some (.text "Done")

end Record

theorem LaunchRecord.record_tells (l : LaunchRecord) : l.record.TellsLaunch l := by
  have htime : l.record.field? "at_ms" = some (.number (l.offset % UInt64.size)) := rfl
  refine ⟨rfl, rfl, rfl, rfl, fun hlt => ?_, htime⟩
  rw [htime, Nat.mod_eq_of_lt hlt]

theorem StopRecord.record_tells (r : StopRecord) : r.record.TellsStop r.name r.outcome := by
  obtain ⟨name, outcome⟩ := r
  cases outcome with
  | alreadyExited code => exact ⟨by simp [record], rfl, by simp [record], by simp [record]⟩
  | stopped signal => exact ⟨by simp [record], rfl, by simp [record], by simp [record]⟩
  | killed => exact ⟨by simp [record], rfl, by simp [record], by simp [record]⟩
  | failed error => exact ⟨by simp [record], rfl, by simp [record], by simp [record]⟩

/-! ## The lines of a report -/

/-- The lines of a report in a log up to a level. -/
def Report.lines (r : Report) (upTo : Level) : List String :=
  (r.records.filter fun record => record.level.isWritten upTo).map Record.line

/-- Progress is the least grave of what a report tells. -/
theorem Report.isWritten_of_info {r : Report} {upTo : Level} (h : Level.info.isWritten upTo = true) :
    ∀ record ∈ r.records, record.level.isWritten upTo = true := by
  have hwarn : Level.warn.isWritten upTo = true := by
    cases upTo with
    | error => cases h
    | _ => rfl
  unfold records
  simp only [List.forall_mem_append, List.forall_mem_map, List.forall_mem_singleton]
  refine ⟨⟨fun l _ => h, fun stop _ => ?_⟩, h⟩
  have htells := stop.record_tells
  cases houtcome : stop.outcome with
  | stopped signal => rwa [htells.info_iff.2 ⟨signal, houtcome⟩]
  | alreadyExited code => rwa [htells.warn_iff.2 (Or.inl ⟨code, houtcome⟩)]
  | killed => rwa [htells.warn_iff.2 (Or.inr (Or.inl houtcome))]
  | failed error => rwa [htells.warn_iff.2 (Or.inr (Or.inr ⟨error, houtcome⟩))]

/-- A log that shows progress has all lines of a report. -/
theorem Report.lines_eq {r : Report} {upTo : Level} (h : Level.info.isWritten upTo = true) :
    r.lines upTo = r.records.map Record.line := by
  rw [lines, List.filter_eq_self.2 (isWritten_of_info h)]

/-! ## The report of a run -/

namespace Supervisor

variable {ε σ η : Type}

/-- The launches that a run tells of are its own notices. -/
theorem launchRecords_own (start : Nat) (events : List (Nat × Notice ε)) :
    launchRecords start (own events) = launchRecords start events := by
  unfold launchRecords own
  rw [List.filterMap_filterMap]
  congr 1
  funext ⟨now, n⟩
  cases n with
  | launched spec result => rcases result with e | ⟨name, pid⟩ <;> rfl
  | _ => rfl

/-- What the log of the report of a run accounts for, given the calls of the run and whether an interrupt was taken. -/
structure IsAccountOf (name : η → String) (start : Nat) (plan : Plan) (trace : List (Call η)) (taken : Prop)
    (f : Finished ε σ) (launches stops : List Record) (summary : Record) : Prop where
  /-- First come the launches, then the ends of processes, and then one summary. -/
  records_eq : f.report.records = launches ++ stops ++ [summary]
  /-- There is one line for each launch that the run has told of, in order. -/
  launches_tell : List.Forall₂ Record.TellsLaunch launches (launchRecords start f.events)
  /-- These are the launches that have succeeded. -/
  launched_eq : (launchRecords start f.events).map LaunchRecord.name = (launched trace).map fun p => name p.2
  /-- There is one line for each process that was stopped, in order, and it tells how that went. -/
  stops_tell : List.Forall₂ (fun r o => Record.TellsStop r (name o.1) o.2) stops (stopped trace)
  /-- These are the processes that were launched. -/
  stopped_eq : (stopped trace).map Prod.fst = (launched trace).map Prod.snd
  /-- Line by line, the launches and the ends name the same processes. -/
  names_eq : stops.map (fun r => r.field? "process") = launches.map fun r => r.field? "process"
  /-- The summary counts the launches and says whether the run was interrupted. -/
  summary_tells : ∃ interrupted, summary.TellsEnd plan.case launches.length interrupted ∧ (interrupted = true ↔ taken)

variable (env : Environment ε σ η) (options : RunOptions) (plan : Plan) (interrupt : Nat → Option Interruption) (start : Nat)
  (world : σ)

/-- The report of every run accounts for what it has launched and stopped. -/
theorem run_isAccountOf : ∃ launches stops summary,
    IsAccountOf env.name start plan (calls env options plan interrupt start world)
      (CutsLaunch env options plan interrupt start world ∨ CutsWindow env options plan interrupt start world)
      (run env options plan interrupt start world) launches stops summary := by
  obtain ⟨-, hstopped, hterminated⟩ := run_stopped env options plan interrupt start world
  have hnames := run_record_names env options plan interrupt start world
  have hlaunched : (run env options plan interrupt start world).report.launched =
      launchRecords start (run env options plan interrupt start world).events := by
    obtain ⟨-, -, -, -, hown⟩ := run_recording env options plan interrupt start world
    rw [run_launchRecords, ← launchRecords_own, hown, launchRecords_own]
  have htaken := interrupted_iff_cuts env options plan interrupt start world
  obtain ⟨outcomes, -, -, -, hreport⟩ := run_stops env options plan interrupt start world
  have hcase : (run env options plan interrupt start world).report.case = plan.case := by rw [hreport]
  have hstate : (run env options plan interrupt start world).report.state = .done := by rw [hreport]
  generalize calls env options plan interrupt start world = trace at hstopped hterminated hnames ⊢
  generalize run env options plan interrupt start world = f at hterminated hnames hlaunched htaken hcase hstate ⊢
  have hsame : f.report.terminated.map StopRecord.name = f.report.launched.map LaunchRecord.name := by
    rw [hterminated, hnames, List.map_map]
    calc (stopped trace).map (fun o => env.name o.1)
        = ((stopped trace).map Prod.fst).map env.name := by rw [List.map_map]; rfl
      _ = ((launched trace).map Prod.snd).map env.name := by rw [hstopped]
      _ = (launched trace).map fun p => env.name p.2 := by rw [List.map_map]; rfl
  have hlength : f.report.terminated.length = f.report.launched.length := by simpa using congrArg List.length hsame
  refine ⟨f.report.launched.map LaunchRecord.record, f.report.terminated.map StopRecord.record, _, rfl, ?_, ?_, ?_, hstopped,
    ?_, f.report.interrupted, ?_, htaken⟩
  · rw [hlaunched, List.forall₂_map_left_iff, List.forall₂_same]
    exact fun l _ => l.record_tells
  · rw [← hlaunched, hnames]
  · rw [hterminated, List.map_map, List.forall₂_map_left_iff, List.forall₂_same]
    exact fun o _ => StopRecord.record_tells ⟨env.name o.1, o.2⟩
  · have hstop : (fun r : StopRecord => r.record.field? "process") = fun r => some (.text r.name) :=
      funext fun r => r.record_tells.process_eq
    have hlaunch : (fun l : LaunchRecord => l.record.field? "process") = fun l => some (.text l.name) :=
      funext fun l => l.record_tells.process_eq
    have htext := congrArg (List.map fun name => some (FieldValue.text name)) hsame
    simpa only [List.map_map, Function.comp_def, hstop, hlaunch] using htext
  · rw [hcase, hstate, hlength, List.length_map]
    exact ⟨rfl, rfl, rfl, rfl, rfl, rfl⟩

end Supervisor

/-! ## The log of the program -/

namespace Program

section Supervise

variable {σ : Type} (m : Machine σ) (call : Call) (level : Level) (settings : Settings) (s : σ)

/-- The log before the report: the start of a run, and what is logged on the way. -/
def earlierLines : List String :=
  ((startRecord settings :: recordsOf (supervised m call settings s).events).filter fun r => r.level.isWritten level).map
    Record.line

/-- The program ends with the report of the run that it has supervised, and shows a failure only after it. -/
structure WritesReport (outcome : Outcome σ) : Prop where
  /-- After a run that has not failed the report is the end of the log. -/
  succeeded : (supervised m call settings s).failure = none → outcome.status = some 0 ∧
    outcome.errorLines = earlierLines m call level settings s ++ (supervised m call settings s).report.lines level
  /-- After a run that has failed the report comes before the error. -/
  failed : ∀ e, (supervised m call settings s).failure = some e → outcome.status = some 1 ∧
    outcome.errorLines = earlierLines m call level settings s ++ (supervised m call settings s).report.lines level ++
      [s!"greenhouse error: {e.chain}"]
  /-- A log that shows progress shows the whole report. -/
  complete : Level.info.isWritten level = true →
    (supervised m call settings s).report.lines level = (supervised m call settings s).report.records.map Record.line

variable {m call settings s}

/-- The standard error of a call that supervises a run to its end. -/
theorem supervise_errorLines (h : killed? m call settings s = none) :
    (supervise m call level settings s).errorLines =
      earlierLines m call level settings s ++ (supervised m call settings s).report.lines level ++
        ((supervised m call settings s).failure.map fun e => s!"greenhouse error: {e.chain}").toList := by
  obtain ⟨hrecords, herror⟩ : (supervise m call level settings s).records = (startRecord settings ::
        (supervised m call settings s).records MachineNotice.record?).filter (fun r => r.level.isWritten level) ∧
      (supervise m call level settings s).error = (supervised m call settings s).failure.map LaunchError.chain := by
    unfold killed? supervised at h
    unfold supervise supervised
    simp only [h, and_self]
  -- the report is logged after what the run has told
  have hsplit : startRecord settings :: (supervised m call settings s).records MachineNotice.record? =
      (startRecord settings :: recordsOf (supervised m call settings s).events) ++
        (supervised m call settings s).report.records := rfl
  rw [Outcome.errorLines, hrecords, herror, Option.map_map, hsplit, List.filter_append, List.map_append]
  rfl

theorem supervise_writesReport (h : killed? m call settings s = none) :
    WritesReport m call level settings s (supervise m call level settings s) where
  succeeded hfailure := by
    obtain ⟨hstatus, -⟩ := supervise_of_not_killed m call level settings s h
    rw [hstatus, supervise_errorLines level h, hfailure]
    exact ⟨rfl, List.append_nil _⟩
  failed e hfailure := by
    obtain ⟨hstatus, -⟩ := supervise_of_not_killed m call level settings s h
    rw [hstatus, supervise_errorLines level h, hfailure]
    exact ⟨rfl, rfl⟩
  complete := Report.lines_eq

end Supervise

/-- The report of every run accounts for all its processes, and the program logs it after every run that it has supervised to its
end, whether that has failed or not. -/
theorem run_accountsForAll {ε σ η : Type} (env : Environment ε σ η) (options : RunOptions) (plan : Plan)
    (interrupt : Nat → Option Interruption) (start : Nat) (world : σ) :
    (∃ launches stops summary,
      IsAccountOf env.name start plan (calls env options plan interrupt start world)
        (CutsLaunch env options plan interrupt start world ∨ CutsWindow env options plan interrupt start world)
        (Supervisor.run env options plan interrupt start world) launches stops summary) ∧
      ∀ {τ : Type} (m : Machine τ) (call : Call) (s : τ) (c : CommandLine) (settings : Settings),
        Settings.load (m.files s) call.args = .ok (c, settings) → c.dryRun = false → killed? m call settings s = none →
          WritesReport m call (Level.resolve c.logLevel call.level) settings s (run m call s) := by
  refine ⟨run_isAccountOf env options plan interrupt start world, fun m call s c settings hload hdry hkilled => ?_⟩
  rw [run_of_settings hload hdry]
  exact supervise_writesReport _ hkilled

/-- The second process of a run cannot be started: the report tells of the launch and the end of the first one and of the run,
and the error comes last. -/
theorem run_accountsForAll_failed :
    let m : Machine Unit :=
      { elapse := fun _ _ s => s
        files := fun _ => ⟨[], [(["build"], .directory), (["build", "4-5"], .directory), (["build", "4-5", "server"], .program),
          (["build", "4-5", "gardener"], .program), (["build", "4-5", "flowerbed"], .program)], []⟩
        withFiles := fun _ s => s
        sockets := fun _ => []
        accepts := fun _ _ => false
        command := fun _ s => ⟨[], 0, s, .ok (.exited 0)⟩
        spawn := fun program _ _ s => (if program = "build/4-5/server" then .ok 7 else .error .notFound, s)
        poll := fun _ s => (.ok (some (.exited 0)), s)
        signalGroup := fun _ _ s => s
        signal := fun _ _ s => (.ok (), s) }
    let call : Call := ⟨["4-5", "--no-config", "--no-readiness", "--skip-build", "--settle-ms=0"], none, []⟩
    let report : List Record :=
      [⟨.info, "launched", [("process", .text "server"), ("pid", .number 7), ("at_ms", .number 0)]⟩,
       ⟨.warn, "had already exited", [("process", .text "server"), ("code", .text "Some(0)")]⟩,
       ⟨.info, "run finished",
         [("case", .text "4-5"), ("processes", .number 1), ("interrupted", .truth false), ("state", .text "Done")]⟩]
    (run m call ()).status = some 1 ∧
      ∃ before error, (run m call ()).errorLines = before ++ report.map Record.line ++ [error] := by
  intro m call report
  let settings : Settings :=
    { case := .fourFive, port := 12345, host := "127.0.0.1", buildDir := "build", logDir := ".", runSecs := 40, settleMs := 0
      readyTimeoutMs := 10000, serverReady := none, shutdown := ⟨0, 2000⟩, skipBuild := true
      buildSteps := [.configure "." "build", .compile "build"] }
  let c : CommandLine := ⟨.fourFive, none, none, true, none, none, none, none, none, some 0, none, true, true, none, none, false,
    none⟩
  have hload : Settings.load (m.files ()) call.args = .ok (c, settings) := by rfl
  have hreport : (supervised m call settings ()).report.records = report := by decide +kernel
  have hended : killed? m call settings () = none := by decide +kernel
  obtain ⟨e, hfailure⟩ : ∃ e, (supervised m call settings ()).failure = some e :=
    Option.isSome_iff_exists.1 (by decide +kernel)
  have hwrites := (run_accountsForAll (m.environment settings.buildStage) settings.runOptions settings.plan
    (Interrupt.ofDeliveries true call.deliveries) 0 (.fresh ())).2 m call () c settings hload rfl hended
  obtain ⟨hstatus, hlines⟩ := hwrites.failed e hfailure
  rw [hwrites.complete rfl, hreport] at hlines
  exact ⟨hstatus, _, _, hlines⟩

end Program

end StagedLaunch
