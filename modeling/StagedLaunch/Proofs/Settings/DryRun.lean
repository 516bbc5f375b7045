import Mathlib.Data.List.Forall2
import StagedLaunch.Program
import StagedLaunch.Proofs.Machine.Logged
import StagedLaunch.Proofs.Supervisor.Failure
import StagedLaunch.Proofs.Text.Decimals
import StagedLaunch.Proofs.Text.Quoted
import StagedLaunch.Proofs.Text.Words

/-!
# A dry run and the run that it stands for

The lines of a dry run tell of its items: a shown command, read as words, is a program with its arguments, and a shown readiness
check is read back from its text (`DryRun.Tells`). A run of the same settings that does not fail starts exactly what the items
stand for, the build steps before the processes, each process with its output in the shown files, and waits for exactly the
shown readiness checks (`Settings.run_asShown`).
-/

namespace StagedLaunch

open Supervisor

variable {σ : Type}

/-- A call that starts something: a build command or a program. -/
def MachineCall.starts : MachineCall → Bool
  | .command _ | .spawn .. => true
  | .poll .. | .signalGroup .. | .signal .. => false

namespace DryRun

/-- An item that stands for something that a run starts. -/
def Item.starts : Item → Bool
  | .step _ | .process _ => true
  | .case _ | .buildSkipped | .window _ | .group .. => false

/-- The process of an item, if the item stands for one. -/
def Item.process? : Item → Option LaunchSpec
  | .process spec => some spec
  | _ => none

/-! ## Readiness checks -/

/-- The readiness check of a kind, from the text in the brackets after it. -/
def checkOf? (kind : String) (inner : List Char) : Option ReadyCheck :=
  match kind with
  | "Delay" => (readDigits 10 inner).map .delay
  | "UdpBound" => (readNatural 10 65536 inner).map fun port => .udpBound (UInt16.ofNat port)
  | "Tcp" => (readNatural 10 65536 inner).map fun port => .tcp (UInt16.ofNat port)
  | "Log" => (Quoted.read? (String.ofList inner)).map .log
  | _ => none

/-- The readiness check that a text stands for: its kind, and the rest in brackets. -/
def readCheck? (s : String) : Option ReadyCheck :=
  match s.toList.dropWhile (· != '(') with
  | '(' :: rest =>
    if rest.getLast? = some ')' then checkOf? (String.ofList (s.toList.takeWhile (· != '('))) rest.dropLast else none
  | _ => none

/-- A kind with something in brackets after it is read as such. -/
theorem readCheck?_brackets {kind : String} (hkind : '(' ∉ kind.toList) (inner : String) :
    readCheck? (kind ++ "(" ++ inner ++ ")") = checkOf? kind inner.toList := by
  have hchars : (kind ++ "(" ++ inner ++ ")").toList = kind.toList ++ '(' :: (inner.toList ++ [')']) := by
    simp [String.toList_append]
  have hall : ∀ c ∈ kind.toList, (c != '(') = true := fun c hc => by
    rw [bne_iff_ne]
    rintro rfl
    exact hkind hc
  unfold readCheck?
  rw [hchars, List.takeWhile_append_of_pos hall, List.dropWhile_append_of_pos hall]
  simp

/-- A readiness check is read back from its text. -/
theorem readCheck?_render (check : ReadyCheck) : readCheck? check.render = some check := by
  have hport (port : UInt16) : readNatural 10 65536 (toString port).toList = some port.toNat :=
    readNatural_toString port.toNat_lt
  cases check with
  | delay ms =>
    have hread := readCheck?_brackets (by decide : '(' ∉ "Delay".toList) (toString ms)
    refine hread.trans ?_
    rw [checkOf?, readDigits_toString, Option.map_some]
  | udpBound port =>
    have hread := readCheck?_brackets (by decide : '(' ∉ "UdpBound".toList) (toString port)
    refine hread.trans ?_
    rw [checkOf?, hport, Option.map_some, UInt16.ofNat_toNat]
  | tcp port =>
    have hread := readCheck?_brackets (by decide : '(' ∉ "Tcp".toList) (toString port)
    refine hread.trans ?_
    rw [checkOf?, hport, Option.map_some, UInt16.ofNat_toNat]
  | log pattern =>
    have hread := readCheck?_brackets (by decide : '(' ∉ "Log".toList) (quoted pattern)
    refine hread.trans ?_
    rw [checkOf?, String.ofList_toList, Quoted.read?_quoted, Option.map_some]

/-! ## What lines tell -/

/-- Lines tell of an item. The words of a shown command are the program and its arguments, and the text of a shown readiness
check stands for that check. -/
inductive Tells : List String → Item → Prop where
  /-- The case, by its name. -/
  | case (c : RunCase) : Tells [s!"greenhouse dry-run: case {c.name}"] (.case c)
  /-- The build is left out. -/
  | buildSkipped : Tells ["  build: skipped"] .buildSkipped
  /-- A build step, by its command. -/
  | step {step : BuildStep} {text : String} (words : Words.split text = some (step.program :: step.args)) :
      Tells [s!"  build: {text}"] (.step step)
  /-- The run window, in seconds. -/
  | window (secs : Nat) : Tells [s!"  run window: {secs}s", ""] (.window secs)
  /-- A group, by its label, and the milliseconds that it settles. -/
  | group (label : String) (settle : Nat) : Tells [s!"{label} (settle {settle}ms):"] (.group label settle)
  /-- A process, by its name, its command, its output files and its readiness check if it has one. -/
  | process {spec : LaunchSpec} {text : String} {ready : Option String}
      (words : Words.split text = some (spec.program :: spec.args)) (check : ready.map readCheck? = spec.ready.map some) :
      Tells ([s!"  - {spec.name}", s!"      cmd: {text}", s!"      stdout: {spec.output.stdout}",
        s!"      stderr: {spec.output.stderr}"] ++ ready.toList.map fun text => s!"      ready: {text}") (.process spec)

/-- A call does what an item stands for. The output of a process goes to its files, which are opened for it. -/
inductive Does (m : Machine σ) : Item → MachineCall → Prop where
  /-- A build step is run. -/
  | step (step : BuildStep) : Does m (.step step) (.command step)
  /-- A process is started. -/
  | process {spec : LaunchSpec} {places : Place × Place} {s : σ} {t : FileTree} {pid : Nat}
      (opened : spec.output.open (m.files s) = (.ok places, t))
      (started : (m.spawn spec.program spec.args places (m.withFiles t s)).1 = .ok pid) :
      Does m (.process spec) (.spawn spec.program spec.args places (.ok pid))

/-- Lines show what a call does: they tell of what it stands for. -/
def Shows (m : Machine σ) (lines : List String) (call : MachineCall) : Prop := ∃ item, Tells lines item ∧ Does m item call

/-! ## Items -/

/-- The build steps that are shown are those of the build stage. -/
theorem items_eq (settings : Settings) :
    items settings = .case settings.case ::
      ((if settings.skipBuild then [.buildSkipped] else settings.buildStage.steps.map .step) ++
        .window settings.runSecs.toNat :: settings.plan.groups.flatMap fun g => .group g.label g.settle :: g.specs.map .process) := by
  unfold items Settings.buildStage
  cases settings.skipBuild with
  | true => rfl
  | false => simp [BuildStage.steps]

/-- What a run starts is shown by the steps of its build stage and by the processes of its plan. -/
theorem filter_starts_items (settings : Settings) :
    (items settings).filter Item.starts = settings.buildStage.steps.map .step ++ settings.plan.specs.map .process := by
  have hbuild : (if settings.skipBuild then [.buildSkipped] else settings.buildStage.steps.map .step).filter Item.starts =
      settings.buildStage.steps.map .step := by
    unfold Settings.buildStage
    cases settings.skipBuild with
    | true => rfl
    | false => exact List.filter_eq_self.2 (by simp [Item.starts])
  have hgroups (groups : List Group) :
      (groups.flatMap fun g => Item.group g.label g.settle :: g.specs.map .process).filter Item.starts =
        (groups.flatMap Group.specs).map .process := by
    induction groups with
    | nil => rfl
    | cons g groups ih =>
      have hspecs : (g.specs.map Item.process).filter Item.starts = g.specs.map .process :=
        List.filter_eq_self.2 (by simp [Item.starts])
      rw [List.flatMap_cons, List.flatMap_cons, List.filter_append, List.map_append, ih]
      exact congrArg (· ++ _) hspecs
  rw [items_eq, Plan.specs, ← hgroups]
  refine Eq.trans ?_ (congrArg (· ++ _) hbuild)
  rw [List.filter_cons_of_neg (by simp [Item.starts]), List.filter_append, List.filter_cons_of_neg (by simp [Item.starts])]

theorem process_shown (settings : Settings) : (items settings).filterMap Item.process? = settings.plan.specs := by
  have hfilter : (items settings).filterMap Item.process? = ((items settings).filter Item.starts).filterMap Item.process? := by
    rw [List.filterMap_filter]
    refine congrArg (List.filterMap · _) (funext fun item => ?_)
    cases item <;> rfl
  have hsteps (steps : List BuildStep) : (steps.map Item.step).filterMap Item.process? = [] := by
    simp [List.filterMap_eq_nil_iff, Item.process?]
  rw [hfilter, filter_starts_items, List.filterMap_append, hsteps, List.nil_append, List.filterMap_map]
  exact List.filterMap_some

/-- The lines of an item tell of it. -/
theorem tells_render (item : Item) : Tells item.render item := by
  cases item with
  | case c => exact .case c
  | buildSkipped => exact .buildSkipped
  | step step => exact .step (Words.split_join (step.program :: step.args))
  | window secs => exact .window secs
  | group label settle => exact .group label settle
  | process spec =>
    have hwords : Words.split spec.commandLine = some (spec.program :: spec.args) :=
      Words.split_join (spec.program :: spec.args)
    have hcheck : (spec.ready.map ReadyCheck.render).map readCheck? = spec.ready.map some := by
      rw [Option.map_map]
      exact congrArg (spec.ready.map ·) (funext readCheck?_render)
    have htells := Tells.process hwords hcheck
    cases hready : spec.ready with
    | none => simpa [Item.render, hready] using htells
    | some check => simpa [Item.render, hready] using htells

theorem Shows.ofStep (m : Machine σ) (step : BuildStep) : Shows m (Item.render (.step step)) (.command step) :=
  ⟨.step step, tells_render _, .step step⟩

/-- The lines of processes show no build command. -/
theorem not_command_of_shows {m : Machine σ} {specs : List LaunchSpec} {calls : List MachineCall}
    (h : List.Forall₂ (Shows m) ((specs.map .process).map Item.render) calls) (step : BuildStep) : .command step ∉ calls := by
  induction specs generalizing calls with
  | nil => simp [List.forall₂_nil_left_iff.1 h]
  | cons spec specs ih =>
    obtain ⟨call, rest, hshows, hrest, rfl⟩ := List.forall₂_cons_left_iff.1 h
    intro hmem
    rcases List.mem_cons.1 hmem with rfl | hmem
    · obtain ⟨item, htells, hdoes⟩ := hshows
      generalize hlines : Item.render (.process spec) = lines at htells
      cases hdoes
      cases htells
      simp [Item.render] at hlines
    · exact ih hrest hmem

theorem steps_of_skipped {settings : Settings} (h : .buildSkipped ∈ items settings) : settings.buildStage.steps = [] := by
  unfold Settings.buildStage
  cases hskip : settings.skipBuild with
  | true => rfl
  | false => simp [items, hskip] at h

end DryRun

open DryRun

/-! ## One launch -/

/-- A launch that succeeds starts what is shown of the process. -/
theorem Machine.launch_shown (m : Machine σ) {spec : LaunchSpec} {w : Watched (σ × List MachineCall)} {c : Child}
    (h : (m.logged.launch spec w).result = .ok c) :
    ∃ call, (m.logged.launch spec w).state.log = w.log ++ [call] ∧ call.starts = true ∧
      Shows m (Item.render (.process spec)) call := by
  have hfiles : m.logged.files w.machine = m.files w.machine.1 := rfl
  unfold launch at h ⊢
  rw [hfiles] at h ⊢
  rcases hopen : spec.output.open (m.files w.machine.1) with ⟨e | places, t⟩
  · rw [hopen] at h
    cases h
  · rw [hopen] at h
    rcases hspawn : m.spawn spec.program spec.args places (m.withFiles t w.machine.1) with ⟨e | pid, s⟩
    · simp only [logged, hspawn] at h
      cases h
    · refine ⟨.spawn spec.program spec.args places (.ok pid), ?_, rfl, ?_⟩
      · simp only [logged, hspawn]
        rfl
      · exact ⟨.process spec, tells_render _, .process hopen (congrArg Prod.fst hspawn)⟩

/-- A process that was launched is known by what it was launched for. -/
theorem Machine.spec_of_launch (m : Machine σ) {spec : LaunchSpec} {w : Watched σ} {c : Child}
    (h : (m.launch spec w).result = .ok c) : c.spec = spec := by
  unfold launch at h
  split at h
  · cases h
  · split at h
    · cases h
    · cases h
      rfl

/-! ## What was begun -/

/-- What calls have begun: the steps of a build that has ended, and the launches. -/
def begun (steps : List BuildStep) (trace : List (Call Child)) : List Item :=
  trace.flatMap fun
    | .built _ => steps.map .step
    | .launch spec _ => [.process spec]
    | _ => []

theorem begun_append (steps : List BuildStep) (a b : List (Call Child)) : begun steps (a ++ b) = begun steps a ++ begun steps b :=
  List.flatMap_append

/-- A call with its answer, if there is one, begins nothing when neither does. -/
theorem begun_answer {α : Type} (steps : List BuildStep) {call : Call Child} {answer : α → Call Child}
    (hcall : begun steps [call] = []) (hanswer : ∀ a, begun steps [answer a] = []) (r : Option α) :
    begun steps (call :: r.toList.map answer) = [] := by
  cases r with
  | none => exact hcall
  | some a =>
    have hboth : begun steps [call, answer a] = begun steps [call] ++ begun steps [answer a] := begun_append steps [call] _
    rw [Option.toList_some, List.map_singleton, hboth, hcall, hanswer]
    rfl

/-- After the build, what is begun are the launches. -/
theorem begun_of_not_build (steps : List BuildStep) {trace : List (Call Child)} (h : ∀ d ∈ trace, d.phase ≠ .build) :
    begun steps trace = (attempted trace).map .process := by
  induction trace with
  | nil => rfl
  | cons d trace ih =>
    obtain ⟨hd, htrace⟩ := List.forall_mem_cons.1 h
    have hcons : begun steps (d :: trace) = begun steps [d] ++ begun steps trace := begun_append steps [d] trace
    have hattempted : attempted (d :: trace) = attempted [d] ++ attempted trace := attempted_append [d] trace
    rw [hcons, hattempted, List.map_append, ih htrace]
    refine congrArg (· ++ _) ?_
    cases d with
    | build plan => exact absurd rfl hd
    | built result => exact absurd rfl hd
    | _ => rfl

/-- The log of a run has what its calls have begun, as long as none of them has failed, and its processes are those that were
to be launched. -/
structure KeepsShown (m : Machine σ) (steps : List BuildStep) (trace : List (Call Child))
    (w : Watched (σ × List MachineCall)) : Prop where
  /-- A process was launched for the specification that it is known by. -/
  spec_eq : ∀ p ∈ launched trace, p.2.spec = p.1
  /-- What is in the log is shown by what was begun. -/
  shown : firstError trace = none →
    List.Forall₂ (Shows m) ((begun steps trace).map Item.render) (w.log.filter MachineCall.starts)

namespace KeepsShown

variable {m : Machine σ} {steps : List BuildStep} {trace : List (Call Child)} {w w' : Watched (σ × List MachineCall)}

theorem of_log (h : KeepsShown m steps trace w) (hlog : w'.log.filter MachineCall.starts = w.log.filter MachineCall.starts) :
    KeepsShown m steps trace w' :=
  ⟨h.spec_eq, fun hnone => hlog ▸ h.shown hnone⟩

theorem keeps (m : Machine σ) (steps : List BuildStep) (trace : List (Call Child)) :
    m.logged.Keeps (fun _ => True) (KeepsShown m steps trace) where
  elapse _ _ h := h.of_log rfl
  poll := by
    rintro c w - h
    refine h.of_log ?_
    rw [(m.poll_logged c w).2.2, List.filter_append]
    split
    · exact List.append_nil _
    · exact List.append_nil _
  signalGroup signal _ h _ := h.of_log (by simp [Watched.log, Machine.logged, List.filter_append, MachineCall.starts])
  signal signal _ h _ := h.of_log (by simp [Watched.log, Machine.logged, List.filter_append, MachineCall.starts])

/-- Calls that begin nothing keep it. -/
theorem append (h : KeepsShown m steps trace w) {more : List (Call Child)} (hbegun : begun steps more = [])
    (hlaunched : launched more = []) : KeepsShown m steps (trace ++ more) w := by
  refine ⟨?_, fun hnone => ?_⟩
  · rw [launched_append, hlaunched, List.append_nil]
    exact h.spec_eq
  · rw [firstError_append, Option.or_eq_none_iff] at hnone
    rw [begun_append, hbegun, List.append_nil]
    exact h.shown hnone.1

theorem build (m : Machine σ) (stage : BuildStage) (plan : Plan) (now : Nat) {w : Watched (σ × List MachineCall)}
    (hw : KeepsShown m stage.steps [] w) : let r := (stage.build m.logged plan).run m.logged.elapseWatched none now w
    KeepsShown m stage.steps (.build plan :: r.result.toList.map .built) r.state := by
  intro r
  have hkeeps : m.logged.BuildKeeps fun ran w => w.log.filter MachineCall.starts = ran.map .command :=
    { elapse := fun _ _ h => h
      command := by
        intro done w step h
        have hlog : Watched.log { w with machine := (m.logged.command step w.machine).state } = w.log ++ [.command step] := rfl
        rw [hlog, List.filter_append, h, List.map_append]
        rfl }
  have hnone : w.log.filter MachineCall.starts = [] := List.forall₂_nil_left_iff.1 (hw.shown rfl)
  obtain ⟨ran, -, hall, hlog⟩ := hkeeps.build stage plan now hnone
  obtain ⟨result, hresult⟩ := Activity.run_none_some m.logged.elapseWatched (stage.build m.logged plan) now w
  have hresult' : r.result = some result := hresult
  rw [hresult']
  have hspec : ∀ p ∈ Supervisor.launched ([.build plan, .built result] : List (Call Child)), p.2.spec = p.1 :=
    fun _ hp => absurd hp List.not_mem_nil
  rcases result with e | u
  · exact ⟨hspec, nofun⟩
  · refine ⟨hspec, fun _ => ?_⟩
    have hbegun : begun stage.steps [.build plan, .built (.ok u)] = stage.steps.map .step := List.append_nil _
    have hlog' : r.state.log.filter MachineCall.starts = stage.steps.map .command := by rw [← hall hresult]; exact hlog
    rw [Option.toList_some, List.map_singleton, hbegun, hlog', List.map_map, List.forall₂_map_left_iff,
      List.forall₂_map_right_iff]
    exact List.forall₂_same.2 fun step _ => .ofStep m step

theorem launched (h : KeepsShown m steps trace w) (spec : LaunchSpec) :
    KeepsShown m steps (trace ++ [.launch spec (m.logged.launch spec w).result]) (m.logged.launch spec w).state := by
  rcases hresult : (m.logged.launch spec w).result with e | c
  · refine ⟨?_, fun hnone => ?_⟩
    · rw [launched_append]
      intro p hp
      exact h.spec_eq p ((List.mem_append.1 hp).resolve_right nofun)
    · rw [firstError_append, Option.or_eq_none_iff] at hnone
      cases hnone.2
  · obtain ⟨call, hlog, hstarts, hshows⟩ := m.launch_shown hresult
    refine ⟨?_, fun hnone => ?_⟩
    · rw [launched_append]
      intro p hp
      rcases List.mem_append.1 hp with hp | hp
      · exact h.spec_eq p hp
      · obtain rfl := List.mem_singleton.1 hp
        exact m.logged.spec_of_launch hresult
    · rw [firstError_append, Option.or_eq_none_iff] at hnone
      have hbegun : begun steps [.launch spec (.ok c)] = [.process spec] := rfl
      rw [begun_append, hbegun, List.map_append, hlog, List.filter_append, List.filter_cons_of_pos hstarts]
      exact List.rel_append (h.shown hnone.1) (.cons hshows .nil)

theorem environment (m : Machine σ) (stage : BuildStage) (plan : Plan) :
    (m.logged.environment stage).Keeps plan (KeepsShown m stage.steps) where
  elapse now later h := (keeps m _ _).elapse now later h
  build now h := build m stage plan now h
  launch _ _ _ h := h.launched _
  await cut now timeout _ _ _ h := ((keeps m _ _).waitReady trivial cut _ timeout now h).append
    (begun_answer _ rfl (fun _ => rfl) _) (filterMap_answer rfl (fun _ => rfl) _)
  stop now shutdown _ h := ((keeps m _ _).terminate trivial shutdown now h).append
    (begun_answer _ rfl (fun _ => rfl) _) (filterMap_answer rfl (fun _ => rfl) _)

end KeepsShown

/-! ## A whole run -/

/-- What a run does that does not fail is what a dry run of its settings shows. -/
structure RunsAsShown (m : Machine σ) (settings : Settings) (log : List MachineCall) (trace : List (Call Child)) : Prop where
  /-- The lines of the items are the text that is shown. -/
  text_eq : text settings = String.join (((items settings).map Item.render).flatten.map (· ++ "\n"))
  /-- The lines of each item tell of it. -/
  tells : ∀ item ∈ items settings, Tells item.render item
  /-- The build steps are shown, or that they are left out, and then group by group the processes of the plan. -/
  items_eq : items settings = .case settings.case ::
    ((if settings.skipBuild then [.buildSkipped] else settings.buildStage.steps.map .step) ++
      .window settings.runSecs.toNat :: settings.plan.groups.flatMap fun g => .group g.label g.settle :: g.specs.map .process)
  /-- Exactly what is shown is started, in the same order. -/
  starts : List.Forall₂ (Shows m) (((items settings).filter Item.starts).map Item.render) (log.filter MachineCall.starts)
  /-- When the build is shown to be left out, no build command is run. -/
  skipped : .buildSkipped ∈ items settings → ∀ step, .command step ∉ log
  /-- Exactly the processes that are shown are launched, in the same order. -/
  attempted_eq : attempted trace = (items settings).filterMap Item.process?
  /-- Each of these launches has succeeded. -/
  launched_eq : (launched trace).map (fun p => p.2.spec) = (items settings).filterMap Item.process?
  /-- The run waits for exactly the readiness checks that are shown, each of its process, in the same order. -/
  awaits_eq : (awaits trace).map (fun a => (a.1.spec, a.2)) =
    ((items settings).filterMap Item.process?).filterMap fun spec => spec.ready.map fun check => (spec, check)

/-- A run that does not fail does what a dry run of the same settings shows, whatever the settings are. The log in which that is
looked up makes no difference to the run. -/
theorem Settings.run_asShown (m : Machine σ) (settings : Settings) (interrupt : Nat → Option Interruption) (start : Nat)
    (s : σ) (h : (run (m.environment settings.buildStage) settings.runOptions settings.plan interrupt start
      (.fresh s)).failure = none) :
    let f := run (m.environment settings.buildStage) settings.runOptions settings.plan interrupt start (.fresh s)
    let logged := run (m.logged.environment settings.buildStage) settings.runOptions settings.plan interrupt start
      (.fresh (s, []))
    logged.world.forget = f.world ∧ logged.report = f.report ∧ logged.failure = f.failure ∧ logged.now = f.now ∧
      RunsAsShown m settings logged.world.log
        (calls (m.environment settings.buildStage) settings.runOptions settings.plan interrupt start (.fresh s)) := by
  intro f logged
  have hsame := m.run_logged settings.buildStage settings.runOptions settings.plan interrupt start s
  refine ⟨hsame.world, hsame.report_eq, hsame.failure_eq, hsame.now_eq, ?_⟩
  have hfresh : KeepsShown m settings.buildStage.steps [] (.fresh (s, [])) :=
    ⟨fun _ hp => absurd hp List.not_mem_nil, fun _ => .nil⟩
  have hkept := (KeepsShown.environment m settings.buildStage settings.plan).run settings.runOptions interrupt start hfresh
  rw [hsame.calls_eq] at hkept
  have hcomplete := run_complete (m.environment settings.buildStage) settings.runOptions settings.plan interrupt start _ h
  have hfirst := run_firstError (m.environment settings.buildStage) settings.runOptions settings.plan interrupt start (.fresh s)
  rw [h, ite_self] at hfirst
  obtain ⟨result, rest, htrace, hrest, -⟩ := (calls_launchesInOrder (m.environment settings.buildStage) settings.runOptions
    settings.plan interrupt start (.fresh s)).build_first
  generalize calls (m.environment settings.buildStage) settings.runOptions settings.plan interrupt start (.fresh s) = trace
    at hkept hcomplete hfirst htrace ⊢
  have hspecs : (items settings).filterMap Item.process? = settings.plan.specs := process_shown settings
  have hspec_eq : ∀ p ∈ launched trace, p.2.spec = p.1 := hkept.spec_eq
  have hbegun : begun settings.buildStage.steps trace = (items settings).filter Item.starts := by
    have hattempted : attempted rest = settings.plan.specs := by rw [← hcomplete.attempted_eq, htrace]; rfl
    rw [filter_starts_items, ← hattempted, ← begun_of_not_build _ hrest, htrace]
    rfl
  have hstarts := hkept.shown hfirst
  rw [hbegun] at hstarts
  refine ⟨?_, fun item _ => tells_render item, items_eq settings, hstarts, ?_, ?_, ?_, ?_⟩
  · rw [text, List.flatMap_def]
  · intro hskip step hstep
    have hmem : .command step ∈ logged.world.log.filter MachineCall.starts := List.mem_filter.2 ⟨hstep, rfl⟩
    rw [filter_starts_items, steps_of_skipped hskip, List.map_nil, List.nil_append] at hstarts
    exact not_command_of_shows hstarts step hmem
  · rw [hspecs, hcomplete.attempted_eq]
  · rw [hspecs, ← hcomplete.launched_eq]
    exact List.map_congr_left hspec_eq
  · rw [hspecs, hcomplete.awaits_eq, ← hcomplete.launched_eq, dueOf, List.map_filterMap, List.map_filterMap, List.filterMap_map]
    refine List.filterMap_congr fun p hp => ?_
    rw [Function.comp_apply, Option.map_map, Option.map_map, ← hspec_eq p hp]
    rfl

/-- A build step with an apostrophe and an empty argument, a host with a blank, and a server that is awaited. -/
theorem Settings.run_asShown_quoted :
    let m : Machine (Bool × FileTree) :=
      { elapse := fun _ _ s => s
        files := fun s => s.2
        withFiles := fun t s => (s.1, t)
        sockets := fun _ => []
        accepts := fun _ _ => true
        command := fun _ s => ⟨[], 0, s, .ok (.exited 0)⟩
        spawn := fun _ _ _ s => (.ok 7, s)
        poll := fun _ s => (.ok (if s.1 then some (.killed .interrupt) else none), s)
        signalGroup := fun _ _ s => (true, s.2)
        signal := fun _ _ s => (.ok (), s) }
    let settings : Settings :=
      { case := .fourFive, port := 80, host := "my host", buildDir := "b", logDir := "logs", runSecs := 0, settleMs := 0
        readyTimeoutMs := 0, serverReady := some .tcp, shutdown := ⟨100, 100⟩, skipBuild := false
        buildSteps := [⟨"make", ["it's", ""]⟩] }
    let start : Bool × FileTree := (false, ⟨[], [(["b"], .directory), (["b", "4-5"], .directory),
      (["b", "4-5", "server"], .program), (["b", "4-5", "gardener"], .program), (["b", "4-5", "flowerbed"], .program)], []⟩)
    (run (m.environment settings.buildStage) settings.runOptions settings.plan (fun _ => none) 0 (.fresh start)).failure = none ∧
      RunsAsShown m settings
        (run (m.logged.environment settings.buildStage) settings.runOptions settings.plan (fun _ => none) 0
          (.fresh (start, []))).world.log
        (calls (m.environment settings.buildStage) settings.runOptions settings.plan (fun _ => none) 0 (.fresh start)) := by
  intro m settings start
  have hrun : (run (m.environment settings.buildStage) settings.runOptions settings.plan (fun _ => none) 0
      (.fresh start)).failure = none := Option.isNone_iff_eq_none.1 (by decide +kernel)
  exact ⟨hrun, (Settings.run_asShown m settings (fun _ => none) 0 start hrun).2.2.2.2⟩

end StagedLaunch
