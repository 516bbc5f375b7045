import StagedLaunch.Settings.Basic

/-!
# What a run would do

The items of a dry run in order, and the lines that show them: the build steps, the run window, and each group with its
processes.
-/

namespace StagedLaunch.DryRun

/-- An item of a dry run. -/
inductive Item where
  /-- The case. -/
  | case (c : RunCase)
  /-- The build is left out. -/
  | buildSkipped
  /-- A build step. -/
  | step (s : BuildStep)
  /-- The length of the run window, in seconds. -/
  | window (secs : Nat)
  /-- A group and how long it settles. -/
  | group (label : String) (settle : Nat)
  /-- A process. -/
  | process (spec : LaunchSpec)
deriving DecidableEq, Repr

/-- The items of a dry run. -/
def items (s : Settings) : List Item :=
  [.case s.case] ++ (if s.skipBuild then [.buildSkipped] else s.buildSteps.map .step) ++ [.window s.runSecs.toNat] ++
    s.plan.groups.flatMap fun g => .group g.label g.settle :: g.specs.map .process

/-- The lines that show an item. -/
def Item.render : Item → List String
  | .case c => [s!"greenhouse dry-run: case {c.name}"]
  | .buildSkipped => ["  build: skipped"]
  | .step s => [s!"  build: {s.commandLine}"]
  | .window secs => [s!"  run window: {secs}s", ""]
  | .group label settle => [s!"{label} (settle {settle}ms):"]
  | .process spec =>
    [s!"  - {spec.name}", s!"      cmd: {spec.commandLine}", s!"      stdout: {spec.output.stdout}",
     s!"      stderr: {spec.output.stderr}"] ++
      match spec.ready with
      | some check => [s!"      ready: {check.render}"]
      | none => []

/-- The text of a dry run. -/
def text (s : Settings) : String :=
  String.join (((items s).flatMap Item.render).map (· ++ "\n"))

end StagedLaunch.DryRun
