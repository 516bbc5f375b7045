import StagedLaunch.Plan.Spec

/-!
# Plans

A plan is a list of groups of processes. The processes of a group are launched together, and the next group follows when they
are ready and the group has settled. `Plan.ofCase` is the plan of a case.
-/

namespace StagedLaunch

/-- Processes that are launched together. -/
structure Group where
  /-- The name of the group. -/
  label : String
  /-- The processes in order. -/
  specs : List LaunchSpec
  /-- The least time from their launch to the next group, in milliseconds. -/
  settle : Nat
deriving DecidableEq, Repr

/-- What to launch, in order. -/
structure Plan where
  /-- The case that the plan is for. -/
  case : RunCase
  /-- The groups in order. -/
  groups : List Group
deriving DecidableEq, Repr

namespace Plan

/-- The processes of a plan in the order of their launch. -/
def specs (plan : Plan) : List LaunchSpec := plan.groups.flatMap Group.specs

/-- How many processes a plan has. -/
def size (plan : Plan) : Nat := plan.specs.length

/-- The number of gardeners in every case. -/
def gardeners : Nat := 2

/-- What a plan depends on besides its case. -/
structure Parameters where
  /-- Where executables and output files are. -/
  layout : Layout
  /-- The host that clients are told. -/
  host : String
  /-- The port of the server. -/
  port : UInt16
  /-- How long a group settles if it settles at all, in milliseconds. -/
  settle : Nat
  /-- How to tell that the server is ready, if anybody waits for that. -/
  serverReady : Option ReadyCheck
deriving DecidableEq, Repr

/-- The group of the server. -/
def serverGroup (case : RunCase) (p : Parameters) (settle : Nat) : Group :=
  ⟨"server", [LaunchSpec.server case p.layout p.port p.serverReady], settle⟩

/-- The group of the monitor, which does not settle. -/
def monitorGroup (case : RunCase) (p : Parameters) : Group :=
  ⟨"monitor", [LaunchSpec.client "monitor" .monitor case p.layout p.host p.port], 0⟩

/-- The group of the gardeners. -/
def gardenerGroup (case : RunCase) (p : Parameters) : Group :=
  ⟨"gardeners", (List.range gardeners).map fun n =>
    LaunchSpec.client s!"gardener{n + 1}" .gardener case p.layout p.host p.port, p.settle⟩

/-- The group of the flowerbed, which does not settle. -/
def flowerbedGroup (case : RunCase) (p : Parameters) : Group :=
  ⟨"flowerbed", [LaunchSpec.client "flowerbed" .flowerbed case p.layout p.host p.port], 0⟩

/-- The plan of a case. The first case has no monitor and lets the server settle; in the others the monitor follows the
server at once. -/
def ofCase (case : RunCase) (p : Parameters) : Plan :=
  match case with
  | .fourFive => ⟨case, [serverGroup case p p.settle, gardenerGroup case p, flowerbedGroup case p]⟩
  | .sixSeven | .eight | .nineTen =>
    ⟨case, [serverGroup case p 0, monitorGroup case p, gardenerGroup case p, flowerbedGroup case p]⟩

end Plan

end StagedLaunch
