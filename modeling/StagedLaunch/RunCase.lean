/-!
# Cases

The cases that a simulation can be run for. A case selects the executables and the shape of the plan.
-/

namespace StagedLaunch

/-- A case of the simulation. -/
inductive RunCase where
  /-- The case `4-5`, which has no monitor. -/
  | fourFive
  /-- The case `6-7`. -/
  | sixSeven
  /-- The case `8`. -/
  | eight
  /-- The case `9-10`. -/
  | nineTen
deriving DecidableEq, Repr

namespace RunCase

/-- The cases in order. -/
def all : List RunCase := [.fourFive, .sixSeven, .eight, .nineTen]

/-- The name of a case, which is also the directory of its executables. -/
def name : RunCase → String
  | .fourFive => "4-5"
  | .sixSeven => "6-7"
  | .eight => "8"
  | .nineTen => "9-10"

/-- The case with a name; `foldCase` accepts letters of either case. -/
def ofName? (name : String) (foldCase : Bool) : Option RunCase :=
  let fold (s : String) : List Char := if foldCase then s.toList.map Char.toLower else s.toList
  all.find? fun c => fold c.name == fold name

end RunCase

end StagedLaunch
