/-!
# Variables of a shell

The variables of a shell, its arguments, and the parameters that it keeps itself.
-/

namespace StagedLaunch.Script

/-- What the parameters of a shell stand for. -/
structure Variables where
  /-- The variables with their values. -/
  values : List (String × String)
  /-- The variables that programs get. -/
  exported : List String
  /-- The name of the program. -/
  zero : String
  /-- The arguments. -/
  args : List String
  /-- The status of the last command. -/
  status : Nat
  /-- The number of the process of the shell. -/
  pid : Nat
  /-- The number of the last process in the background. -/
  lastBackground : Option Nat
deriving Repr

namespace Variables

/-- The value of a variable. -/
def get? (v : Variables) (name : String) : Option String := v.values.lookup name

/-- Gives a variable a value. -/
def set (v : Variables) (name value : String) : Variables :=
  { v with values := (name, value) :: v.values.filter (·.1 != name) }

/-- Takes a variable away. -/
def unset (v : Variables) (name : String) : Variables :=
  { v with values := v.values.filter (·.1 != name), exported := v.exported.filter (· != name) }

/-- Marks a variable as one that programs get. -/
def markExported (v : Variables) (name : String) : Variables :=
  if v.exported.contains name then v else { v with exported := v.exported ++ [name] }

/-- The variables that programs get, with their values. -/
def environment (v : Variables) : List (String × String) :=
  v.exported.filterMap fun name => (v.get? name).map fun value => (name, value)

/-- The value of a parameter; the arguments together have none here. -/
def param? (v : Variables) (name : String) : Option String :=
  match name with
  | "?" => some (toString v.status)
  | "#" => some (toString v.args.length)
  | "$" => some (toString v.pid)
  | "!" => v.lastBackground.map toString
  | "-" => some ""
  | "0" => some v.zero
  | _ =>
    match name.toNat? with
    | some n => if name.toList.all Char.isDigit then v.args[n - 1]? else none
    | none => v.get? name

end Variables

end StagedLaunch.Script
