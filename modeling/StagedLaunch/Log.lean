import StagedLaunch.Text.Blank
import StagedLaunch.Text.Quoted

/-!
# Log records

A record has a level, a message and named fields. `Record.line` is the text of a record; `Level.resolve` chooses the level
up to which records are written.
-/

namespace StagedLaunch

/-- How grave a record is. -/
inductive Level where
  /-- The program cannot go on. -/
  | error
  /-- Something did not go as planned. -/
  | warn
  /-- Progress. -/
  | info
  /-- Detail. -/
  | debug
  /-- The finest detail. -/
  | trace
deriving DecidableEq, Repr

namespace Level

/-- The levels, the gravest first. -/
def all : List Level := [.error, .warn, .info, .debug, .trace]

/-- The name in records. -/
def label : Level → String
  | .error => "ERROR"
  | .warn => "WARN"
  | .info => "INFO"
  | .debug => "DEBUG"
  | .trace => "TRACE"

/-- The name on the command line. -/
def name : Level → String
  | .error => "error"
  | .warn => "warn"
  | .info => "info"
  | .debug => "debug"
  | .trace => "trace"

/-- The level with a name on the command line. -/
def ofName? (name : String) : Option Level := all.find? fun level => level.name == name

/-- How fine a level is; records of coarser levels are written with it. -/
def fineness : Level → Nat
  | .error => 0
  | .warn => 1
  | .info => 2
  | .debug => 3
  | .trace => 4

/-- Records of a level are written up to another level. -/
def isWritten (level upTo : Level) : Bool := level.fineness ≤ upTo.fineness

/-- The level that the environment asks for; blanks around the name and its case do not matter. The letters of the names
are the lower case of no letter outside ASCII. -/
def ofEnvironment? (text : String) : Option Level :=
  let word := String.ofList ((trim text.toList).map Char.toLower)
  if word == "warning" then some .warn else ofName? word

/-- The level up to which records are written: the command line's, else the environment's if it names one, else `info`. -/
def resolve (commandLine : Option Level) (environment : Option String) : Level :=
  (commandLine.orElse fun _ => environment.bind ofEnvironment?).getD .info

end Level

/-- Why records cannot be collected. -/
inductive CollectorError where
  /-- They are collected already. -/
  | alreadyCollecting
deriving DecidableEq, Repr

/-- The text of the error. -/
def CollectorError.message : CollectorError → String
  | .alreadyCollecting => "failed to install log subscriber: a global default trace dispatcher has already been set"

/-- Begins to collect records up to a level, which a program does once; `current` is the level of an earlier time. -/
def Level.collect (wanted : Level) (current : Option Level) : Except CollectorError Level :=
  match current with
  | none => .ok wanted
  | some _ => .error .alreadyCollecting

/-- The value of a field. -/
inductive FieldValue where
  /-- Text as it is. -/
  | text (s : String)
  /-- Text between quotes. -/
  | quoted (s : String)
  /-- A whole number. -/
  | number (n : Nat)
  /-- Yes or no. -/
  | truth (b : Bool)
deriving DecidableEq, Repr

/-- How a value is written. -/
def FieldValue.render : FieldValue → String
  | .text s => s
  | .quoted s => StagedLaunch.quoted s
  | .number n => toString n
  | .truth b => if b then "true" else "false"

/-- A record. -/
structure Record where
  /-- How grave it is. -/
  level : Level
  /-- What it says. -/
  message : String
  /-- Its fields, in the order in which they are written. -/
  fields : List (String × FieldValue)
deriving DecidableEq, Repr

/-- The text of a record: the level, the message, and the fields with an equals sign after each name. -/
def Record.line (r : Record) : String :=
  String.intercalate " " (r.level.label :: r.message :: r.fields.map fun f => f.1 ++ "=" ++ f.2.render)

/-- A record whose numbers under some names do not show. -/
def Record.mask (r : Record) (names : List String) : Record :=
  { r with
    fields := r.fields.map fun f =>
      match f.2 with
      | .number _ => if names.contains f.1 then (f.1, .text "N") else f
      | _ => f }

end StagedLaunch
