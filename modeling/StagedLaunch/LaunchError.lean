import StagedLaunch.OsError

/-!
# Why a run fails

Each reason for which a run fails names what failed; `message` is the text that people read and `cause?` the reason behind
it, if it has one.
-/

namespace StagedLaunch

/-- Why a readiness pattern cannot be used. -/
inductive PatternError where
  /-- The text is no regular expression. -/
  | malformed (detail : String)
  /-- The automaton of the expression would take more bytes than the limit. -/
  | tooBig (limit : Nat)
deriving DecidableEq, Repr

/-- The text of a pattern error. -/
def PatternError.message : PatternError → String
  | .malformed detail => detail
  | .tooBig limit => s!"Compiled regex exceeds size limit of {limit} bytes."

/-- Why a run fails. Exit codes are absent where a signal ended the process. -/
inductive LaunchError where
  /-- A build step could not be started. -/
  | buildSpawn (step : String) (cause : OsError)
  /-- A build step failed. -/
  | buildFailed (step : String) (code : Option Int)
  /-- The executable of a process is no file. -/
  | missingExecutable (name path : String)
  /-- An output file could not be opened. -/
  | outputFile (path : String) (cause : OsError)
  /-- A process could not be started. -/
  | spawn (name path : String) (cause : OsError)
  /-- A process was not ready in time. -/
  | notReady (name : String) (timeout : Nat)
  /-- A process exited before it was ready. -/
  | exitedEarly (name : String) (code : Option Int)
  /-- The pattern of a readiness check cannot be used. -/
  | readinessPattern (name : String) (cause : PatternError)
  /-- The run was interrupted while a group was launched. -/
  | interrupted (group : String)
deriving DecidableEq, Repr

namespace LaunchError

/-- How an exit is described. -/
def exitLabel : Option Int → String
  | some code => s!"exit code {code}"
  | none => "a signal"

/-- The text of the reason behind an error. -/
def cause? : LaunchError → Option String
  | .buildSpawn _ cause | .outputFile _ cause | .spawn _ _ cause => some cause.message
  | .readinessPattern _ cause => some cause.message
  | _ => none

/-- The text of an error. -/
def message : LaunchError → String
  | .buildSpawn step cause => s!"build step \x60{step}\x60 could not be started: {cause.message}"
  | .buildFailed step code => s!"build step \x60{step}\x60 failed with {exitLabel code}"
  | .missingExecutable name path => s!"executable for {name} not found at {path}"
  | .outputFile path cause => s!"failed to open output file {path}: {cause.message}"
  | .spawn name path cause => s!"failed to spawn {name} ({path}): {cause.message}"
  | .notReady name timeout => s!"{name} did not become ready within {timeout}ms"
  | .exitedEarly name code => s!"{name} exited with {exitLabel code} before becoming ready"
  | .readinessPattern name cause => s!"invalid readiness pattern for {name}: {cause.message}"
  | .interrupted group => s!"run interrupted while launching {group}"

/-- The text of an error followed by the reason behind it. -/
def chain (e : LaunchError) : String :=
  match e.cause? with
  | some cause => s!"{e.message}: {cause}"
  | none => e.message

end LaunchError

end StagedLaunch
