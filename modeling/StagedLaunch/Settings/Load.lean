import StagedLaunch.Machine.FileTree
import StagedLaunch.Settings.Basic
import StagedLaunch.Settings.Schema

/-!
# Loading a configuration file

The command line names the file or asks for none; otherwise a file with the usual name is read if there is one.
-/

namespace StagedLaunch

/-- Why a configuration file cannot be used. -/
inductive ConfigError where
  /-- It cannot be read. -/
  | read (path : String) (cause : OsError)
  /-- It is no configuration document. -/
  | malformed (path : String)
  /-- What it says does not fit. -/
  | schema (path : String) (cause : SchemaError)
deriving DecidableEq, Repr

/-- The text of an error, with the reason behind it as far as it is stable. -/
def ConfigError.message : ConfigError → String
  | .read path cause => s!"failed to read config file {path}: {cause.message}"
  | .malformed path => s!"failed to parse config file {path}"
  | .schema path cause => s!"failed to parse config file {path}: {cause.message}"

namespace Config

/-- The configuration that a text gives; `path` names the text in messages. -/
def ofText (path text : String) : Except ConfigError Config :=
  match Document.parse? text with
  | none => .error (.malformed path)
  | some entries => (ofEntries entries).mapError (.schema path)

/-- The configuration in a file. -/
def load (t : FileTree) (path : String) : Except ConfigError Config :=
  match t.readText path with
  | .error e => .error (.read path e)
  | .ok text => ofText path text

/-- The name of the file that is read unless the command line says otherwise. -/
def defaultPath : String := "greenhouse.toml"

/-- The configuration that a command line asks for. -/
def choose (t : FileTree) (c : CommandLine) : Except ConfigError Config :=
  if c.noConfig then .ok Config.empty
  else
    match c.config with
    | some path => load t path
    | none => if t.contains defaultPath then load t defaultPath else .ok Config.empty

end Config

/-- Why there are no settings. -/
inductive SettingsError where
  /-- The command line is not accepted. -/
  | commandLine (cause : CommandLine.Rejection)
  /-- The configuration cannot be used. -/
  | config (cause : ConfigError)
  /-- A build command cannot be used. -/
  | build (cause : BuildCommandError)
deriving DecidableEq, Repr

/-- The command line and the settings that the arguments of the program and the files give. -/
def Settings.load (t : FileTree) (args : List String) : Except SettingsError (CommandLine × Settings) := do
  let c ← (CommandLine.parse args).mapError .commandLine
  let k ← (Config.choose t c).mapError .config
  let s ← (Settings.resolve c k).mapError .build
  return (c, s)

end StagedLaunch
