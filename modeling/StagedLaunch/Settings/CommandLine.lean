import StagedLaunch.Log
import StagedLaunch.RunCase
import StagedLaunch.Text.Numeral

/-!
# The command line

`CommandLine.parse` reads arguments from left to right. A long option takes its value after an equals sign or from the next
word, a short one also from the rest of its word. A value that is a word of its own waits until the next argument that is
known has been seen, so an unknown argument is reported before a bad value that stands right before it.
-/

namespace StagedLaunch

/-- What the command line sets. -/
structure CommandLine where
  /-- The case. -/
  case : RunCase
  /-- The port of the server. -/
  port : Option UInt16
  /-- The configuration file. -/
  config : Option String
  /-- Read no configuration file. -/
  noConfig : Bool
  /-- The host that clients are told. -/
  host : Option String
  /-- The build directory. -/
  buildDir : Option String
  /-- The directory of the project's sources. -/
  projectRoot : Option String
  /-- The directory of output files. -/
  logDir : Option String
  /-- The length of the run window, in seconds. -/
  runSecs : Option UInt64
  /-- How long groups settle, in milliseconds. -/
  settleMs : Option UInt64
  /-- How long to wait for readiness, in milliseconds. -/
  readyTimeoutMs : Option UInt64
  /-- Do not wait for readiness. -/
  noReadiness : Bool
  /-- Leave the build out. -/
  skipBuild : Bool
  /-- The time to react to an interrupt, in milliseconds. -/
  interruptMs : Option UInt64
  /-- The time to react to the signal to terminate, in milliseconds. -/
  terminateMs : Option UInt64
  /-- Show what would be done and do nothing. -/
  dryRun : Bool
  /-- The level up to which records are written. -/
  logLevel : Option Level
deriving DecidableEq, Repr

namespace CommandLine

/-- Why a command line is not accepted, or what it asks for instead of a run. -/
inductive Rejection where
  /-- A value is missing, empty, or not one of those that are allowed. -/
  | invalidValue
  /-- A number cannot be read. -/
  | invalidNumber
  /-- No argument of that name or at that place is known. -/
  | unknownArgument
  /-- An argument is repeated. -/
  | repeated
  /-- A flag is given a value. -/
  | unwantedValue
  /-- The case is missing. -/
  | missingCase
  /-- Help is asked for. -/
  | help
  /-- The version is asked for. -/
  | version
deriving DecidableEq, Repr

/-- The exit status that follows: success for help and version. -/
def Rejection.exitStatus : Rejection → Nat
  | .help | .version => 0
  | _ => 2

/-- The arguments by name. -/
inductive Key where
  /-- The case, which has no name on the command line. -/
  | runCase
  /-- `--port`, `-p`. -/
  | port
  /-- `--config`. -/
  | config
  /-- `--no-config`. -/
  | noConfig
  /-- `--host`. -/
  | host
  /-- `--build-dir`. -/
  | buildDir
  /-- `--project-root`. -/
  | projectRoot
  /-- `--log-dir`. -/
  | logDir
  /-- `--run-secs`. -/
  | runSecs
  /-- `--settle-ms`. -/
  | settleMs
  /-- `--ready-timeout-ms`. -/
  | readyTimeoutMs
  /-- `--no-readiness`. -/
  | noReadiness
  /-- `--skip-build`. -/
  | skipBuild
  /-- `--shutdown-sigint-ms`. -/
  | interruptMs
  /-- `--shutdown-sigterm-ms`. -/
  | terminateMs
  /-- `--dry-run`. -/
  | dryRun
  /-- `--log-level`. -/
  | logLevel
  /-- `--help`, `-h`. -/
  | help
  /-- `--version`, `-V`. -/
  | version
deriving DecidableEq, Repr

/-- The arguments that have a long name, with that name. -/
def longNames : List (String × Key) :=
  [("port", .port), ("config", .config), ("no-config", .noConfig), ("host", .host), ("build-dir", .buildDir),
   ("project-root", .projectRoot), ("log-dir", .logDir), ("run-secs", .runSecs), ("settle-ms", .settleMs),
   ("ready-timeout-ms", .readyTimeoutMs), ("no-readiness", .noReadiness), ("skip-build", .skipBuild),
   ("shutdown-sigint-ms", .interruptMs), ("shutdown-sigterm-ms", .terminateMs), ("dry-run", .dryRun),
   ("log-level", .logLevel), ("help", .help), ("version", .version)]

/-- The arguments that have a short name, with that name. -/
def shortNames : List (Char × Key) := [('p', .port), ('h', .help), ('V', .version)]

/-- An argument that takes a value. -/
def Key.takesValue : Key → Bool
  | .noConfig | .noReadiness | .skipBuild | .dryRun | .help | .version => false
  | _ => true

/-- The value that was read for an argument. -/
inductive Setting where
  /-- A flag that is given. -/
  | given
  /-- A case. -/
  | case (c : RunCase)
  /-- A port. -/
  | port (n : UInt16)
  /-- Any text. -/
  | text (s : String)
  /-- A number. -/
  | number (n : UInt64)
  /-- A level. -/
  | level (l : Level)
deriving DecidableEq, Repr

/-- The value of an argument as its text gives it. -/
def readValue (key : Key) (text : String) : Except Rejection Setting :=
  match key with
  | .runCase => ((RunCase.ofName? text false).map Setting.case).elim (.error .invalidValue) .ok
  | .logLevel => ((Level.ofName? text).map Setting.level).elim (.error .invalidValue) .ok
  | .host => .ok (.text text)
  | .config | .buildDir | .projectRoot | .logDir => if text.isEmpty then .error .invalidValue else .ok (.text text)
  | .port =>
    match readInteger 0 65535 text.toList with
    | some n => .ok (.port n.toNat.toUInt16)
    | none => .error .invalidNumber
  | .runSecs | .settleMs | .readyTimeoutMs | .interruptMs | .terminateMs =>
    match readNatural 10 UInt64.size text.toList with
    | some n => .ok (.number n.toUInt64)
    | none => .error .invalidNumber
  | .noConfig | .noReadiness | .skipBuild | .dryRun | .help | .version => .error .unwantedValue

/-- What has been read: the settings in order, and an option that waits with the words that may be its value. -/
structure Progress where
  /-- The settings, the latest first. -/
  settings : List (Key × Setting)
  /-- The argument that was seen last and its value, if that was a word of its own. -/
  pending : Option (Key × List String)

/-- Enters an argument with the words of its value. Missing or surplus words come first, then a repetition, then a value that
cannot be read. -/
def enter (p : Progress) (key : Key) (words : List String) : Except Rejection Progress :=
  match key, words with
  | .help, _ => .error .help
  | .version, _ => .error .version
  | _, [] =>
    if key.takesValue then .error .invalidValue
    else if (p.settings.lookup key).isSome then .error .repeated
    else .ok ⟨(key, .given) :: p.settings, none⟩
  | _, word :: _ =>
    if (p.settings.lookup key).isSome then .error .repeated
    else (readValue key word).map fun v => ⟨(key, v) :: p.settings, none⟩

/-- Enters the argument that waits. -/
def settle (p : Progress) : Except Rejection Progress :=
  match p.pending with
  | none => .ok p
  | some (key, words) => enter ⟨p.settings, none⟩ key words

/-- Enters an argument that has been seen with a value of its own word, or that needs none. -/
def react (p : Progress) (key : Key) (words : List String) : Except Rejection Progress := do
  enter (← settle p) key words

/-- Reads a word that is no option: the value that an option waits for, else the case. -/
def takeWord (p : Progress) (word : String) : Except Rejection Progress :=
  match p.pending with
  | some (key, []) => if key.takesValue && key != .runCase then .ok ⟨p.settings, some (key, [word])⟩ else placeCase
  | _ => placeCase
where
  /-- The word is the case, unless the case has been given. -/
  placeCase : Except Rejection Progress :=
    let seen := (p.settings.lookup .runCase).isSome || (p.pending.map (·.1)) == some .runCase
    if seen then .error .unknownArgument
    else (settle p).map fun p => ⟨p.settings, some (.runCase, [word])⟩

/-- Reads the letters of a word after one hyphen. -/
def takeShort (p : Progress) : List Char → Except Rejection Progress
  | [] => .ok p
  | c :: rest =>
    match shortNames.lookup c with
    | none => .error .unknownArgument
    | some key =>
      if key.takesValue then
        match rest with
        | [] => (settle p).map fun p => ⟨p.settings, some (key, [])⟩
        | '=' :: value => react p key [String.ofList value]
        | value => react p key [String.ofList value]
      else do takeShort (← react p key []) rest

/-- Reads a word after two hyphens. -/
def takeLong (p : Progress) (body : List Char) : Except Rejection Progress :=
  let name := String.ofList (body.takeWhile (· != '='))
  let value := (body.dropWhile (· != '=')).tail
  let attached := body.contains '='
  match longNames.lookup name with
  | none => .error .unknownArgument
  | some key =>
    if key.takesValue then
      if attached then react p key [String.ofList value]
      else (settle p).map fun p => ⟨p.settings, some (key, [])⟩
    else if attached then .error .unwantedValue
    else react p key []

/-- Reads the arguments; after two hyphens alone every word is a value of its own. -/
def take (p : Progress) (trailing : Bool) : List String → Except Rejection Progress
  | [] => settle p
  | arg :: rest =>
    if trailing then do take (← takeWord.placeCase p arg) true rest
    else
      match arg.toList with
      | ['-', '-'] => take p true rest
      | '-' :: '-' :: body => do take (← takeLong p body) false rest
      | ['-'] => do take (← takeWord p arg) false rest
      | '-' :: body => do take (← takeShort p body) false rest
      | _ => do take (← takeWord p arg) false rest

/-- The text that was read for an argument. -/
def text? (settings : List (Key × Setting)) (key : Key) : Option String :=
  match settings.lookup key with
  | some (.text s) => some s
  | _ => none

/-- The number that was read for an argument. -/
def number? (settings : List (Key × Setting)) (key : Key) : Option UInt64 :=
  match settings.lookup key with
  | some (.number n) => some n
  | _ => none

/-- The settings in their places. -/
def ofSettings (settings : List (Key × Setting)) : Except Rejection CommandLine :=
  match settings.lookup .runCase with
  | some (.case c) => .ok
    { case := c
      port := match settings.lookup .port with | some (.port n) => some n | _ => none
      config := text? settings .config
      noConfig := (settings.lookup .noConfig).isSome
      host := text? settings .host
      buildDir := text? settings .buildDir
      projectRoot := text? settings .projectRoot
      logDir := text? settings .logDir
      runSecs := number? settings .runSecs
      settleMs := number? settings .settleMs
      readyTimeoutMs := number? settings .readyTimeoutMs
      noReadiness := (settings.lookup .noReadiness).isSome
      skipBuild := (settings.lookup .skipBuild).isSome
      interruptMs := number? settings .interruptMs
      terminateMs := number? settings .terminateMs
      dryRun := (settings.lookup .dryRun).isSome
      logLevel := match settings.lookup .logLevel with | some (.level l) => some l | _ => none }
  | _ => .error .missingCase

/-- What the arguments of the program set. -/
def parse (args : List String) : Except Rejection CommandLine := do
  ofSettings (← take ⟨[], none⟩ false args).settings

end CommandLine

end StagedLaunch
