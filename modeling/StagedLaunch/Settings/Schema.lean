import StagedLaunch.Settings.Config
import StagedLaunch.Document.Reader

/-!
# What a configuration document may say

`Config.ofEntries` reads a configuration from the values of a document, in their order, and reports the first that does not
fit: a name that is not known, a value of another type, or a number out of range.
-/

namespace StagedLaunch

open Document

/-- What a value was expected to be. -/
inductive Wanted where
  /-- A text. -/
  | text
  /-- A number of 16 bits. -/
  | word16
  /-- A number of 64 bits. -/
  | word64
  /-- True or false. -/
  | truth
  /-- The build settings. -/
  | build
deriving DecidableEq, Repr

/-- How messages call what was expected. -/
def Wanted.render : Wanted → String
  | .text => "a string"
  | .word16 => "u16"
  | .word64 => "u64"
  | .truth => "a boolean"
  | .build => "struct BuildConfig"

/-- The first thing in a document that does not fit. -/
inductive SchemaError where
  /-- A name is not known. -/
  | unknownField (name : String) (known : List String)
  /-- A value has another type. -/
  | wrongType (found : String) (wanted : Wanted)
  /-- A number is out of range. -/
  | outOfRange (n : Int) (wanted : Wanted)
  /-- The build settings are given by position and some are missing. -/
  | tooShort (length : Nat)
  /-- A readiness check is neither a text nor a table. -/
  | notACheck
  /-- A readiness check is an empty table. -/
  | noCheck
  /-- A readiness check is a table with several names. -/
  | manyChecks
  /-- A readiness check has a name that is not known. -/
  | unknownCheck (name : String)
  /-- A readiness check that takes a value is given as a text. -/
  | checkWithoutValue
  /-- A readiness check that takes no value is given one in a table. -/
  | surplusInTable
  /-- A readiness check that takes no value is given one in tables with headers. -/
  | surplusInTables
  /-- A readiness check that takes no value is given one. -/
  | surplusValue (typeName : String)
deriving DecidableEq, Repr

/-- Names between backticks with commas between them. -/
def nameList (names : List String) : String :=
  String.intercalate ", " (names.map fun n => s!"\x60{n}\x60")

/-- The names of the readiness checks. -/
def checkNames : List String := ["udp_bound", "tcp", "log", "delay"]

/-- The text of an error. -/
def SchemaError.message : SchemaError → String
  | .unknownField name known => s!"unknown field \x60{name}\x60, expected one of {nameList known}"
  | .wrongType found wanted => s!"invalid type: {found}, expected {wanted.render}"
  | .outOfRange n wanted => s!"invalid value: integer \x60{n}\x60, expected {wanted.render}"
  | .tooShort length => s!"invalid length {length}, expected struct BuildConfig with 3 elements"
  | .notACheck => "wanted string or table"
  | .noCheck => "wanted exactly 1 element, found 0 elements"
  | .manyChecks => "wanted exactly 1 element, more than 1 element"
  | .unknownCheck name => s!"unknown variant \x60{name}\x60, expected one of {nameList checkNames}"
  | .checkWithoutValue => "invalid type: unit variant, expected newtype variant"
  | .surplusInTable => "expected empty table"
  | .surplusInTables => "expected empty array"
  | .surplusValue typeName => s!"expected table, found {typeName}"

/-- How messages call a value that was found. -/
def Document.Value.found : Value → String
  | .text s => s!"string {quoted s}"
  | .integer n => s!"integer \x60{n}\x60"
  | .real x => s!"floating point \x60{x.render}\x60"
  | .truth b => if b then "boolean \x60true\x60" else "boolean \x60false\x60"
  | .moment => "map"
  | .array _ => "sequence"
  | .table _ _ => "map"
  | .tables _ => "sequence"

/-- A text. -/
def readString : Value → Except SchemaError String
  | .text s => .ok s
  | v => .error (.wrongType v.found .text)

/-- True or false. -/
def readTruth : Value → Except SchemaError Bool
  | .truth b => .ok b
  | v => .error (.wrongType v.found .truth)

/-- A number from zero to below a bound. -/
def readBounded (bound : Nat) (wanted : Wanted) : Value → Except SchemaError Nat
  | .integer n => if 0 ≤ n && n < bound then .ok n.toNat else .error (.outOfRange n wanted)
  | v => .error (.wrongType v.found wanted)

/-- A number of 16 bits. -/
def readWord16 (v : Value) : Except SchemaError UInt16 :=
  (readBounded UInt16.size .word16 v).map Nat.toUInt16

/-- A number of 64 bits. -/
def readWord64 (v : Value) : Except SchemaError UInt64 :=
  (readBounded UInt64.size .word64 v).map Nat.toUInt64

/-- What is given to a readiness check that takes no value. -/
def readNothing : Value → Except SchemaError Unit
  | .array items => if items.isEmpty then .ok () else .error .surplusInTable
  | .table _ entries => if entries.isEmpty then .ok () else .error .surplusInTable
  | .tables items => if items.isEmpty then .ok () else .error .surplusInTables
  | v => .error (.surplusValue v.typeName)

/-- A readiness check: a text that names one without a value, or a table with just one name. -/
def readServerReady : Value → Except SchemaError ServerReady
  | .text name =>
    match name with
    | "udp_bound" => .ok .udpBound
    | "tcp" => .ok .tcp
    | "log" => .error .checkWithoutValue
    | "delay" => .error .checkWithoutValue
    | _ => .error (.unknownCheck name)
  | .table _ [] => .error .noCheck
  | .table _ [(name, v)] =>
    match name with
    | "udp_bound" => (readNothing v).map fun _ => .udpBound
    | "tcp" => (readNothing v).map fun _ => .tcp
    | "log" => (readString v).map .log
    | "delay" => (readWord64 v).map .delay
    | _ => .error (.unknownCheck name)
  | .table _ _ => .error .manyChecks
  | _ => .error .notACheck

/-- The names of the build settings. -/
def buildNames : List String := ["configure", "compile", "skip"]

/-- Takes one of the build settings. -/
def takeBuildEntry (b : BuildConfig) (entry : String × Value) : Except SchemaError BuildConfig :=
  match entry with
  | ("configure", v) => (readString v).map fun s => { b with configure := some s }
  | ("compile", v) => (readString v).map fun s => { b with compile := some s }
  | ("skip", v) => (readTruth v).map fun t => { b with skip := some t }
  | (name, _) => .error (.unknownField name buildNames)

/-- The build settings by position. -/
def readBuildItems : List Value → Except SchemaError BuildConfig
  | [] => .error (.tooShort 0)
  | v :: rest => do
    let configure ← readString v
    match rest with
    | [] => .error (.tooShort 1)
    | v :: rest =>
      let compile ← readString v
      match rest with
      | [] => .error (.tooShort 2)
      | v :: _ =>
        let skip ← readTruth v
        return ⟨some configure, some compile, some skip⟩

/-- The build settings: a table, or their values by position. -/
def readBuild : Value → Except SchemaError BuildConfig
  | .table _ entries => entries.foldlM takeBuildEntry ⟨none, none, none⟩
  | .array items => readBuildItems items
  | .tables items => readBuildItems (items.map (.table .header))
  | .moment => .error (.unknownField "$__toml_private_datetime" buildNames)
  | v => .error (.wrongType v.found .build)

namespace Config

/-- The names of the settings. -/
def fieldNames : List String :=
  ["build_dir", "project_root", "log_dir", "host", "port", "run_secs", "settle_ms", "ready_timeout_ms", "readiness",
   "server_ready", "shutdown_sigint_ms", "shutdown_sigterm_ms", "build"]

/-- Takes one of the settings. -/
def takeEntry (c : Config) (entry : String × Value) : Except SchemaError Config :=
  match entry with
  | ("build_dir", v) => (readString v).map fun s => { c with buildDir := some s }
  | ("project_root", v) => (readString v).map fun s => { c with projectRoot := some s }
  | ("log_dir", v) => (readString v).map fun s => { c with logDir := some s }
  | ("host", v) => (readString v).map fun s => { c with host := some s }
  | ("port", v) => (readWord16 v).map fun n => { c with port := some n }
  | ("run_secs", v) => (readWord64 v).map fun n => { c with runSecs := some n }
  | ("settle_ms", v) => (readWord64 v).map fun n => { c with settleMs := some n }
  | ("ready_timeout_ms", v) => (readWord64 v).map fun n => { c with readyTimeoutMs := some n }
  | ("readiness", v) => (readTruth v).map fun b => { c with readiness := some b }
  | ("server_ready", v) => (readServerReady v).map fun r => { c with serverReady := some r }
  | ("shutdown_sigint_ms", v) => (readWord64 v).map fun n => { c with interruptMs := some n }
  | ("shutdown_sigterm_ms", v) => (readWord64 v).map fun n => { c with terminateMs := some n }
  | ("build", v) => (readBuild v).map fun b => { c with build := some b }
  | (name, _) => .error (.unknownField name fieldNames)

/-- The configuration that the values of a document give. -/
def ofEntries (entries : Entries) : Except SchemaError Config :=
  entries.foldlM takeEntry Config.empty

end Config

end StagedLaunch
