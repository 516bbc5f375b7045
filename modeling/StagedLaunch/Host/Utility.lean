import StagedLaunch.Machine.FileTree
import StagedLaunch.Script.Format
import StagedLaunch.Script.Test

/-!
# Programs of the system

The programs that every host has. Each takes arguments, files and an input, and gives output, a status, and the files after
it. They take no time.
-/

namespace StagedLaunch.Host

open Script

/-- What a program works with. -/
structure Call where
  /-- Its arguments. -/
  args : List String
  /-- The files, as it sees them. -/
  files : FileTree
  /-- What it can read from its standard input. -/
  input : List UInt8
  /-- Reads a file. -/
  read : String → Except OsError (List UInt8)
  /-- Where a link leads. -/
  link? : String → Option String
  /-- The variables that it gets. -/
  environment : List (String × String)

/-- What a program has done. -/
structure Effect where
  /-- Its standard output. -/
  out : List UInt8
  /-- Its standard error. -/
  err : List UInt8
  /-- Its status. -/
  status : Nat
  /-- The files after it. -/
  files : FileTree
  /-- What it has left of its input. -/
  input : List UInt8

namespace Call

variable (c : Call)

/-- Nothing but a status. -/
def ends (status : Nat) : Effect := ⟨[], [], status, c.files, c.input⟩

/-- Output and success. -/
def writes (bytes : List UInt8) : Effect := { c.ends 0 with out := bytes }

/-- A line of output and success. -/
def tells (s : String) : Effect := c.writes (Utf8.encode (s ++ "\n"))

/-- A complaint and a status. -/
def complains (status : Nat) (s : String) : Effect := { c.ends status with err := Utf8.encode (s ++ "\n") }

/-- The arguments that are options, and the others. -/
def options : List String × List String :=
  let isOption (s : String) : Bool := s.startsWith "-" && s != "-" && s != "--"
  (c.args.filter isOption, c.args.filter fun s => !isOption s && s != "--")

/-- An option with a letter was given. -/
def has (letter : Char) : Bool :=
  c.options.1.any fun s => !s.startsWith "--" && s.toList.contains letter

end Call

/-- The reason that an error gives, without its number. -/
def reason : OsError → String
  | .code n => OsError.nameOf n
  | .refused text => text

/-- Does something with files by their paths, one after the other. What cannot be done is complained about. -/
def overPaths (c : Call) (complaint : String → String) (f : FileTree → String → Except OsError FileTree)
    (paths : List String) : Effect :=
  paths.foldl (fun (e : Effect) path =>
    match f e.files path with
    | .ok t => { e with files := t }
    | .error cause =>
      { e with status := 1, err := e.err ++ Utf8.encode (complaint path ++ ": " ++ reason cause ++ "\n") }) (c.ends 0)

/-- The names in a directory, in order. -/
def namesIn (t : FileTree) (p : Place) : List String :=
  (t.nodes.filterMap fun e => if e.1.dropLast == p && !e.1.isEmpty then e.1.getLast? else none).mergeSort fun a b =>
    decide (a ≤ b)

/-- Takes a file away, or a directory with all that it holds if `deep`. -/
def removePath (deep quiet : Bool) (t : FileTree) (path : String) : Except OsError FileTree :=
  match t.find path with
  | .error e => if quiet && (e == .notFound || e == .notDirectory) then .ok t else .error e
  | .ok (p, .directory) => if deep then .ok (t.removeBelow p) else .error .isDirectory
  | .ok (p, _) => .ok (t.removeBelow p)

/-- Takes an empty directory away. -/
def removeDirectory (t : FileTree) (path : String) : Except OsError FileTree :=
  match t.find path with
  | .error e => .error e
  | .ok (p, .directory) => if (namesIn t p).isEmpty then .ok (t.removeBelow p) else .error (.code 39)
  | .ok _ => .error .notDirectory

/-- Makes a file if it is missing. -/
def touchPath (t : FileTree) (path : String) : Except OsError FileTree :=
  match t.find path with
  | .ok _ => .ok t
  | .error .notFound => (t.create path).map Prod.snd
  | .error e => .error e

/-- Makes a pipe with a name. What is written to it is not kept. -/
def pipePath (t : FileTree) (path : String) : Except OsError FileTree :=
  match t.find path with
  | .ok _ => .error .fileExists
  | .error .notFound => (t.create path).map fun made => made.2.set made.1 .sink
  | .error e => .error e

/-- Makes a directory, with those above it if `deep`. -/
def makePath (deep : Bool) (t : FileTree) (path : String) : Except OsError FileTree :=
  if deep then
    match t.makeDirectories path with
    | (.ok (), t) => .ok t
    | (.error e, _) => .error e
  else t.makeDirectory path

/-- The last name of a path. -/
def baseName (path : String) : String :=
  let cs := (path.toList.reverse.dropWhile (· == '/')).takeWhile (· != '/')
  if cs.isEmpty && path.toList.contains '/' then "/" else String.ofList cs.reverse

/-- A path without its last name. -/
def directoryName (path : String) : String :=
  let cs := (path.toList.reverse.dropWhile (· == '/')).dropWhile (· != '/')
  if cs.isEmpty then (if path.toList.head? == some '/' then "/" else ".")
  else
    let cs := cs.dropWhile (· == '/')
    if cs.isEmpty then "/" else String.ofList cs.reverse

/-- Where a file goes that is copied to a path: into a directory under its own name. -/
def destination (t : FileTree) (source target : String) : String :=
  if t.isDirectory target then Path.join target (baseName source) else target

/-- Copies a file, or moves it. -/
def copyPath (moves : Bool) (target : String) (t : FileTree) (source : String) : Except OsError FileTree :=
  match t.find source with
  | .error e => .error e
  | .ok (p, .directory) =>
    if moves then
      match t.target (destination t source target) with
      | .ok (.entry dir name _) =>
        .ok { t with nodes := t.nodes.map fun e =>
          if p.isPrefixOf e.1 then (dir ++ [name] ++ e.1.drop p.length, e.2) else e }
      | .ok (.directory _) => .error .fileExists
      | .error e => .error e
    else .error .isDirectory
  | .ok (p, node) =>
    match t.create (destination t source target) with
    | .error e => .error e
    | .ok (q, t) => if p == q then .ok t else .ok ((if moves then t.removeBelow p else t).set q node)

/-- Whether a mode makes a file executable, if it says so. -/
def modeExecutable? (mode : String) : Option Bool :=
  match readDigits 8 mode.toList with
  | some n => some (n % 8 % 2 == 1 || n / 8 % 2 == 1 || n / 64 % 2 == 1)
  | none =>
    if mode.toList.contains 'x' then some (mode.toList.contains '+' || mode.toList.contains '=') else none

/-- Makes a file executable or not. -/
def changeMode (executable : Option Bool) (t : FileTree) (path : String) : Except OsError FileTree :=
  match t.find path with
  | .error e => .error e
  | .ok (p, .file bytes old) => .ok (t.set p (.file bytes (executable.getD old)))
  | .ok _ => .ok t

/-- Puts files together; a dash stands for the input. -/
def concatenate (c : Call) (paths : List String) : Effect :=
  (if paths.isEmpty then ["-"] else paths).foldl (fun (e : Effect) path =>
    if path == "-" then { e with out := e.out ++ e.input, input := [] }
    else
      match c.read path with
      | .ok bytes => { e with out := e.out ++ bytes }
      | .error cause => { e with status := 1, err := e.err ++ Utf8.encode s!"cat: {path}: {reason cause}\n" }) (c.ends 0)

/-- Lists directories and files. -/
def listPaths (c : Call) (paths : List String) : Effect :=
  let paths := if paths.isEmpty then ["."] else paths
  paths.foldl (fun (e : Effect) path =>
    match c.files.find path with
    | .error cause =>
      { e with status := 2, err := e.err ++ Utf8.encode s!"ls: cannot access '{path}': {reason cause}\n" }
    | .ok (p, .directory) =>
      let names := namesIn c.files p
      let shown := if c.has 'a' then "." :: ".." :: names else names.filter fun n => !n.startsWith "."
      let title := if 1 < paths.length then path ++ ":\n" else ""
      { e with out := e.out ++ Utf8.encode (title ++ String.join (shown.map (· ++ "\n"))) }
    | .ok _ => { e with out := e.out ++ Utf8.encode (path ++ "\n") }) (c.ends 0)

/-- The bytes of a file by its path, or of the input for no path and for a dash. -/
def source (c : Call) (path : Option String) : Except OsError (List UInt8) :=
  match path with
  | none | some "-" => .ok c.input
  | some path => c.read path

/-- The lines of bytes, each with the line end that it has. -/
def byteLines (line : List UInt8) : List UInt8 → List (List UInt8)
  | [] => if line.isEmpty then [] else [line.reverse]
  | b :: rest => if b == 10 then (b :: line).reverse :: byteLines [] rest else byteLines (b :: line) rest

/-- The number that an option gives: in a word of its own after it, or in the rest of its word. -/
def countOption (args : List String) : Option Nat × List String :=
  match args with
  | "-n" :: n :: rest => (n.toNat?, rest)
  | s :: rest =>
    if s.startsWith "-n" then ((s.drop 2).toString.toNat?, rest)
    else if s.startsWith "-" && s != "-" then ((s.drop 1).toString.toNat?, rest)
    else (none, args)
  | [] => (none, [])

/-- Shows the first or the last lines of a file. -/
def someLines (c : Call) (last : Bool) : Effect :=
  let (n, paths) := countOption c.args
  let count := n.getD 10
  match source c paths.head? with
  | .error cause => c.complains 1 ("cannot open file: " ++ reason cause)
  | .ok bytes =>
    let ls := byteLines [] bytes
    c.writes (if last then ls.drop (ls.length - count) else ls.take count).flatten

/-- Whole numbers from one to another by a step, at most `fuel` of them. -/
def countFrom (fuel : Nat) (first step last : Int) : List Int :=
  match fuel with
  | 0 => []
  | fuel + 1 =>
    if (0 < step && last < first) || (step < 0 && first < last) || step == 0 then []
    else first :: countFrom fuel (first + step) step last

/-- Counts. -/
def sequence (c : Call) : Effect :=
  match c.args.map Format.integer with
  | [some last] => c.writes (lines 1 1 last)
  | [some first, some last] => c.writes (lines first 1 last)
  | [some first, some step, some last] => c.writes (lines first step last)
  | _ => c.complains 1 "seq: invalid arguments"
where
  /-- The lines of numbers. -/
  lines (first step last : Int) : List UInt8 :=
    Utf8.encode (String.join ((countFrom ((last - first).natAbs + 1) first step last).map fun n => s!"{n}\n"))

/-- Counts what a file holds. -/
def countContents (c : Call) : Effect :=
  let (_, paths) := c.options
  match source c paths.head? with
  | .error cause => c.complains 1 ("wc: " ++ reason cause)
  | .ok bytes =>
    let counts := (if c.has 'l' then [bytes.count 10] else []) ++ (if c.has 'c' then [bytes.length] else [])
    c.tells (" ".intercalate ((if counts.isEmpty then [bytes.count 10, bytes.length] else counts).map toString ++ paths))

/-- Runs a program of the system by its name, if there is one that takes no time. -/
def utility? (name : String) (c : Call) : Option Effect :=
  let (_, paths) := c.options
  match name with
  | "true" => some (c.ends 0)
  | "false" => some (c.ends 1)
  | "echo" => some (c.writes (Format.echoProgram c.args))
  | "printf" =>
    match Format.printf? c.args with
    | some (bytes, good) => some { c.writes bytes with status := if good then 0 else 1 }
    | none => some (c.complains 1 "printf: missing operand")
  | "test" => some (c.ends (Test.status c.files c.args))
  | "[" => some (c.ends (Test.bracketStatus c.files c.args))
  | "cat" => some (concatenate c paths)
  | "mkdir" =>
    if paths.isEmpty then some (c.complains 1 "mkdir: missing operand")
    else some (overPaths c (fun p => s!"mkdir: cannot create directory '{p}'") (makePath (c.has 'p')) paths)
  | "mkfifo" =>
    if paths.isEmpty then some (c.complains 1 "mkfifo: missing operand")
    else some (overPaths c (fun p => s!"mkfifo: cannot create fifo '{p}'") pipePath paths)
  | "rmdir" => some (overPaths c (fun p => s!"rmdir: failed to remove '{p}'") removeDirectory paths)
  | "touch" =>
    if paths.isEmpty then some (c.complains 1 "touch: missing file operand")
    else some (overPaths c (fun p => s!"touch: cannot touch '{p}'") touchPath paths)
  | "rm" =>
    if paths.isEmpty then
      if c.has 'f' then some (c.ends 0) else some (c.complains 1 "rm: missing operand")
    else
      some (overPaths c (fun p => s!"rm: cannot remove '{p}'") (removePath (c.has 'r' || c.has 'R') (c.has 'f')) paths)
  | "cp" | "mv" =>
    match paths.getLast? with
    | some target =>
      if paths.length < 2 then some (c.complains 1 s!"{name}: missing file operand")
      else some (overPaths c (fun p => s!"{name}: cannot stat '{p}'") (copyPath (name == "mv") target) paths.dropLast)
    | none => some (c.complains 1 s!"{name}: missing file operand")
  | "chmod" =>
    match c.args with
    | mode :: paths =>
      some (overPaths c (fun p => s!"chmod: cannot access '{p}'") (changeMode (modeExecutable? mode)) paths)
    | [] => some (c.complains 1 "chmod: missing operand")
  | "ls" => some (listPaths c paths)
  | "readlink" =>
    match paths.findSome? c.link? with
    | some target => some (c.tells target)
    | none => some (c.ends 1)
  | "pwd" => some (c.tells ("/" ++ String.intercalate "/" c.files.cwd))
  | "basename" => some (match paths with
    | [path] => c.tells (baseName path)
    | [path, suffix] =>
      let name := baseName path
      c.tells (if name != suffix && name.endsWith suffix then (name.dropEnd suffix.length).toString else name)
    | _ => c.complains 1 "basename: missing operand")
  | "dirname" => some (match paths with
    | path :: _ => c.tells (directoryName path)
    | [] => c.complains 1 "dirname: missing operand")
  | "head" => some (someLines c false)
  | "tail" => some (someLines c true)
  | "seq" => some (sequence c)
  | "wc" => some (countContents c)
  | "env" => some (c.writes (Utf8.encode (String.join (c.environment.map fun v => s!"{v.1}={v.2}\n"))))
  | _ => none

/-- The names of the programs that every host has. -/
def programNames : List String :=
  ["sh", "dash", "bash", "sleep", "true", "false", "echo", "printf", "test", "[", "cat", "mkdir", "mkfifo", "rmdir", "touch",
   "rm", "cp", "mv", "chmod", "ls", "readlink", "pwd", "basename", "dirname", "head", "tail", "seq", "wc", "env", "kill"]

/-- The files that every host has. -/
def systemNodes : List (Place × FileNode) :=
  [(["bin"], .directory), (["dev"], .directory), (["dev", "null"], .sink), (["proc"], .directory), (["tmp"], .directory),
   (["usr"], .directory), (["usr", "bin"], .directory)] ++
    programNames.flatMap fun name => [(["bin", name], .program), (["usr", "bin", name], .program)]

end StagedLaunch.Host
