import StagedLaunch.Host.Utility

/-!
# Finding and loading programs

A program without a slash in its name is looked for along the path. A file that begins with `#!` is run by the interpreter
named there; any other text is no program of its own, and only some callers give it to the shell.
-/

namespace StagedLaunch.Host

/-- A program that can be run. -/
structure Loaded where
  /-- The name of the program of the system that runs. -/
  utility : String
  /-- The name of the process. -/
  name : String
  /-- The arguments with the program's own name before them. -/
  argv : List String
deriving DecidableEq, Repr

/-- The directories along the path. -/
def searchPath (environment : List (String × String)) : List String :=
  ((environment.lookup "PATH").getD "/bin:/usr/bin").splitOn ":"

/-- A node can be run. -/
def isRunnableNode : FileNode → Bool
  | .program => true
  | .file _ executable => executable
  | _ => false

/-- A path names a file that can be run. -/
def findExecutable (t : FileTree) (path : String) : Except OsError (Place × FileNode) :=
  match t.find path with
  | .error e => .error e
  | .ok (p, node) => if isRunnableNode node then .ok (p, node) else .error .denied

/-- Looks for a program in directories. That one was found which cannot be run is remembered. -/
def searchIn (t : FileTree) (name : String) (seen : OsError) : List String → Except OsError (String × Place × FileNode)
  | [] => .error seen
  | dir :: rest =>
    let path := Path.join dir name
    match findExecutable t path with
    | .ok (p, node) => .ok (path, p, node)
    | .error e => searchIn t name (if e == .denied then .denied else seen) rest

/-- Looks for a program by its name or path. -/
def findProgram (t : FileTree) (environment : List (String × String)) (program : String) :
    Except OsError (String × Place × FileNode) :=
  if program.isEmpty then .error .notFound
  else if program.toList.contains '/' then (findExecutable t program).map fun r => (program, r)
  else if FileTree.isLong program then .error .nameTooLong
  else searchIn t program .notFound (searchPath environment)

/-- The interpreter that a file names, with the argument that it is to get. -/
def interpreterOf? (bytes : List UInt8) : Option (String × Option String) :=
  match bytes with
  | 35 :: 33 :: rest =>
    let line := (Utf8.decodeLossy (rest.takeWhile (· != 10))).toList
    let isGap (c : Char) : Bool := c == ' ' || c == '\t'
    let line := ((line.dropWhile isGap).reverse.dropWhile isGap).reverse
    let program := line.takeWhile fun c => !isGap c
    let argument := (line.drop program.length).dropWhile isGap
    if program.isEmpty then none
    else some (String.ofList program, if argument.isEmpty then none else some (String.ofList argument))
  | _ => none

/-- Loads a file with arguments; `fuel` bounds the interpreters that are themselves interpreted. `byShell` says that a text
without an interpreter is given to the shell. -/
def loadNode (t : FileTree) (byShell : Bool) (fuel : Nat) (path : String) (p : Place) (node : FileNode)
    (argv : List String) : Except OsError Loaded :=
  let name := p.getLast?.getD ""
  match node with
  | .program => .ok ⟨name, name, argv⟩
  | .file bytes _ =>
    match fuel, interpreterOf? bytes with
    | 0, _ => .error (.code 40)
    | fuel + 1, some (program, argument) =>
      match findExecutable t program with
      | .error e => .error e
      | .ok (q, interpreter) =>
        match loadNode t false fuel program q interpreter ([program] ++ argument.toList ++ [path] ++ argv.drop 1) with
        | .error e => .error e
        | .ok l => .ok { l with name := name }
    | _ + 1, none =>
      if byShell then .ok ⟨"sh", "sh", ["/bin/sh", path] ++ argv.drop 1⟩ else .error .notExecutable
  | _ => .error .denied

/-- The length of an argument that is too long. -/
def argumentLimit : Nat := 131072

/-- The length of all arguments together that is too long. -/
def argumentsLimit : Nat := 2097152

/-- Loads a program with its arguments. -/
def load (t : FileTree) (environment : List (String × String)) (byShell : Bool) (program : String) (args : List String) :
    Except OsError Loaded :=
  if (program :: args).any fun s => s.toList.contains '\x00' then .error .nulInCommand
  else
    match findProgram t environment program with
    | .error e => .error e
    | .ok (path, p, node) =>
      let sizes := (program :: args).map fun s => s.utf8ByteSize + 1
      if sizes.any (argumentLimit < ·) || argumentsLimit < sizes.foldl (· + ·) 0 then .error .tooLong
      else loadNode t byShell 5 path p node (program :: args)

end StagedLaunch.Host
