import StagedLaunch.OsError
import StagedLaunch.Text.Path
import StagedLaunch.Text.Utf8

/-!
# A file tree

Directories and files by their place, and a working directory from which relative paths start. There are no symbolic links.
Paths are walked component by component as the system walks them: every component but the last must be a directory, a slash
at the end asks for a directory, and `..` leads to the directory above. Directories and files can be locked, which keeps new
names out of the former and bytes out of the latter; a path finds its way through them all the same.
-/

namespace StagedLaunch

/-- What stands at a place in a file tree. -/
inductive FileNode where
  /-- A directory. -/
  | directory
  /-- A file with its bytes; `executable` allows it to be run. -/
  | file (bytes : List UInt8) (executable : Bool)
  /-- A file that swallows what is written to it and holds nothing. -/
  | sink
  /-- A program of the system, which runs without being read. -/
  | program
deriving DecidableEq, Repr

/-- What stands at a place once a file was opened for writing there: an empty one, which can be run if it could before. -/
def FileNode.opened : Option FileNode → FileNode
  | none => .file [] false
  | some (.file _ executable) => .file [] executable
  | some .program => .file [] true
  | some node => node

/-- A place in a file tree: the names on the way from the root. -/
abbrev Place := List String

/-- A file tree. -/
@[ext]
structure FileTree where
  /-- The working directory. -/
  cwd : Place
  /-- What stands where. The root is not listed. -/
  nodes : List (Place × FileNode)
  /-- The places that cannot be written to: no new name in a directory, no bytes in a file. -/
  locked : List Place
deriving DecidableEq, Repr

namespace FileTree

/-- What stands at a place. -/
def at? (t : FileTree) (p : Place) : Option FileNode :=
  if p.isEmpty then some .directory else t.nodes.lookup p

/-- Puts something at a place. -/
def set (t : FileTree) (p : Place) (node : FileNode) : FileTree :=
  if (t.at? p).isSome then { t with nodes := t.nodes.map fun e => if e.1 == p then (p, node) else e }
  else { t with nodes := t.nodes ++ [(p, node)] }

/-- Takes away what stands at a place and below it. -/
def removeBelow (t : FileTree) (p : Place) : FileTree :=
  { t with
    nodes := t.nodes.filter fun e => !p.isPrefixOf e.1
    locked := t.locked.filter fun q => !p.isPrefixOf q }

/-- Nothing can be put at a place: it is locked itself or, where nothing stands yet, the directory around it is. -/
def isLocked (t : FileTree) (p : Place) : Bool :=
  t.locked.contains (if (t.at? p).isSome then p else p.dropLast)

/-- Where a path leads: to a directory that is named without its own name, or to a name in a directory. -/
inductive Target where
  /-- A directory. -/
  | directory (p : Place)
  /-- A name in a directory; `slash` says that a slash follows it. -/
  | entry (dir : Place) (name : String) (slash : Bool)
deriving DecidableEq, Repr

/-- A name is longer than a file system takes. -/
def isLong (name : String) : Bool := 255 < Path.byteSize name

/-- Goes into a directory by its name. -/
def enter (t : FileTree) (dir : Place) (name : String) : Except OsError Place :=
  if isLong name then .error .nameTooLong
  else
    match t.at? (dir ++ [name]) with
    | some .directory => .ok (dir ++ [name])
    | some _ => .error .notDirectory
    | none => .error .notFound

/-- Walks the components of a path from a directory. -/
def walk (t : FileTree) (dir : Place) : List String → Except OsError Target
  | [] => .ok (.directory dir)
  | name :: rest =>
    if name == "" || name == "." then walk t dir rest
    else if name == ".." then walk t dir.dropLast rest
    else if rest.all (· == "") then
      if isLong name then .error .nameTooLong else .ok (.entry dir name !rest.isEmpty)
    else
      match t.enter dir name with
      | .ok dir => walk t dir rest
      | .error e => .error e

/-- Where a path leads. -/
def target (t : FileTree) (path : String) : Except OsError Target :=
  if path.toList.contains '\x00' then .error .nulInPath
  else if path.isEmpty then .error .notFound
  else if 4096 ≤ Path.byteSize path then .error .nameTooLong
  else walk t (if Path.isAbsolute path then [] else t.cwd) (Path.parts path)

/-- What a path names, with its place. -/
def find (t : FileTree) (path : String) : Except OsError (Place × FileNode) :=
  match t.target path with
  | .error e => .error e
  | .ok (.directory p) => .ok (p, .directory)
  | .ok (.entry dir name slash) =>
    match t.at? (dir ++ [name]) with
    | none => .error .notFound
    | some .directory => .ok (dir ++ [name], .directory)
    | some node => if slash then .error .notDirectory else .ok (dir ++ [name], node)

/-- A path names something. -/
def contains (t : FileTree) (path : String) : Bool := (t.find path).isOk

/-- A path names a directory. -/
def isDirectory (t : FileTree) (path : String) : Bool :=
  match t.find path with
  | .ok (_, .directory) => true
  | _ => false

/-- A path names a regular file. -/
def isFile (t : FileTree) (path : String) : Bool :=
  match t.find path with
  | .ok (_, .file _ _) => true
  | .ok (_, .program) => true
  | _ => false

/-- The bytes of a file. -/
def read (t : FileTree) (path : String) : Except OsError (List UInt8) :=
  match t.find path with
  | .error e => .error e
  | .ok (_, .directory) => .error .isDirectory
  | .ok (_, .file bytes _) => .ok bytes
  | .ok (_, .sink) => .ok []
  | .ok (_, .program) => .ok []

/-- The text of a file. -/
def readText (t : FileTree) (path : String) : Except OsError String :=
  match t.read path with
  | .error e => .error e
  | .ok bytes =>
    match Utf8.decode? bytes with
    | some text => .ok text
    | none => .error .notText

/-- Makes one directory. -/
def makeDirectory (t : FileTree) (path : String) : Except OsError FileTree :=
  match t.target path with
  | .error e => .error e
  | .ok (.directory _) => .error .fileExists
  | .ok (.entry dir name _) =>
    if (t.at? (dir ++ [name])).isSome then .error .fileExists
    else if t.isLocked (dir ++ [name]) then .error .denied
    else .ok (t.set (dir ++ [name]) .directory)

/-- Makes the first directory of a list after those that follow it; the list holds a path and those of the directories above
it. A directory that exists is left as it is. -/
def makeAll (t : FileTree) : List String → Except OsError Unit × FileTree
  | [] => (.error (.refused "failed to create whole tree"), t)
  | path :: above =>
    if path.isEmpty then (.ok (), t)
    else
      match t.makeDirectory path with
      | .ok t => (.ok (), t)
      | .error e =>
        if e == .notFound then
          match makeAll t above with
          | (.error e, t) => (.error e, t)
          | (.ok (), t) =>
            match t.makeDirectory path with
            | .ok t => (.ok (), t)
            | .error e => if t.isDirectory path then (.ok (), t) else (.error e, t)
        else if t.isDirectory path then (.ok (), t)
        else (.error e, t)

/-- A path and those of the directories above it, at most `fuel` of them. -/
def ancestors (fuel : Nat) (path : String) : List String :=
  match fuel with
  | 0 => [path]
  | fuel + 1 =>
    match Path.parent? path with
    | some p => path :: ancestors fuel p
    | none => [path]

/-- Makes a directory and those above it that are missing. -/
def makeDirectories (t : FileTree) (path : String) : Except OsError Unit × FileTree :=
  t.makeAll (ancestors path.length path)

/-- Opens a file for writing: makes it if it is missing and empties it otherwise. Gives its place. -/
def create (t : FileTree) (path : String) : Except OsError (Place × FileTree) :=
  match t.target path with
  | .error e => .error e
  | .ok (.directory _) => .error .isDirectory
  | .ok (.entry dir name slash) =>
    let p := dir ++ [name]
    if slash || t.at? p == some .directory then .error .isDirectory
    else if t.isLocked p then .error .denied
    else .ok (p, t.set p (FileNode.opened (t.at? p)))

/-- Adds bytes to the end of a file; anything else stays as it is. -/
def append (t : FileTree) (p : Place) (bytes : List UInt8) : FileTree :=
  match t.at? p with
  | some (.file old executable) => t.set p (.file (old ++ bytes) executable)
  | _ => t

/-- Writes a file with the directories above it, whatever stood there. -/
def write (t : FileTree) (path : String) (bytes : List UInt8) (executable : Bool) : FileTree :=
  let t := ((Path.parent? path).map fun p => (t.makeDirectories p).2).getD t
  match t.create path with
  | .ok (p, t) => t.set p (.file bytes executable)
  | .error _ => t

/-- What stands below the working directory, by path; the path of a directory ends in a slash. -/
def listing (t : FileTree) : List (String × Option String) :=
  t.nodes.filterMap fun e =>
    if t.cwd.isPrefixOf e.1 && e.1 != t.cwd then
      let path := String.intercalate "/" (e.1.drop t.cwd.length)
      match e.2 with
      | .directory => some (path ++ "/", none)
      | .file bytes _ => some (path, some (Utf8.decodeLossy bytes))
      | _ => some (path, some "")
    else none

/-- The text of a file for people: bytes that are not text are replaced, and a file that cannot be read has none. -/
def show? (t : FileTree) (path : String) : Option String :=
  match t.read path with
  | .ok bytes => some (Utf8.decodeLossy bytes)
  | .error _ => none

end FileTree

end StagedLaunch
