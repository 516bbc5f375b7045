import StagedLaunch.Host.Shell
import StagedLaunch.Script.Expansion

/-!
# Descriptors

What a process finds at its descriptors and in the files that the system keeps about processes, and how redirections change
where its descriptors lead.
-/

namespace StagedLaunch.Host

open Script

/-- Where a descriptor of a process leads, by the path that links to it. -/
def linkOf? (p : Process) (path : String) : Option String :=
  let dirs := ["/proc/self/fd/", s!"/proc/{p.pid}/fd/", "/dev/fd/"]
  match dirs.findSome? fun dir => if path.startsWith dir then (path.drop dir.length).toString.toNat? else none with
  | none => none
  | some fd =>
    (p.fds.lookup fd).map fun stream =>
      match stream with
      | .null => "/dev/null"
      | .terminal => "/dev/pts/0"
      | .file place => "/" ++ String.intercalate "/" place
      | .buffer n => s!"pipe:[{n}]"

/-- The line that the system keeps about a process. -/
def statOf (p : Process) : String :=
  let keeper := match p.keeper with
    | .process pid => pid
    | _ => 1
  let letter := if p.status.isSome then "Z" else if p.halted then "T" else "S"
  s!"{p.pid} ({p.name}) {letter} {keeper} {p.group} {p.group} 0 -1 0 0 0 0 0 0 0 0 0 20 0 1 0 0 0 0\n"

/-- Reads a file as a process sees it. -/
def readFile (h : Host) (p : Process) (path : String) : Except OsError (List UInt8) :=
  let self := Path.parts path
  match self with
  | ["", "proc", who, "stat"] =>
    match (if who == "self" then some p.pid else who.toNat?).bind h.find? with
    | some q => .ok (Utf8.encode (statOf q))
    | none => .error .notFound
  | ["", "proc", who, "comm"] =>
    match (if who == "self" then some p.pid else who.toNat?).bind h.find? with
    | some q => .ok (Utf8.encode (q.name ++ "\n"))
    | none => .error .notFound
  | ["", "dev", "stdin"] => .ok (h.input (p.fds.lookup 0))
  | _ => (h.filesFrom p.cwd).read path

/-- What a program of the system works with when a process runs it. -/
def callOf (h : Host) (p : Process) (args : List String) (environment : List (String × String)) : Call where
  args := args
  files := h.filesFrom p.cwd
  input := h.input (p.fds.lookup 0)
  read := h.readFile p
  link? := linkOf? p
  environment := environment

/-- Carries out what a program has done. -/
def perform (h : Host) (p : Process) (e : Effect) : Host :=
  (((h.putFiles e.files).setInput (p.fds.lookup 0) e.input).writeTo p.fds 1 e.out).writeTo p.fds 2 e.err

/-- The target of a redirection, opened: the stream and the files after it. -/
def openTarget (h : Host) (p : Process) (fds : List (Nat × Stream)) (mode : RedirectMode) (target : String) :
    Except String (Option Stream × Host) :=
  let t := h.filesFrom p.cwd
  let named := match target with
    | "/dev/stdin" => fds.lookup 0
    | "/dev/stdout" => fds.lookup 1
    | "/dev/stderr" => fds.lookup 2
    | _ => none
  match mode, named with
  | .copy, _ =>
    if target == "-" then .ok (none, h)
    else
      match target.toNat?.bind fun n => fds.lookup n with
      | some stream => .ok (some stream, h)
      | none => .error s!"{target}: Bad file descriptor"
  | _, some stream => .ok (some stream, h)
  | .read, none =>
    if t.find target matches .ok (_, .sink) then .ok (some .null, h)
    else
      match h.readFile p target with
      | .ok bytes =>
        let (n, h) := h.addBuffer bytes
        .ok (some (.buffer n), h)
      | .error e => .error s!"cannot open {target}: {shortReason e}"
  | .append, none =>
    match t.find target with
    | .ok (_, .sink) => .ok (some .null, h)
    | .ok (place, .file _ _) => .ok (some (.file place), h)
    | _ => create t
  | .write, none => create t
where
  /-- What the shell says about an error. -/
  shortReason (e : OsError) : String := if e == .notFound then "No such file" else reason e
  /-- Makes the file, or empties it. -/
  create (t : FileTree) : Except String (Option Stream × Host) :=
    match t.find target, t.create target with
    | .ok (_, .sink), _ => .ok (some .null, h)
    | _, .ok (place, t) => .ok (some (.file place), h.putFiles t)
    | _, .error e =>
      .error ("cannot create " ++ target ++ ": " ++ if e == .notFound then "Directory nonexistent" else reason e)

/-- Descriptors after redirections, with the host and the variables after them. -/
def redirect (p : Process) : List Redirect → Host → Variables → List (Nat × Stream) →
    Except String (List (Nat × Stream) × Host × Variables)
  | [], h, v, fds => .ok (fds, h, v)
  | r :: rest, h, v, fds =>
    match (textOf r.target).run v with
    | .error e => .error e
    | .ok (target, v) =>
      match h.openTarget p fds r.mode target with
      | .error e => .error e
      | .ok (stream, h) => redirect p rest h v (setFd fds r.fd stream)

end StagedLaunch.Host
