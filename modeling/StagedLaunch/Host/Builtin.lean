import StagedLaunch.Host.Loading
import StagedLaunch.Host.Redirection
import StagedLaunch.Host.Words

/-!
# Words built into the shell

The commands that a shell carries out itself: those that change the shell, its traps and its loops, and those that are
programs as well.
-/

namespace StagedLaunch.Host

open Script

/-- The signal that a word names, zero standing for the exit. -/
def signalNumber? (word : String) : Option Nat :=
  match word.toNat? with
  | some n => if n ≤ 64 then some n else none
  | none =>
    let name := String.ofList (word.toList.map Char.toUpper)
    let name := if name.startsWith "SIG" then (name.drop 3).toString else name
    if name == "EXIT" then some 0 else (Signal.ofName? name).map Signal.number

/-- Sends a signal to what a word names: a process or, after a minus sign, a group. -/
def signalTarget (h : Host) (group number : Nat) (word : String) : Except OsError Unit × Host :=
  match word.toInt? with
  | none => (.error .noProcess, h)
  | some target =>
    let members := h.processes.filter fun q =>
      if target < 0 then q.group == target.natAbs else if target == 0 then q.group == group else q.pid == target.natAbs
    if number == 0 then (if members.isEmpty then .error .noProcess else .ok (), h)
    else if target < 0 then h.signalGroup target.natAbs ⟨number⟩
    else if target == 0 then h.signalGroup group ⟨number⟩
    else h.signal target.natAbs ⟨number⟩

/-- The signal and the targets that the arguments of `kill` give. -/
def killArguments? (args : List String) : Option (Nat × List String) :=
  match args with
  | "-s" :: name :: rest => (signalNumber? name).map (·, rest)
  | "--" :: rest => some (15, rest)
  | first :: rest =>
    if first.startsWith "-" then
      (signalNumber? (first.drop 1).toString).map fun n => (n, if rest.head? == some "--" then rest.drop 1 else rest)
    else some (15, args)
  | [] => none

/-- Sends signals as `kill` is asked to: whether all went well, and the host after it. -/
def killAll (h : Host) (group number : Nat) (targets : List String) : Bool × Host :=
  targets.foldl (fun (ok, h) word =>
    let (r, h) := h.signalTarget group number word
    (ok && r.isOk, h)) (true, h)

/-- The columns of a line for variables: one each, and the last one gets the rest. -/
def readColumns (separators : List Char) (count : Nat) (cs : List Char) : List String :=
  let cs := cs.dropWhile fun c => separators.contains c && c.isWhitespace
  match count with
  | 0 => []
  | 1 =>
    let cs := (cs.reverse.dropWhile fun c => separators.contains c && c.isWhitespace).reverse
    [String.ofList cs]
  | count + 1 =>
    let word := cs.takeWhile fun c => !separators.contains c
    let rest := cs.drop word.length
    let gap := rest.takeWhile fun c => separators.contains c && c.isWhitespace
    let rest := rest.drop gap.length
    let rest := match rest with
      | c :: more => if gap.isEmpty && separators.contains c then more else rest
      | [] => []
    String.ofList word :: readColumns separators count rest

/-- A line without the backslashes that protect its characters. -/
def unprotect : List Char → List Char
  | '\\' :: c :: rest => c :: unprotect rest
  | '\\' :: [] => []
  | c :: rest => c :: unprotect rest
  | [] => []

/-- What the command `read` does with its arguments. -/
def readLineInto (h : Host) (p : Process) (s : ShellState) (args : List String) : Host :=
  let raw := args.head? == some "-r"
  let names := args.dropWhile fun a => a.startsWith "-"
  let stream := p.fds.lookup 0
  let bytes := h.input stream
  let line := bytes.takeWhile (· != 10)
  let ended := line.length < bytes.length
  let h := h.setInput stream (bytes.drop (line.length + 1))
  let cs := (Utf8.decodeLossy line).toList
  let cs := if raw then cs else unprotect cs
  let vars := (names.zip (readColumns (separators s.vars) names.length cs)).foldl (fun v a => v.set a.1 a.2) s.vars
  h.putShell p.pid (withStatus { s with vars := vars } (if ended then 0 else 1))

/-- The number that an argument gives. -/
def countArgument (args : List String) (default : Nat) : Nat := (args.head?.bind String.toNat?).getD default

/-- The first argument of a word that counts, if it is not a number. -/
def notNumber? (name : String) (args : List String) : Option String :=
  if ["exit", "return", "shift", "break", "continue"].contains name then
    args.head?.filter fun a => a.isEmpty || !a.toList.all Char.isDigit
  else none

/-- Whether a frame goes on with a loop. -/
def isLoopFrame : Frame → Bool
  | .loop .. | .each .. => true
  | _ => false

/-- The descriptors that frames put back, the last ones first. -/
def restoredFds (fds : List (Nat × Stream)) (frames : List Frame) : List (Nat × Stream) :=
  frames.foldl (fun fds f => match f with | .restore old => old | _ => fds) fds

/-- The frames from the loop that is left or gone on with, and those before it. -/
def splitAtLoop (n : Nat) (passed : List Frame) : List Frame → Option (List Frame × Frame × List Frame)
  | [] => none
  | f :: rest =>
    if isLoopFrame f then
      match n with
      | 0 | 1 => some (passed.reverse, f, rest)
      | n + 1 => splitAtLoop n (f :: passed) rest
    else
      match f with
      | .leave _ => none
      | _ => splitAtLoop n (f :: passed) rest

/-- The frames after the end of the function that runs, those before it, and the arguments to put back. -/
def splitAtLeave (passed : List Frame) : List Frame → Option (List Frame × List String × List Frame)
  | [] => none
  | .leave args :: rest => some (passed.reverse, args, rest)
  | f :: rest => splitAtLeave (f :: passed) rest

/-- The words that are built into the shell. -/
def builtins : List String :=
  [":", "true", "false", "echo", "printf", "test", "[", "pwd", "exit", "return", "break", "continue", "trap", "wait", "read",
   "shift", "set", "export", "readonly", "unset", "cd", "kill", "eval", ".", "exec", "umask", "local", "command"]

/-- Sets what the shell does on signals. -/
def setTraps (h : Host) (p : Process) (s : ShellState) (action : Option String) (words : List String) : Host :=
  let numbers := words.filterMap signalNumber?
  let signals := numbers.map Signal.mk
  let kept := s.traps.filter fun t => !numbers.contains t.1
  let traps := match action with
    | some text => if text.isEmpty then kept else numbers.map (fun n => (n, text)) ++ kept
    | none => kept
  let ignored := p.ignored.filter fun sig => !signals.contains sig
  let ignored := if action == some "" then signals ++ ignored else ignored
  let status := if numbers.length == words.length then 0 else 1
  h.update p.pid fun p => { p with ignored := ignored, task := .shell (withStatus { s with traps := traps } status) }

/-- Sets options and arguments of the shell. -/
def setOptions (s : ShellState) : List String → ShellState
  | [] => s
  | "--" :: rest => { s with vars := { s.vars with args := rest } }
  | word :: rest =>
    if word.startsWith "-" && word.length > 1 then
      setOptions { s with stopsOnError := s.stopsOnError || word.toList.contains 'e' } rest
    else if word.startsWith "+" then
      setOptions { s with stopsOnError := s.stopsOnError && !word.toList.contains 'e' } rest
    else { s with vars := { s.vars with args := word :: rest } }

/-- Goes to another directory. -/
def changeDirectory (h : Host) (p : Process) (s : ShellState) (line : Nat) (args : List String) : Host :=
  let target := (args.filter (· != "-P")).headD ((s.vars.get? "HOME").getD "/")
  match (h.filesFrom p.cwd).find target with
  | .ok (place, .directory) => h.update p.pid fun p => { p with cwd := place, task := .shell (withStatus s 0) }
  | _ => (h.complain p s line s!"cd: can't cd to {target}").putShell p.pid (withStatus s 2)

/-- Marks variables as those that programs get, giving them values. -/
def exportAll (v : Variables) (words : List String) : Variables :=
  words.foldl (fun v word =>
    let name := (word.toList.takeWhile (· != '='))
    let v := if name.length < word.length
      then v.set (String.ofList name) (String.ofList (word.toList.drop (name.length + 1))) else v
    v.markExported (String.ofList name)) v

/-- Gives variables values in a function. -/
def assignWords (v : Variables) (words : List String) : Variables :=
  words.foldl (fun v word =>
    let name := word.toList.takeWhile (· != '=')
    v.set (String.ofList name) (String.ofList (word.toList.drop (name.length + 1)))) v

/-- Runs a text as commands of the shell. -/
def evalText (h : Host) (p : Process) (s : ShellState) (text : String) : Host :=
  let program := programOf text.toList
  match program.error with
  | none => h.putShell p.pid (withFrames (if program.body.isEmpty then withStatus s 0 else s) (programFrames program))
  | some (line, e) => (h.complain p s line e.message).putShell p.pid (leaving s 2)

/-- What remains of a process that turns into a program: handlers are gone, and ignored signals stay ignored. -/
def become (h : Host) (p : Process) (l : Loaded) (environment : List (String × String)) : Host :=
  h.update p.pid fun p => { p with name := l.name, task := .program l.utility l.argv environment }

/-- The word of an error when a program cannot be run, with the status of the shell. -/
def notRun (program : String) (e : OsError) : String × Nat :=
  if e == .notFound || e == .notDirectory then
    (s!"{program}: not found", 127)
  else (s!"{program}: {reason e}", 126)

/-- Runs a word that is built into the shell. The shell has gone past the command, and its descriptors are redirected. -/
def builtin (h : Host) (p : Process) (s : ShellState) (line : Nat) (name : String) (args : List String) : Host :=
  let ends (status : Nat) : Host := h.putShell p.pid (withStatus s status)
  match notNumber? name args with
  | some word => (h.complain p s line s!"{name}: Illegal number: {word}").putShell p.pid (leaving s 2)
  | none =>
  match name, args with
  | ":", _ => ends 0
  | "exit", _ => h.putShell p.pid (leaving s (countArgument args s.vars.status))
  | "return", _ =>
    let status := countArgument args s.vars.status
    match splitAtLeave [] s.frames with
    | some (passed, old, rest) =>
      h.update p.pid fun p =>
        { p with fds := restoredFds p.fds passed,
                 task := .shell (withStatus { s with frames := rest, vars := { s.vars with args := old } } status) }
    | none => h.putShell p.pid (leaving s status)
  | "break", _ =>
    match splitAtLoop (countArgument args 1) [] s.frames with
    | some (passed, _, rest) =>
      h.update p.pid fun p =>
        { p with fds := restoredFds p.fds passed, task := .shell (withStatus { s with frames := rest } 0) }
    | none => ends 0
  | "continue", _ =>
    match splitAtLoop (countArgument args 1) [] s.frames with
    | some (passed, f, rest) =>
      h.update p.pid fun p =>
        { p with fds := restoredFds p.fds passed, task := .shell (withStatus { s with frames := f :: rest } 0) }
    | none => ends 0
  | "trap", [] => ends 0
  | "trap", "-" :: words => h.setTraps p s none words
  | "trap", "--" :: action :: words => h.setTraps p s (some action) words
  | "trap", [word] => h.setTraps p s none [word]
  | "trap", action :: words =>
    if (readDigits 10 action.toList).isSome then h.setTraps p s none args else h.setTraps p s (some action) words
  | "wait", _ =>
    let mine := h.processes.filterMap fun q => if q.keeper == .process p.pid then some q.pid else none
    let pids := if args.isEmpty then mine else args.filterMap String.toNat?
    if args.isEmpty && pids.isEmpty then ends 0
    else if pids.all fun pid => !mine.contains pid then ends 127
    else h.putShell p.pid (withStatus { s with waiting := .jobs (pids.filter mine.contains) } 0)
  | "read", _ => h.readLineInto p s args
  | "shift", _ =>
    let n := countArgument args 1
    if n ≤ s.vars.args.length then
      h.putShell p.pid (withStatus { s with vars := { s.vars with args := s.vars.args.drop n } } 0)
    else (h.complain p s line "shift: can't shift that many").putShell p.pid (leaving s 2)
  | "set", _ => h.putShell p.pid (withStatus (setOptions s args) 0)
  | "export", _ | "readonly", _ => h.putShell p.pid (withStatus { s with vars := exportAll s.vars args } 0)
  | "local", _ => h.putShell p.pid (withStatus { s with vars := assignWords s.vars args } 0)
  | "unset", _ =>
    let names := args.filter fun a => !a.startsWith "-"
    h.putShell p.pid (withStatus
      { s with vars := names.foldl Variables.unset s.vars
               functions := if args.head? == some "-f" then s.functions.filter (!names.contains ·.1) else s.functions } 0)
  | "cd", _ => h.changeDirectory p s line args
  | "umask", _ => ends 0
  | "kill", _ =>
    match killArguments? args with
    | none => (h.complain p s line "kill: Illegal option").putShell p.pid (withStatus s 2)
    | some (number, targets) =>
      let (ok, h) := (h.putShell p.pid (withStatus s 0)).killAll p.group number targets
      if ok then h
      else
        let h := h.complain p s line "kill: No such process"
        h.update p.pid fun p =>
          match p.task with
          | .shell s => { p with task := .shell (withStatus s 1) }
          | _ => p
  | "eval", _ => h.evalText p s (" ".intercalate args)
  | ".", path :: _ =>
    match h.readFile p path with
    | .ok bytes => h.evalText p s (Utf8.decodeLossy bytes)
    | .error _ => (h.complain p s line s!".: cannot open {path}: No such file").putShell p.pid (leaving s 2)
  | "exec", program :: rest =>
    match load (h.filesFrom p.cwd) s.vars.environment true program rest with
    | .ok l => h.become p l s.vars.environment
    | .error e =>
      let (text, status) := notRun program e
      (h.complain p s line ("exec: " ++ text)).putShell p.pid (leaving s status)
  | "exec", [] | ".", [] => ends 0
  | "echo", _ => (h.writeTo p.fds 1 (Format.echo args)).putShell p.pid (withStatus s 0)
  | _, _ =>
    match utility? name (h.callOf p args s.vars.environment) with
    | some e => (h.perform p e).putShell p.pid (withStatus s e.status)
    | none => ends 0

end StagedLaunch.Host
