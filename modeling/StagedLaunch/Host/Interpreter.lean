import StagedLaunch.Host.Builtin

/-!
# Interpreting scripts

A shell goes on step by step: `stepShell` does what is on top of its frames. Commands in the background, in parentheses and
in substitutions run in processes of their own, as programs do.
-/

namespace StagedLaunch.Host

open Script

/-- The words whose failure ends a shell and whose assignments stay. -/
def isSpecialBuiltin (name : String) : Bool :=
  [":", "exit", "return", "break", "continue", "trap", "shift", "set", "export", "readonly", "unset", "eval", ".",
   "exec"].contains name

/-- Runs a command with its arguments; descriptors are redirected and assignments carried out. -/
def invoke (h : Host) (p : Process) (s : ShellState) (line : Nat) (argv : List String) : Host :=
  match argv with
  | [] => h.putShell p.pid s
  | name :: args =>
    match s.functions.lookup name with
    | some body =>
      h.putShell p.pid (withFrames { s with vars := { s.vars with args := args } } [.run body, .leave s.vars.args])
    | none =>
      if name == "command" then
        match args with
        | [] => h.putShell p.pid (withStatus s 0)
        | "-v" :: what :: _ =>
          if builtins.contains what then (h.writeTo p.fds 1 (Utf8.encode (what ++ "\n"))).putShell p.pid (withStatus s 0)
          else
            match findProgram (h.filesFrom p.cwd) s.vars.environment what with
            | .ok (path, _) => (h.writeTo p.fds 1 (Utf8.encode (path ++ "\n"))).putShell p.pid (withStatus s 0)
            | .error _ => h.putShell p.pid (withStatus s 127)
        | name :: args => run name args
      else run name args
where
  /-- Runs a word that is built in, or a program. -/
  run (name : String) (args : List String) : Host :=
    if builtins.contains name then h.builtin p s line name args
    else
      match load (h.filesFrom p.cwd) s.vars.environment true name args with
      | .error e =>
        let (text, status) := notRun name e
        (h.complain p s line text).putShell p.pid (withStatus s status)
      | .ok l =>
        let (pid, h) := h.spawnFrom p l.name p.fds fun _ => .program l.utility l.argv s.vars.environment
        h.putShell p.pid { s with waiting := .child pid }

/-- A word came from a command substitution. -/
def isSubstituted (word : Word) : Bool :=
  word.any fun part =>
    match part with
    | .expanded _ _ => true
    | _ => false

/-- Starts a command substitution, whose output takes its place in a command. -/
def substitute (h : Host) (p : Process) (s : ShellState) (source : List Char) (inQuotes : Bool) (put : Part → Command) :
    Host :=
  let (n, h) := h.addBuffer []
  let program := programOf source
  let body := match program.error with
    | none => Command.sequence program.body
    | some _ => .simple 1 [] [[.literal "exit".toList], [.literal "2".toList]] []
  let (pid, h) := h.fork p s (setFd p.fds 1 (some (.buffer n))) body
  h.putShell p.pid (withFrames { s with waiting := .child pid } [.collect n fun cs => put (.expanded cs inQuotes)])

/-- The first command substitution in assignments. -/
def substitutionInAssigns? : List (String × Word) → Option (List Char × Bool × (Part → List (String × Word)))
  | [] => none
  | (name, word) :: rest =>
    match substitution? word with
    | some (source, inQuotes, put) => some (source, inQuotes, fun p => (name, put p) :: rest)
    | none =>
      (substitutionInAssigns? rest).map fun (source, inQuotes, put) => (source, inQuotes, fun p => (name, word) :: put p)

/-- The first command substitution in redirections. -/
def substitutionInRedirects? : List Redirect → Option (List Char × Bool × (Part → List Redirect))
  | [] => none
  | r :: rest =>
    match substitution? r.target with
    | some (source, inQuotes, put) => some (source, inQuotes, fun p => { r with target := put p } :: rest)
    | none =>
      (substitutionInRedirects? rest).map fun (source, inQuotes, put) => (source, inQuotes, fun p => r :: put p)

/-- Runs a simple command without command substitutions. -/
def runSimple (h : Host) (p : Process) (s : ShellState) (line : Nat) (assigns : List (String × Word)) (words : List Word)
    (redirects : List Redirect) : Host :=
  match (expandWords (h.filesFrom p.cwd) words).run s.vars with
  | .error e => (h.complain p s line e).putShell p.pid (leaving s 2)
  | .ok (argv, v) =>
    match redirect p redirects h v p.fds with
    | .error e =>
      let special := argv.head?.any isSpecialBuiltin
      (h.complain p s line e).putShell p.pid (if special then leaving s 2 else withStatus s 2)
    | .ok (fds, h, v) =>
      match (assignAll assigns).run v with
      | .error e => (h.complain p s line e).putShell p.pid (leaving s 2)
      | .ok ((), assigned) =>
        if argv.isEmpty then
          let status := if assigns.any fun a => isSubstituted a.2 then s.vars.status else 0
          h.putShell p.pid (withStatus { s with vars := assigned } status)
        else
          let names := assigns.map Prod.fst
          let exported := names.foldl Variables.markExported assigned
          let stays := (argv.head?.any isSpecialBuiltin) || assigns.isEmpty
          let s' : ShellState :=
            if stays then { s with vars := assigned }
            else
              withFrames { s with vars := exported } [.undo (names.map fun n => (n, s.vars.get? n))]
          let s' := if redirects.isEmpty || argv == ["exec"] then s' else withFrames s' [.restore p.fds]
          let p' := { p with fds := fds }
          (h.update p.pid fun p => { p with fds := fds }).invoke p' s' line argv

/-- Runs a command. -/
def runCommand (h : Host) (p : Process) (s : ShellState) (c : Command) : Host :=
  match c with
  | .simple line assigns words redirects =>
    match substitutionAmong? words with
    | some (source, q, put) => h.substitute p s source q fun part => .simple line assigns (put part) redirects
    | none =>
      match substitutionInAssigns? assigns with
      | some (source, q, put) => h.substitute p s source q fun part => .simple line (put part) words redirects
      | none =>
        match substitutionInRedirects? redirects with
        | some (source, q, put) => h.substitute p s source q fun part => .simple line assigns words (put part)
        | none => h.runSimple p s line assigns words redirects
  | .pipeline negated parts =>
    let after := if negated then [Frame.negate] else []
    match parts with
    | [part] => h.putShell p.pid (withFrames s (.run part :: after))
    | _ => h.putShell p.pid (withFrames s (.pipeline parts ((p.fds.lookup 0).getD .null) :: after))
  | .both a b => h.putShell p.pid (withFrames s [.run a, .andThen b])
  | .either a b => h.putShell p.pid (withFrames s [.run a, .orElse b])
  | .sequence [] => h.putShell p.pid (withStatus s 0)
  | .sequence cs => h.putShell p.pid (withFrames s (cs.map .run))
  | .background body =>
    let (pid, h) := h.fork p s (setFd p.fds 0 (some .null)) body
    let h := h.update pid fun q => { q with ignored := [.interrupt, .quit] ++ q.ignored }
    h.putShell p.pid (withStatus { s with vars := { s.vars with lastBackground := some pid } } 0)
  | .subshell body =>
    let (pid, h) := h.fork p s p.fds body
    h.putShell p.pid { s with waiting := .child pid }
  | .branch condition yes no => h.putShell p.pid (withFrames s [.run condition, .branch yes no])
  | .loop negated condition body => h.putShell p.pid (withFrames (withStatus s 0) [.loop negated condition body])
  | .each name words body =>
    match words with
    | none => h.putShell p.pid (withFrames (withStatus s 0) [.each name s.vars.args body])
    | some words =>
      match substitutionAmong? words with
      | some (source, q, put) => h.substitute p s source q fun part => .each name (some (put part)) body
      | none =>
        match (expandWords (h.filesFrom p.cwd) words).run s.vars with
        | .error e => (h.complain p s 1 e).putShell p.pid (leaving s 2)
        | .ok (texts, v) =>
          h.putShell p.pid (withFrames (withStatus { s with vars := v } 0) [.each name texts body])
  | .select word items =>
    match substitution? word with
    | some (source, q, put) => h.substitute p s source q fun part => .select (put part) items
    | none =>
      match (do
        let text ← textOf word
        let chosen ← items.findM? fun item =>
          item.1.anyM fun pattern => return isWildcardMatch (patternOf (← atoms pattern)) text.toList
        return chosen : Expander _).run s.vars with
      | .error e => (h.complain p s 1 e).putShell p.pid (leaving s 2)
      | .ok (some item, v) => h.putShell p.pid (withFrames (withStatus { s with vars := v } 0) [.run item.2])
      | .ok (none, v) => h.putShell p.pid (withStatus { s with vars := v } 0)
  | .define name body =>
    h.putShell p.pid (withStatus { s with functions := (name, body) :: s.functions.filter (·.1 != name) } 0)
  | .redirected line body redirects =>
    match substitutionInRedirects? redirects with
    | some (source, q, put) => h.substitute p s source q fun part => .redirected line body (put part)
    | none =>
      match redirect p redirects h s.vars p.fds with
      | .error e => (h.complain p s line e).putShell p.pid (withStatus s 2)
      | .ok (fds, h, v) =>
        h.update p.pid fun p =>
          { p with fds := fds, task := .shell (withFrames { s with vars := v } [.run body, .restore p.fds]) }

/-- The status of the last command is looked at, so that its failure ends nothing. -/
def isTested (s : ShellState) : Bool :=
  s.frames.any fun f =>
    match f with
    | .andThen _ | .orElse _ | .negate | .branch .. | .test .. => true
    | _ => false

/-- Does what the first frame says. -/
def stepFrame (h : Host) (p : Process) (s : ShellState) (f : Frame) : Host :=
  let success := s.vars.status == 0
  let goes (s : ShellState) : Host := h.putShell p.pid s
  match f with
  | .run c => h.runCommand p s c
  | .andThen c => goes (if success then withFrames s [.run c] else s)
  | .orElse c => goes (if success then s else withFrames s [.run c])
  | .negate => goes (withStatus s (if success then 1 else 0))
  | .branch yes no => goes (withFrames s [.run (if success then yes else no)])
  | .loop negated condition body =>
    goes (withFrames s [.run condition, .test negated condition body s.vars.status])
  | .test negated condition body last =>
    if success != negated then goes (withFrames s [.run body, .loop negated condition body])
    else goes (withStatus s last)
  | .each _ [] _ => goes s
  | .each name (word :: rest) body =>
    goes (withFrames { s with vars := s.vars.set name word } [.run body, .each name rest body])
  | .pipeline [] _ => goes s
  | .pipeline (part :: rest) input =>
    let fds := setFd p.fds 0 (some input)
    match rest with
    | [] =>
      let (pid, h) := h.fork p s fds part
      h.putShell p.pid { s with waiting := .child pid }
    | _ =>
      let (n, h) := h.addBuffer []
      let (pid, h) := h.fork p s (setFd fds 1 (some (.buffer n))) part
      h.putShell p.pid (withFrames { s with waiting := .child pid } [.pipeline rest (.buffer n)])
  | .collect n next =>
    let text := withoutLineEnds (Utf8.decodeLossy ((h.buffers.lookup n).getD [])).toList
    { h with buffers := h.buffers.filter (·.1 != n) }.putShell p.pid (withFrames s [.run (next text)])
  | .restore fds => h.update p.pid fun p => { p with fds := fds, task := .shell s }
  | .undo values =>
    goes { s with vars := values.foldl (fun v e =>
      match e.2 with
      | some value => v.set e.1 value
      | none => v.unset e.1) s.vars }
  | .leave args => goes { s with vars := { s.vars with args := args } }
  | .resume status => goes (withStatus s status)

/-- Runs the action for a signal, or for the exit; the status is put back after it. -/
def runAction (h : Host) (p : Process) (s : ShellState) (action : String) (status : Nat) : Host :=
  let program := programOf action.toList
  h.putShell p.pid (withFrames s (programFrames program ++ [.resume status]))

/-- One step of a shell that does not wait. -/
def stepShell (h : Host) (p : Process) (s : ShellState) : Host :=
  match s.caught with
  | signal :: rest =>
    h.runAction p { s with caught := rest } ((s.traps.lookup signal.number).getD "") s.vars.status
  | [] =>
    match s.frames with
    | f :: rest =>
      let stops := s.stopsOnError && s.vars.status != 0 && !isTested s &&
        (match f with | .run _ | .restore _ | .leave _ | .each .. | .loop .. => true | _ => false)
      if stops then h.putShell p.pid (leaving s s.vars.status) else h.stepFrame p { s with frames := rest } f
    | [] =>
      match s.traps.lookup 0 with
      | some action => h.runAction p { s with traps := s.traps.filter (·.1 != 0) } action s.vars.status
      | none => h.finish p.pid (.exited s.vars.status.toUInt8)

/-- A process that a shell waits for has ended, or there is no such process. -/
def hasEnded (h : Host) (pid : Nat) : Bool := ((h.find? pid).map fun p => p.status.isSome).getD true

/-- Takes the exits of processes in the background: the host after it, and the status of the last one. -/
def takeAll (h : Host) (pids : List Nat) (status : Nat) : Host × Nat :=
  pids.foldl (fun (h, status) pid =>
    match h.take pid with
    | (some exit, h) => (h, shellStatus exit)
    | (none, h) => (h, status)) (h, status)

/-- A shell that waits goes on when it can. -/
def stepWaiting (h : Host) (p : Process) (s : ShellState) : Host :=
  match s.waiting with
  | .nothing => h.stepShell p s
  | .child pid =>
    let (exit, h) := h.take pid
    let s := { s with waiting := .nothing }
    if s.interrupted then h.finish p.pid (.killed .interrupt)
    else h.putShell p.pid (withStatus s ((exit.map shellStatus).getD 0))
  | .jobs pids =>
    match s.caught with
    | signal :: _ => h.putShell p.pid (withStatus { s with waiting := .nothing } (128 + signal.number))
    | [] =>
      let (h, status) := h.takeAll pids 0
      h.putShell p.pid (withStatus { s with waiting := .nothing } status)

end StagedLaunch.Host
