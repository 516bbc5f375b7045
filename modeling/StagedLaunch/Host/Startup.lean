import StagedLaunch.Host.Interpreter

/-!
# Starting programs

What a process does when its program starts: the shell reads its script, `sleep` begins to sleep, and the other programs of
the system do all they do at once.
-/

namespace StagedLaunch.Host

open Script

/-- The options of a shell at its start: its letters, and the arguments after them. -/
def shellOptions : List String → List Char × List String
  | "--" :: rest => ([], rest)
  | "-" :: rest => ([], rest)
  | word :: rest =>
    if word.startsWith "-" && !word.startsWith "--" then
      let (letters, rest) := shellOptions rest
      (word.toList.drop 1 ++ letters, rest)
    else ([], word :: rest)
  | [] => ([], [])

/-- Starts a shell in a process. -/
def startShell (h : Host) (p : Process) (argv : List String) (environment : List (String × String)) : Host :=
  let zero := argv.headD "sh"
  let (letters, rest) := shellOptions (argv.drop 1)
  let begin (zero : String) (args : List String) (text : List Char) : Host :=
    let program := programOf text
    let s : ShellState := { freshShell p.pid zero args environment with stopsOnError := letters.contains 'e' }
    let failure := match program.error with
      | some (line, e) =>
        [Frame.run (.redirected line (.simple line [] [[.literal "echo".toList],
            [.quoted s!"{zero}: {line}: {e.message}".toList]] [])
          [⟨1, .copy, [.literal ['2']]⟩]), .run (.simple line [] [[.literal "exit".toList], [.literal ['2']]] [])]
      | none => []
    h.putShell p.pid (withFrames s (programFrames program ++ failure))
  if letters.contains 'c' then
    match rest with
    | text :: more => begin (more.headD zero) (more.drop 1) text.toList
    | [] =>
      (h.writeTo p.fds 2 (Utf8.encode s!"{zero}: 0: -c requires an argument\n")).finish p.pid (.exited 2)
  else
    match rest with
    | path :: more =>
      match h.readFile p path with
      | .ok bytes => begin path more (Utf8.decodeLossy bytes).toList
      | .error _ =>
        (h.writeTo p.fds 2 (Utf8.encode s!"{zero}: 0: cannot open {path}: No such file\n")).finish p.pid (.exited 2)
    | [] =>
      let stream := p.fds.lookup 0
      let text := (Utf8.decodeLossy (h.input stream)).toList
      let h := h.setInput stream []
      let program := programOf text
      h.putShell p.pid (withFrames (freshShell p.pid zero [] environment) (programFrames program))

/-- The milliseconds that an argument of `sleep` stands for; a part of a millisecond counts as one. -/
def sleepTime? (word : String) : Option Nat :=
  let cs := word.toList
  let scaled := match cs.getLast? with
    | some 's' => (cs.dropLast, 1000)
    | some 'm' => (cs.dropLast, 60000)
    | some 'h' => (cs.dropLast, 3600000)
    | some 'd' => (cs.dropLast, 86400000)
    | _ => (cs, 1000)
  let whole := scaled.1.takeWhile Char.isDigit
  let rest := scaled.1.drop whole.length
  let fraction := match rest with
    | '.' :: rest => rest
    | _ => rest
  if (whole.isEmpty && fraction.isEmpty) || !fraction.all Char.isDigit then none
  else
    let digits := (readDigits 10 (whole ++ fraction)).getD 0
    let unit := Nat.pow 10 fraction.length
    some ((digits * scaled.2 + unit - 1) / unit)

/-- Runs a program of the system in a process. -/
def runProgram (h : Host) (p : Process) (name : String) (argv : List String)
    (environment : List (String × String)) : Host :=
  let args := argv.drop 1
  match name with
  | "sh" | "dash" | "bash" => h.startShell p argv environment
  | "sleep" =>
    if args == ["infinity"] then h.update p.pid fun p => { p with task := .sleep none }
    else
      match args.mapM sleepTime? with
      | some (t :: ts) => h.update p.pid fun p => { p with task := .sleep (some (h.now + ts.foldl (· + ·) t)) }
      | _ => (h.writeTo p.fds 2 (Utf8.encode "sleep: invalid time interval\n")).finish p.pid (.exited 1)
  | "kill" =>
    match killArguments? args with
    | some (number, targets) =>
      let (ok, h) := h.killAll p.group number targets
      h.finish p.pid (.exited (if ok then 0 else 1))
    | none => h.finish p.pid (.exited 1)
  | "env" =>
    let isAssignment (s : String) : Bool := s.toList.contains '='
    match args.dropWhile isAssignment with
    | [] =>
      let call := h.callOf p args (environment ++ [])
      match utility? name call with
      | some e => (h.perform p e).finish p.pid (.exited e.status.toUInt8)
      | none => h.finish p.pid (.exited 0)
    | program :: rest =>
      let given := (args.takeWhile isAssignment).map fun word =>
        let name := word.toList.takeWhile (· != '=')
        (String.ofList name, String.ofList (word.toList.drop (name.length + 1)))
      let environment := given ++ environment.filter fun v => !(given.map Prod.fst).contains v.1
      match load (h.filesFrom p.cwd) environment true program rest with
      | .ok l => h.become p l environment
      | .error e =>
        let (text, status) := notRun program e
        (h.writeTo p.fds 2 (Utf8.encode s!"env: {text}\n")).finish p.pid (.exited status.toUInt8)
  | _ =>
    match utility? name (h.callOf p args environment) with
    | some e => (h.perform p e).finish p.pid (.exited e.status.toUInt8)
    | none => h.finish p.pid (.exited 127)

end StagedLaunch.Host
