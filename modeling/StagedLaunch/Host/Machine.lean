import StagedLaunch.Host.Clock
import StagedLaunch.Machine.Basic

/-!
# A host as a machine

What a run asks of a machine, carried out on a host.
-/

namespace StagedLaunch.Host

/-- A host at the first instant with files, on which nothing runs. -/
def ofFiles (files : FileTree) (environment : List (String × String)) : Host where
  now := 0
  files := files
  processes := []
  nextPid := 101
  buffers := []
  nextBuffer := 0
  terminal := []
  udpPorts := []
  tcpPorts := []
  connected := false
  environment := ("PATH", "/usr/local/sbin:/usr/local/bin:/usr/sbin:/usr/bin:/sbin:/bin") :: environment

/-- The directories and programs that every host has, with a working directory. -/
def systemFiles (cwd : Place) : FileTree :=
  ⟨cwd, systemNodes ++ ((List.range cwd.length).map fun n => (cwd.take (n + 1), FileNode.directory)).filter (fun e =>
    !(systemNodes.map Prod.fst).contains e.1), []⟩

/-- A port in four digits of base sixteen. -/
def portDigits (port : UInt16) : String :=
  let digits := (Nat.toDigits 16 port.toNat).map Char.toUpper
  String.ofList (List.replicate (4 - digits.length) '0' ++ digits)

/-- The table of local sockets. -/
def socketTable (h : Host) : String :=
  "  sl  local_address rem_address   st tx_queue rx_queue tr tm->when retrnsmt   uid  timeout inode ref pointer drops\n" ++
    String.join (h.udpPorts.map fun port =>
      s!"    0: 0100007F:{portDigits port} 00000000:0000 07 00000000:00000000 00:00000000 00000000     0        0 1 2 0 0\n")

/-- The first process of a program that was loaded. -/
def firstProcess (h : Host) (l : Loaded) (keeper : Keeper) (group : Option Nat) (out err : Stream) (pid : Nat) :
    Process where
  pid := pid
  keeper := keeper
  group := group.getD pid
  name := l.name
  ignored := []
  halted := false
  pending := []
  fds := [(0, .null), (1, out), (2, err)]
  cwd := h.files.cwd
  task := .program l.utility l.argv h.environment
  status := none

/-- Starts a program in a group of its own. -/
def spawn (h : Host) (program : String) (args : List String) (out err : Place) : Except OsError Nat × Host :=
  match load h.files h.environment true program args with
  | .error e => (.error e, h)
  | .ok l =>
    let (pid, h) := h.add (h.firstProcess l .outside none (.file out) (.file err))
    (.ok pid, h.settle)

/-- Takes the exit of a process, if it has ended. -/
def poll (h : Host) (pid : Nat) : Except OsError (Option ExitStatus) × Host :=
  match h.find? pid with
  | none => (.error .noChild, h)
  | some p =>
    if p.keeper == .outside then
      match p.status with
      | some status => (.ok (some status), h.remove pid)
      | none => (.ok none, h)
    else (.error .noChild, h)

/-- Pieces of output with their instants, as pieces with the time since the one before. -/
def intervals (since : Nat) : List (Nat × List UInt8) → List (Nat × List UInt8)
  | [] => []
  | (t, bytes) :: rest => (t - since, bytes) :: intervals t rest

/-- The number of leaps after which a build command is given up. -/
def commandLeaps : Nat := 10000000

/-- Starts a build command and tells what will become of it. -/
def command (h : Host) (step : BuildStep) : CommandRun Host :=
  match load h.files h.environment false step.program step.args with
  | .error e => ⟨[], 0, h, .error e⟩
  | .ok l =>
    let start (keeper : Keeper) : Nat × Host :=
      let (pid, h) := { h with terminal := [] }.add (h.firstProcess l keeper (some ownGroup) .terminal .null)
      (pid, h.settle)
    let (pid, later) := start .outside
    let later := passUntilEnd pid commandLeaps later
    let output := later.terminal.reverse
    let last := ((output.getLast?.map Prod.fst).getD h.now)
    ⟨intervals h.now output, later.now - last, (start .nobody).2,
      .ok (((later.find? pid).bind Process.status).getD (.killed .kill))⟩

/-- Hosts as a machine. A signal to a group is followed by one to a process, and the processes go on after that one, so
that they see one signal and not two. -/
def machine : Machine Host where
  elapse := fun now later h => h.pass (later - now)
  files := Host.files
  withFiles := fun t h => { h with files := t }
  sockets := fun h => [h.socketTable]
  accepts := fun port h => h.connected && h.tcpPorts.contains port
  command := fun step h => h.command step
  spawn := fun program args places h => h.spawn program args places.1 places.2
  poll := fun pid h => h.poll pid
  signalGroup := fun pid signal h => (h.signalGroup pid signal).2
  signal := fun pid signal h =>
    let (r, h) := h.signal pid signal
    (r, h.settle)

end StagedLaunch.Host
