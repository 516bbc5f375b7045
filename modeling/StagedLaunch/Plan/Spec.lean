import StagedLaunch.RunCase
import StagedLaunch.Text.Words
import StagedLaunch.Text.Path
import StagedLaunch.Text.Quoted

/-!
# Processes to launch

What is needed to launch one process: the program and its arguments, where its output goes, and how to tell that it is
ready.
-/

namespace StagedLaunch

/-- What a process does in the simulation. -/
inductive Role where
  /-- The process that the others connect to. -/
  | server
  /-- A client that tends the garden. -/
  | gardener
  /-- A client that stands for a flowerbed. -/
  | flowerbed
  /-- A client that watches. -/
  | monitor
deriving DecidableEq, Repr

/-- The roles in order. -/
def Role.all : List Role := [.server, .gardener, .flowerbed, .monitor]

/-- The name of the executable of a role. -/
def Role.binary : Role → String
  | .server => "server"
  | .gardener => "gardener"
  | .flowerbed => "flowerbed"
  | .monitor => "monitor"

/-- How to tell that a process is ready. -/
inductive ReadyCheck where
  /-- A number of milliseconds has passed. -/
  | delay (ms : Nat)
  /-- A local UDP socket is bound to a port. -/
  | udpBound (port : UInt16)
  /-- A TCP connection to a port is accepted. -/
  | tcp (port : UInt16)
  /-- A line of the standard output matches a pattern. -/
  | log (pattern : String)
deriving DecidableEq, Repr

/-- The text of a check. -/
def ReadyCheck.render : ReadyCheck → String
  | .delay ms => s!"Delay({ms})"
  | .udpBound port => s!"UdpBound({port})"
  | .tcp port => s!"Tcp({port})"
  | .log pattern => s!"Log({quoted pattern})"

/-- The files that receive the output of a process. -/
structure OutputFiles where
  /-- The file for the standard output. -/
  stdout : String
  /-- The file for the standard error. -/
  stderr : String
deriving DecidableEq, Repr

/-- The output files of a process with a name. -/
def OutputFiles.ofName (logDir name : String) : OutputFiles :=
  ⟨Path.join logDir (name ++ ".out"), Path.join logDir (name ++ ".err")⟩

/-- Where executables are found and output files are put. -/
structure Layout where
  /-- The directory that holds one directory of executables for each case. -/
  buildDir : String
  /-- The directory of output files. -/
  logDir : String
deriving DecidableEq, Repr

/-- The executable of a role in a case. -/
def Layout.executable (layout : Layout) (case : RunCase) (role : Role) : String :=
  Path.join (Path.join layout.buildDir case.name) role.binary

/-- A process to launch. -/
structure LaunchSpec where
  /-- The name in messages and of the output files. -/
  name : String
  /-- What the process does. -/
  role : Role
  /-- The program. -/
  program : String
  /-- Its arguments. -/
  args : List String
  /-- Where its output goes. -/
  output : OutputFiles
  /-- How to tell that it is ready, if anybody waits for that. -/
  ready : Option ReadyCheck
deriving DecidableEq, Repr

namespace LaunchSpec

/-- A process of a role, with its program and output files where the layout puts them. -/
def ofRole (name : String) (role : Role) (case : RunCase) (layout : Layout) (args : List String) : LaunchSpec where
  name := name
  role := role
  program := layout.executable case role
  args := args
  output := OutputFiles.ofName layout.logDir name
  ready := none

/-- The server, which is told its port. -/
def server (case : RunCase) (layout : Layout) (port : UInt16) (ready : Option ReadyCheck) : LaunchSpec :=
  { ofRole "server" .server case layout [toString port] with ready := ready }

/-- A client, which is told the host and the port of the server. -/
def client (name : String) (role : Role) (case : RunCase) (layout : Layout) (host : String) (port : UInt16) :
    LaunchSpec :=
  ofRole name role case layout [host, toString port]

/-- The command line that launches a process. -/
def commandLine (spec : LaunchSpec) : String := Words.join (spec.program :: spec.args)

end LaunchSpec

end StagedLaunch
