import StagedLaunch.Text.Words
import StagedLaunch.Text.Path

/-!
# Build steps

A build step is a program with its arguments, read from a command line. Unless they are overridden there are two: configure
and compile.
-/

namespace StagedLaunch

/-- A command of the build. -/
structure BuildStep where
  /-- The program. -/
  program : String
  /-- Its arguments. -/
  args : List String
deriving DecidableEq, Repr

/-- Why a command line is no build step. -/
inductive BuildCommandError where
  /-- It has no words. -/
  | empty
  /-- A quote is left open. -/
  | openQuote (command : String)
deriving DecidableEq, Repr

/-- The text of an error, with the reason behind it. -/
def BuildCommandError.message : BuildCommandError → String
  | .empty => "empty build command"
  | .openQuote command => s!"failed to parse build command \x60{command}\x60: missing closing quote"

namespace BuildStep

/-- The build step that a command line stands for. -/
def parse (command : String) : Except BuildCommandError BuildStep :=
  match Words.split command with
  | none => .error (.openQuote command)
  | some [] => .error .empty
  | some (program :: args) => .ok ⟨program, args⟩

/-- The command line of a build step. -/
def commandLine (step : BuildStep) : String := Words.join (step.program :: step.args)

/-- The step that configures a build directory for a project. It is told both as text. -/
def configure (projectRoot buildDir : String) : BuildStep :=
  ⟨"cmake", ["-S", Path.display projectRoot, "-B", Path.display buildDir]⟩

/-- The step that compiles everything in a build directory, which it is told as text. -/
def compile (buildDir : String) : BuildStep :=
  ⟨"cmake", ["--build", Path.display buildDir, "--target", "all"]⟩

end BuildStep

/-- How the executables come about. -/
inductive BuildStage where
  /-- By commands. -/
  | commands (steps : List BuildStep)
  /-- They are there already. -/
  | prebuilt
deriving DecidableEq, Repr

end StagedLaunch
