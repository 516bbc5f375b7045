import StagedLaunch.Host.Machine
import StagedLaunch.Program

/-!
# The command line

A run is rehearsed on a host in memory, which starts with the files below the working directory. What the program prints and
how it exits is as on any other machine; the files that processes write stay in memory.
-/

namespace StagedLaunch.CommandLine

/-- A text that names its interpreter can be run. -/
def isScript (bytes : List UInt8) : Bool := [35, 33].isPrefixOf bytes

/-- Adds the entries of a directory to a file tree, with all that they hold. -/
partial def addEntries (t : FileTree) (place : Place) (entries : Array IO.FS.DirEntry) : IO FileTree :=
  entries.foldlM (fun t entry => do
    let here := place ++ [entry.fileName]
    match (← entry.path.symlinkMetadata).type with
    | .dir => addEntries (t.set here .directory) here (← entry.path.readDir)
    | .file =>
      let bytes := (← IO.FS.readBinFile entry.path).toList
      return t.set here (.file bytes (isScript bytes))
    | _ => return t) t

/-- The files of the working directory on a host. -/
def workingFiles : IO FileTree := do
  let dir ← IO.currentDir
  let place := dir.components.filter fun name => name != ""
  addEntries (Host.systemFiles place) place (← dir.readDir)

/-- The configuration file that the arguments name, added to a file tree if it can be read. -/
def withConfig (t : FileTree) (args : List String) : IO FileTree := do
  match (parse args).toOption.bind CommandLine.config with
  | none => return t
  | some path =>
    if t.contains path then return t
    else
      try
        return t.write path (← IO.FS.readBinFile path).toList false
      catch _ => return t

end StagedLaunch.CommandLine

section

open StagedLaunch

/-- Runs the program with its arguments. -/
def main (args : List String) : IO UInt32 := do
  let level ← IO.getEnv "GREENHOUSE_LOG"
  let files ← CommandLine.withConfig (← CommandLine.workingFiles) args
  let host := Host.ofFiles files (level.toList.map fun level => ("GREENHOUSE_LOG", level))
  let outcome := Program.run Host.machine ⟨args, level, []⟩ host
  for (_, bytes) in outcome.output do
    IO.print (Utf8.decodeLossy bytes)
  for line in outcome.errorLines do
    IO.eprintln line
  return (outcome.status.getD 143).toUInt32

end
