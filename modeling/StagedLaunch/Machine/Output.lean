import StagedLaunch.LaunchError
import StagedLaunch.Machine.FileTree
import StagedLaunch.Plan.Spec

/-!
# Opening output files

The file for the standard output is opened first, then the one for the standard error. The directories above a file are made
if they are missing, and what the file held is gone.
-/

namespace StagedLaunch

/-- Makes the directories above an output file. -/
def makeParent (t : FileTree) (path : String) : Except LaunchError Unit × FileTree :=
  match Path.parent? path with
  | some parent =>
    if parent.isEmpty then (.ok (), t)
    else
      match t.makeDirectories parent with
      | (.error e, t) => (.error (.outputFile parent e), t)
      | (.ok (), t) => (.ok (), t)
  | none => (.ok (), t)

/-- The place of an output file that was opened, and the tree after that. -/
def openOutput (t : FileTree) (path : String) : Except LaunchError Place × FileTree :=
  match makeParent t path with
  | (.error e, t) => (.error e, t)
  | (.ok (), t) =>
    match t.create path with
    | .ok (p, t) => (.ok p, t)
    | .error e => (.error (.outputFile path e), t)

/-- The places of two output files that were opened, and the tree after that. -/
def OutputFiles.open (files : OutputFiles) (t : FileTree) : Except LaunchError (Place × Place) × FileTree :=
  match openOutput t files.stdout with
  | (.error e, t) => (.error e, t)
  | (.ok out, t) =>
    match openOutput t files.stderr with
    | (.error e, t) => (.error e, t)
    | (.ok err, t) => (.ok (out, err), t)

end StagedLaunch
