import StagedLaunch.Host.Basic
import StagedLaunch.Host.Utility
import StagedLaunch.Script.Expansion

/-!
# Words with wildcards

A field with wildcards stands for the paths that it matches, in order; if it matches none it stands for itself.
-/

namespace StagedLaunch.Host

open Script

/-- The names below a place that match the components of a pattern. -/
def wildcardNames (t : FileTree) (at_ : Place) : List (List Mark) → List (List String)
  | [] => [[]]
  | component :: rest =>
    let name := String.ofList (component.map Mark.char)
    let names :=
      if hasWildcard component then
        (namesIn t at_).filter fun n =>
          isWildcardMatch component n.toList && (!n.startsWith "." || name.startsWith ".")
      else if component.isEmpty || name == "." || name == ".." || (t.at? (at_ ++ [name])).isSome then [name] else []
    names.flatMap fun n =>
      let next := if n.isEmpty || n == "." then at_ else if n == ".." then at_.dropLast else at_ ++ [n]
      (wildcardNames t next rest).map (n :: ·)

/-- The components of a pattern. -/
def components (ms : List Mark) : List (List Mark) := ms.splitOnP fun m => m.char == '/'

/-- The texts that a field stands for: the paths that it matches if it has wildcards, or itself. -/
def paths (t : FileTree) (field : List Mark) : List String :=
  let own := String.ofList (field.map Mark.char)
  if hasWildcard field then
    let parts := components field
    let (start, parts) := match parts with
      | [] :: rest => (([] : Place), rest)
      | _ => (t.cwd, parts)
    match wildcardNames t start parts with
    | [] => [own]
    | found => found.map fun names =>
        (if own.startsWith "/" then "/" else "") ++ String.intercalate "/" names
  else [own]

/-- The texts that words expand to. -/
def expandWords (t : FileTree) (words : List Word) : Expander (List String) := do
  let fs ← words.mapM fields
  return fs.flatten.flatMap (paths t)

/-- Assignments, carried out in order. -/
def assignAll : List (String × Word) → Expander Unit
  | [] => return ()
  | (name, word) :: rest => do
    let value ← textOf word
    modify fun v => v.set name value
    assignAll rest

end StagedLaunch.Host
