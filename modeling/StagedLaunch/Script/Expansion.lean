import StagedLaunch.Script.Arithmetic
import StagedLaunch.Script.Reader
import StagedLaunch.Script.Wildcard

/-!
# Expansion of words

A word expands to fields. What an expansion outside quotes gives is split into fields at separators; the arguments between
quotes give a field each. Command substitutions are replaced by their output before a word is expanded: `substitution?` finds
the first one.
-/

namespace StagedLaunch.Script

/-- What the parts of a word expand to, before it is split into fields. -/
inductive Atom where
  /-- A character of the word itself. -/
  | own (m : Mark)
  /-- A character that an expansion outside quotes has given. -/
  | given (c : Char)
  /-- The border between two fields. -/
  | border
  /-- There is a field, even if it is empty. -/
  | present
deriving DecidableEq, Repr

/-- Something that expands and may fail with a message. -/
abbrev Expander (α : Type) := StateT Variables (Except String) α

/-- The characters of a text between quotes or outside them. -/
def atomsOf (inQuotes : Bool) (cs : List Char) : List Atom :=
  if inQuotes then .present :: cs.map fun c => .own ⟨c, true⟩ else cs.map .given

/-- The characters of atoms that are not split. -/
def joined (atoms : List Atom) : List Char :=
  atoms.filterMap fun a =>
    match a with
    | .own m => some m.char
    | .given c => some c
    | .border => some ' '
    | .present => none

/-- The pattern that atoms are. -/
def patternOf (atoms : List Atom) : List Mark :=
  atoms.filterMap fun a =>
    match a with
    | .own m => some m
    | .given c => some ⟨c, false⟩
    | .border => some ⟨' ', true⟩
    | .present => none

/-- The atoms of the arguments. -/
def argumentAtoms (inQuotes star : Bool) (separator : Option Char) (args : List String) : List Atom :=
  if inQuotes && star then
    atomsOf true ((args.map String.toList).intersperse separator.toList).flatten
  else
    ((args.map fun a => atomsOf inQuotes a.toList).intersperse [.border]).flatten

/-- The characters that separate fields. -/
def separators (v : Variables) : List Char := ((v.get? "IFS").getD " \t\n").toList

mutual

/-- The atoms of parts. -/
def atoms : List Part → Expander (List Atom)
  | [] => return []
  | part :: rest => do
    let first ← atomsOfPart part
    let more ← atoms rest
    return first ++ more

/-- The atoms of a part. -/
def atomsOfPart : Part → Expander (List Atom)
  | .literal cs => return cs.map fun c => .own ⟨c, false⟩
  | .quoted cs => return .present :: cs.map fun c => .own ⟨c, true⟩
  | .expanded cs inQuotes => return atomsOf inQuotes cs
  | .command _ inQuotes => return atomsOf inQuotes []
  | .arithmetic body inQuotes => do
    let inside ← atoms body
    match Arithmetic.eval? (joined inside) (← get) with
    | some (n, v) =>
      set v
      return atomsOf inQuotes (toString n).toList
    | none => throw "arithmetic expression: expecting primary"
  | .param name inQuotes op word => do
    let v ← get
    let all := name == "@" || name == "*"
    let value? := if all then (if v.args.isEmpty then none else some (" ".intercalate v.args)) else v.param? name
    let own := if all then argumentAtoms inQuotes (name == "*") (separators v).head? v.args
      else atomsOf inQuotes (value?.getD "").toList
    let present (empty : Bool) : Bool :=
      match value? with
      | some s => !empty || !s.isEmpty
      | none => false
    match op with
    | .value => return if all || value?.isSome then own else if inQuotes then [.present] else []
    | .length => return atomsOf inQuotes (toString (if all then v.args.length else (value?.getD "").length)).toList
    | .default empty =>
      if present empty then return own
      else return (if inQuotes then [.present] else []) ++ (← atoms word)
    | .assign empty =>
      if present empty then return own
      else do
        let cs := joined (← atoms word)
        modify fun v => v.set name (String.ofList cs)
        return atomsOf inQuotes cs
    | .demand empty =>
      if present empty then return own
      else do
        let cs := joined (← atoms word)
        throw (name ++ ": " ++ if cs.isEmpty then "parameter not set" else String.ofList cs)
    | .alternative empty =>
      let there := if inQuotes then [.present] else []
      if present empty then return there ++ (← atoms word) else return there
    | .dropEnd long => do
      let ms := patternOf (← atoms word)
      return atomsOf inQuotes (dropMatchingEnd long ms (value?.getD "").toList)
    | .dropStart long => do
      let ms := patternOf (← atoms word)
      return atomsOf inQuotes (dropMatchingStart long ms (value?.getD "").toList)

end

/-- The fields of atoms. `field` is the field that has begun, backwards, and `after` says that blanks have just ended one. -/
def fieldsFrom (separators : List Char) (field : Option (List Mark)) (after : Bool) : List Atom → List (List Mark)
  | [] => (field.map List.reverse).toList
  | .own m :: rest => fieldsFrom separators (some (m :: field.getD [])) false rest
  | .present :: rest => fieldsFrom separators (some (field.getD [])) false rest
  | .border :: rest => (field.map List.reverse).toList ++ fieldsFrom separators none false rest
  | .given c :: rest =>
    if !separators.contains c then fieldsFrom separators (some (⟨c, false⟩ :: field.getD [])) false rest
    else
      match field with
      | some f => f.reverse :: fieldsFrom separators none c.isWhitespace rest
      | none =>
        if c.isWhitespace then fieldsFrom separators none after rest
        else if after then fieldsFrom separators none false rest
        else [] :: fieldsFrom separators none false rest

/-- The fields of a word, as patterns. -/
def fields (word : Word) : Expander (List (List Mark)) := do
  let as ← atoms word
  return fieldsFrom (separators (← get)) none false as

/-- The text of a word that is not split into fields. -/
def textOf (word : Word) : Expander String := do
  return String.ofList (joined (← atoms word))

mutual

/-- The first command substitution among parts: its commands, whether it stands between quotes, and the parts with something
else in its place. -/
def substitution? : List Part → Option (List Char × Bool × (Part → List Part))
  | [] => none
  | part :: rest =>
    match substitutionIn? part with
    | some (source, inQuotes, put) => some (source, inQuotes, fun p => put p :: rest)
    | none => (substitution? rest).map fun (source, inQuotes, put) => (source, inQuotes, fun p => part :: put p)

/-- The first command substitution in a part. -/
def substitutionIn? : Part → Option (List Char × Bool × (Part → Part))
  | .command source inQuotes => some (source, inQuotes, id)
  | .arithmetic body inQuotes =>
    (substitution? body).map fun (source, q, put) => (source, q, fun p => .arithmetic (put p) inQuotes)
  | .param name inQuotes op word =>
    (substitution? word).map fun (source, q, put) => (source, q, fun p => .param name inQuotes op (put p))
  | .literal _ | .quoted _ | .expanded _ _ => none

end

/-- The first command substitution among words. -/
def substitutionAmong? : List Word → Option (List Char × Bool × (Part → List Word))
  | [] => none
  | word :: rest =>
    match substitution? word with
    | some (source, inQuotes, put) => some (source, inQuotes, fun p => put p :: rest)
    | none => (substitutionAmong? rest).map fun (source, inQuotes, put) => (source, inQuotes, fun p => word :: put p)

/-- The output of commands as a substitution gives it: without the line ends at its end. -/
def withoutLineEnds (cs : List Char) : List Char := (cs.reverse.dropWhile (· == '\n')).reverse

end StagedLaunch.Script
