import StagedLaunch.Document.Scalar
import StagedLaunch.Document.Table

/-!
# Reading a configuration document

`Document.parse?` reads a text in the TOML 1.0 format as a table of values. A document is a sequence of lines, each a key
with a value, a header, a comment or blank; arrays go on over lines. Nothing is said about what is wrong with a text that
is refused.
-/

namespace StagedLaunch.Document

/-- How many arrays and tables may be nested, and how many parts a key may have. -/
def nestingLimit : Nat := 80

/-- A character of a key without quotes. -/
def isBareKey (c : Char) : Bool := c.isAlphanum || c == '_' || c == '-'

/-- One part of a key. -/
def readKeyPart (cs : List Char) : Option (String × List Char) :=
  match cs with
  | '"' :: _ | '\'' :: _ => readQuoted cs
  | _ =>
    let name := cs.takeWhile isBareKey
    if name.isEmpty then none else some (String.ofList name, cs.drop name.length)

/-- The parts of a key with the dots between them, and blanks on both sides of each part. -/
def readParts (fuel : Nat) (cs : List Char) : Option (List String × List Char) :=
  match fuel with
  | 0 => none
  | fuel + 1 => do
    let (name, rest) ← readKeyPart (skipBlank cs)
    match skipBlank rest with
    | '.' :: rest =>
      let (names, rest) ← readParts fuel rest
      return (name :: names, rest)
    | rest => return ([name], rest)

/-- A key: the parts before its last dot, and the part after it. -/
def readKey (cs : List Char) : Option ((List String × String) × List Char) := do
  let (names, rest) ← readParts nestingLimit cs
  guard (names.length < nestingLimit)
  let name ← names.getLast?
  return ((names.dropLast, name), rest)

/-- Drops a comment up to the end of its line. -/
def skipComment (cs : List Char) : List Char :=
  match cs with
  | '#' :: rest => rest.dropWhile plain
  | _ => cs

/-- Drops blanks, comments and line ends. -/
def skipAll (fuel : Nat) (cs : List Char) : List Char :=
  match fuel with
  | 0 => cs
  | fuel + 1 =>
    match newline? (skipComment (skipBlank cs)) with
    | some rest => skipAll fuel rest
    | none =>
      match skipBlank cs with
      | '#' :: _ => cs
      | rest => rest

/-- The end of a line: blanks, a comment, and a line end unless the text ends. -/
def endOfLine? (cs : List Char) : Option (List Char) :=
  match skipComment (skipBlank cs) with
  | [] => some []
  | rest => newline? rest

mutual

/-- A value, with at most `depth` arrays and tables inside each other. -/
def readValue (fuel depth : Nat) (cs : List Char) : Option (Value × List Char) :=
  match fuel with
  | 0 => none
  | fuel + 1 =>
    match cs with
    | '[' :: rest => if depth == 0 then none else readItems fuel (depth - 1) [] rest
    | '\x7b' :: rest =>
      if depth == 0 then none
      else
        match skipBlank rest with
        | '\x7d' :: rest => some (.table .braces [], rest)
        | rest => readPairs fuel (depth - 1) [] rest
    | _ => readScalar cs

/-- The rest of an array; `items` are the values read, backwards. -/
def readItems (fuel depth : Nat) (items : List Value) (cs : List Char) : Option (Value × List Char) :=
  match fuel with
  | 0 => none
  | fuel + 1 =>
    match skipAll (cs.length + 1) cs with
    | ']' :: rest => some (.array items.reverse, rest)
    | rest =>
      match readValue fuel depth rest with
      | none => none
      | some (v, rest) =>
        match skipAll (rest.length + 1) rest with
        | ']' :: rest => some (.array (v :: items).reverse, rest)
        | ',' :: rest => readItems fuel depth (v :: items) rest
        | _ => none

/-- The rest of a table between braces; `entries` are those read. -/
def readPairs (fuel depth : Nat) (entries : Entries) (cs : List Char) : Option (Value × List Char) :=
  match fuel with
  | 0 => none
  | fuel + 1 =>
    match readKey cs with
    | some ((path, name), '=' :: rest) =>
      match readValue fuel depth (skipBlank rest) with
      | none => none
      | some (v, rest) =>
        match addKey path name v entries with
        | none => none
        | some entries =>
          match skipBlank rest with
          | '\x7d' :: rest => some (.table .braces entries, rest)
          | ',' :: rest => readPairs fuel depth entries rest
          | _ => none
    | _ => none

end

/-- A line of a document. -/
inductive Line where
  /-- Nothing, or a comment. -/
  | blank
  /-- A value under a key. -/
  | value (path : List String) (name : String) (v : Value)
  /-- A header. -/
  | header (path : List String) (name : String)
  /-- A header between double brackets. -/
  | tables (path : List String) (name : String)

/-- A line, without what ends it. -/
def readLine (cs : List Char) : Option (Line × List Char) :=
  match cs with
  | [] => some (.blank, [])
  | '#' :: _ => some (.blank, cs)
  | '\n' :: _ | '\r' :: _ => some (.blank, cs)
  | '[' :: '[' :: rest => do
    let ((path, name), rest) ← readKey rest
    match rest with
    | ']' :: ']' :: rest => return (.tables path name, rest)
    | _ => none
  | '[' :: rest => do
    let ((path, name), rest) ← readKey rest
    match rest with
    | ']' :: rest => return (.header path name, rest)
    | _ => none
  | _ => do
    let ((path, name), rest) ← readKey cs
    match rest with
    | '=' :: rest =>
      let (v, rest) ← readValue (2 * rest.length + 2) (nestingLimit - 1) (skipBlank rest)
      return (.value path name v, rest)
    | _ => none

/-- What a document holds while it is read: all that is finished, and the table that values go to. -/
structure Progress where
  /-- The finished tables. -/
  root : Entries
  /-- The place of the open table; none for the document itself. -/
  place : Option (Bool × List String × String)
  /-- The values of the open table. -/
  current : Entries

/-- Finishes the open table. -/
def Progress.close (p : Progress) : Option Entries :=
  match p.place with
  | none => some p.current
  | some (true, path, name) => closeTables path name p.current p.root
  | some (false, path, name) => closeHeader path name p.current p.root

/-- Takes a line. -/
def Progress.take (p : Progress) : Line → Option Progress
  | .blank => some p
  | .value path name v => (addKey path name v p.current).map fun current => { p with current := current }
  | .header path name => do
    let root ← p.close
    let (opened, root) ← openHeader path name root
    return ⟨root, some (false, path, name), opened⟩
  | .tables path name => do
    let root ← p.close
    let root ← openTables path name root
    return ⟨root, some (true, path, name), []⟩

/-- Reads the lines of a document. -/
def readDocument (fuel : Nat) (p : Progress) (cs : List Char) : Option Entries :=
  match fuel with
  | 0 => none
  | fuel + 1 =>
    match skipBlank cs with
    | [] => p.close
    | rest => do
      let (line, rest) ← readLine rest
      let p ← p.take line
      let rest ← endOfLine? rest
      readDocument fuel p rest

/-- The table of values that a text stands for; a byte order mark before it does not matter. -/
def parse? (text : String) : Option Entries :=
  let cs := text.toList
  let cs := if cs.head?.map Char.toNat == some 0xFEFF then cs.tail else cs
  readDocument (cs.length + 2) ⟨[], none, []⟩ cs

end StagedLaunch.Document
