import StagedLaunch.Text.Utf8

/-!
# Paths as text

Paths are kept as they were written. `join` appends one path to another and nothing is normalised: empty components, `.` and
`..` stay.

The bytes of a path need not be text. A byte that is no part of a character stands as a character of its own, one of the last
there are, which no path holds otherwise (`strayByte?`). The programs that build are told the text of a path, in which such
bytes are replaced (`display`).
-/

namespace StagedLaunch.Path

/-- The byte that a character of a path stands for, if it is none of a text: the last 128 characters stand for the bytes from
128 on. -/
def strayByte? (c : Char) : Option UInt8 :=
  if 0x10FF80 ≤ c.toNat then some (UInt8.ofNat (c.toNat - 0x10FF00)) else none

/-- The bytes of a path. -/
def bytes (p : String) : List UInt8 :=
  p.toList.flatMap fun c =>
    match strayByte? c with
    | some b => [b]
    | none => String.utf8EncodeChar c

/-- The number of bytes of a path. -/
def byteSize (p : String) : Nat := (bytes p).length

/-- The text of a path, with U+FFFD for what is not text. -/
def display (p : String) : String := Utf8.decodeLossy (bytes p)

/-- A path that starts at the root. -/
def isAbsolute (p : String) : Bool := p.toList.head? == some '/'

/-- One path after another: an absolute one replaces what is before it, and a slash comes between them unless the first path
is empty or ends in one. -/
def join (p q : String) : String :=
  if isAbsolute q || p.isEmpty then q
  else if p.toList.getLast? == some '/' then p ++ q
  else p ++ "/" ++ q

/-- What stands between the slashes of a path, empty parts among it. -/
def parts (p : String) : List String := (p.toList.splitOn '/').map String.ofList

/-- The components of a path that is read from the start: empty ones and `.` are skipped, except a `.` right at the start. -/
def components (p : String) : List String :=
  match (parts p).filter (· != "") with
  | [] => []
  | first :: rest =>
    let rest := rest.filter (· != ".")
    if first == "." && isAbsolute p then rest else first :: rest

/-- Drops what separates components from the end of a path, given backwards: slashes, and `.` after a slash. -/
def dropSeparators : List Char → List Char
  | '/' :: rest => dropSeparators rest
  | '.' :: '/' :: rest => dropSeparators ('/' :: rest)
  | cs => cs
termination_by cs => cs.length

/-- The path without its last component, `none` for the root and for the empty path. -/
def parent? (p : String) : Option String :=
  match components p with
  | [] => none
  | _ =>
    let back := dropSeparators p.toList.reverse
    let front := dropSeparators (back.dropWhile (· != '/'))
    if front.isEmpty then some (if isAbsolute p then "/" else "") else some (String.ofList front.reverse)

end StagedLaunch.Path
