import StagedLaunch.Pattern.Expr
import StagedLaunch.Text.Blank
import StagedLaunch.Text.Numeral
import StagedLaunch.Unicode.Lookup

/-!
# Escapes of regular expressions

What a backslash and the characters after it stand for. Readers take characters from the front of a list and give what is
left; `verbose` says that blanks and comments are skipped between the characters of a pattern.
-/

namespace StagedLaunch.Pattern

/-- Drops blanks and comments; a comment goes from a number sign to the end of its line. -/
def skipComments (inComment : Bool) : List Char → List Char
  | [] => []
  | c :: rest =>
    if inComment then skipComments (c != '\n') rest
    else if isBlank c then skipComments false rest
    else if c == '#' then skipComments true rest
    else c :: rest

/-- Drops blanks and comments where they are skipped. -/
def skip (verbose : Bool) (cs : List Char) : List Char :=
  if verbose then skipComments false cs else cs

/-- A character that means something of its own in a pattern. -/
def isMeta (c : Char) : Bool :=
  ['\\', '.', '+', '*', '?', '(', ')', '|', '[', ']', '\x7b', '\x7d', '^', '$', '#', '&', '-', '~'].contains c

/-- A character that stands for itself after a backslash: any in ASCII but letters, digits and angle brackets. -/
def standsForItself (c : Char) : Bool :=
  isMeta c || (c.toNat < 0x80 && !c.isAlphanum && c != '<' && c != '>')

/-- The character with a number, if there is one. -/
def charOf? (n : Nat) : Option Char :=
  if n < 0xD800 || (0xE000 ≤ n && n < 0x110000) then some (Char.ofNat n) else none

/-- A number of digits in base sixteen, with what is skipped between them: the digits. -/
def readHexDigits (verbose : Bool) : Nat → List Char → Option (List Char × List Char)
  | 0, cs => some ([], cs)
  | n + 1, c :: rest => do
    guard (digitValue? c).isSome
    let (digits, rest) ← readHexDigits verbose n (skip verbose rest)
    return (c :: digits, rest)
  | _ + 1, [] => none

/-- What stands before a closing brace, with what is skipped left out. -/
def readBraced (verbose : Bool) (fuel : Nat) (cs : List Char) : Option (List Char × List Char) :=
  match fuel, skip verbose cs with
  | 0, _ => none
  | _, [] => none
  | _ + 1, '\x7d' :: rest => some ([], rest)
  | fuel + 1, c :: rest => do
    let (inner, rest) ← readBraced verbose fuel rest
    return (c :: inner, rest)

/-- A character given by its number, in braces or with exactly `count` digits. Two digits without braces name a byte. -/
def readNumbered (verbose : Bool) (count : Nat) (cs : List Char) : Option (Literal × List Char) := do
  match skip verbose cs with
  | '\x7b' :: rest =>
    let (digits, rest) ← readBraced verbose (rest.length + 1) rest
    let n ← readDigits 16 digits
    let c ← charOf? n
    return (⟨c, false⟩, rest)
  | rest =>
    let (digits, rest) ← readHexDigits verbose count rest
    let n ← readDigits 16 digits
    let c ← charOf? n
    return (⟨c, count == 2⟩, rest)

/-- The name of a property, which may have a value after `=`, `:` or `!=`; the last one negates. -/
def propertyName (cs : List Char) : PropertyName × Bool :=
  let rec unequal : List Char → List Char → Option (List Char × List Char)
    | seen, '!' :: '=' :: rest => some (seen.reverse, rest)
    | seen, c :: rest => unequal (c :: seen) rest
    | _, [] => none
  let split (c : Char) : PropertyName :=
    .valued (String.ofList (cs.takeWhile (· != c))) (String.ofList (cs.dropWhile (· != c)).tail)
  match unequal [] cs with
  | some (property, value) => (.valued (String.ofList property) (String.ofList value), true)
  | none =>
    if cs.contains ':' then (split ':', false)
    else if cs.contains '=' then (split '=', false)
    else (.named (String.ofList cs), false)

/-- A property after its letter. -/
def readProperty (verbose negated : Bool) (cs : List Char) : Option (Expr × List Char) := do
  match skip verbose cs with
  | [] => none
  | '\x7b' :: rest =>
    let (inner, rest) ← readBraced verbose (rest.length + 1) rest
    let (name, unequal) := propertyName inner
    return (.property name (negated != unequal), rest)
  | '\\' :: _ => none
  | c :: rest => return (.property (.named (String.singleton c)) negated, skip verbose rest)

/-- A character of the name of a boundary. -/
def isBoundaryChar (c : Char) : Bool := c.isAlpha || c == '-'

/-- The characters of the name of a boundary, with what is skipped left out. -/
def readBoundaryName (verbose : Bool) (fuel : Nat) (cs : List Char) : List Char × List Char :=
  match fuel, cs with
  | fuel + 1, c :: rest =>
    if isBoundaryChar c then
      let (name, rest) := readBoundaryName verbose fuel (skip verbose rest)
      (c :: name, rest)
    else ([], cs)
  | _, _ => ([], cs)

/-- The anchor after `\b`: a name in braces may follow, unless the braces hold a count. -/
def readBoundary (verbose : Bool) (cs : List Char) : Option (Anchor × List Char) :=
  match cs with
  | '\x7b' :: rest =>
    match skip verbose rest with
    | [] => none
    | c :: after =>
      if isBoundaryChar c then
        match readBoundaryName verbose (after.length + 2) (c :: after) with
        | (name, '\x7d' :: rest) =>
          match String.ofList name with
          | "start" => some (.wordStart, rest)
          | "end" => some (.wordEnd, rest)
          | "start-half" => some (.wordStartHalf, rest)
          | "end-half" => some (.wordEndHalf, rest)
          | _ => none
        | _ => none
      else some (.boundary, cs)
  | _ => some (.boundary, cs)

/-- What a backslash stands for with what follows it. -/
def readEscape (verbose : Bool) : List Char → Option (Expr × List Char)
  | [] => none
  | c :: rest =>
    let literal (c : Char) : Option (Expr × List Char) := some (.literal ⟨c, false⟩, rest)
    match c with
    | 'x' => (readNumbered verbose 2 rest).map fun r => (.literal r.1, r.2)
    | 'u' => (readNumbered verbose 4 rest).map fun r => (.literal r.1, r.2)
    | 'U' => (readNumbered verbose 8 rest).map fun r => (.literal r.1, r.2)
    | 'p' => readProperty verbose false rest
    | 'P' => readProperty verbose true rest
    | 'd' => some (.shorthand .digit false, rest)
    | 'D' => some (.shorthand .digit true, rest)
    | 's' => some (.shorthand .space false, rest)
    | 'S' => some (.shorthand .space true, rest)
    | 'w' => some (.shorthand .word false, rest)
    | 'W' => some (.shorthand .word true, rest)
    | 'a' => literal '\x07'
    | 'f' => literal '\x0c'
    | 't' => literal '\t'
    | 'n' => literal '\n'
    | 'r' => literal '\r'
    | 'v' => literal '\x0b'
    | 'A' => some (.anchor .textStart, rest)
    | 'z' => some (.anchor .textEnd, rest)
    | 'b' => (readBoundary verbose rest).map fun r => (.anchor r.1, r.2)
    | 'B' => some (.anchor .noBoundary, rest)
    | '<' => some (.anchor .wordStart, rest)
    | '>' => some (.anchor .wordEnd, rest)
    | _ => if standsForItself c then literal c else none

/-- What one character, or an escape, stands for. -/
def readPrimitive (verbose : Bool) : List Char → Option (Expr × List Char)
  | [] => none
  | '\\' :: rest => readEscape verbose rest
  | '.' :: rest => some (.dot, rest)
  | '^' :: rest => some (.anchor .lineStart, rest)
  | '$' :: rest => some (.anchor .lineEnd, rest)
  | c :: rest => some (.literal ⟨c, false⟩, rest)

end StagedLaunch.Pattern
