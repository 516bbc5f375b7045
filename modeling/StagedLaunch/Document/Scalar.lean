import StagedLaunch.Text.Numeral
import StagedLaunch.Document.Value

/-!
# Scalars of a configuration document

Readers for texts, numbers, dates and times. A reader takes characters from the front of a list and returns what it read and
what is left, or nothing if the list does not start with what it reads.
-/

namespace StagedLaunch.Document

/-- Takes a value from the front of a list of characters. -/
abbrev Reader (α : Type) := List Char → Option (α × List Char)

/-- Drops spaces and tabs. -/
def skipBlank (cs : List Char) : List Char := cs.dropWhile fun c => c == ' ' || c == '\t'

/-- Drops a line end, if there is one. -/
def newline? : List Char → Option (List Char)
  | '\n' :: rest => some rest
  | '\r' :: '\n' :: rest => some rest
  | _ => none

/-- A character that may stand in a comment and in a literal text: no control except the tab. -/
def plain (c : Char) : Bool := c == '\t' || (0x20 ≤ c.toNat && c.toNat != 0x7F)

/-- Drops what may stand before a character. -/
def expect (c : Char) : List Char → Option (List Char)
  | d :: rest => if c == d then some rest else none
  | [] => none

/-- A character given by exactly as many digits in base sixteen as are asked for. -/
def readCodePoint (digits : Nat) (cs : List Char) : Option (Char × List Char) := do
  let taken := cs.take digits
  guard (taken.length == digits)
  let n ← readDigits 16 taken
  guard (n < 0xD800 || (0xE000 ≤ n && n < 0x110000))
  return (Char.ofNat n, cs.drop digits)

/-- The character after a backslash. -/
def readEscape : Reader Char
  | 'b' :: rest => some ('\x08', rest)
  | 't' :: rest => some ('\t', rest)
  | 'n' :: rest => some ('\n', rest)
  | 'f' :: rest => some ('\x0c', rest)
  | 'r' :: rest => some ('\r', rest)
  | '"' :: rest => some ('"', rest)
  | '\\' :: rest => some ('\\', rest)
  | 'u' :: rest => readCodePoint 4 rest
  | 'U' :: rest => readCodePoint 8 rest
  | _ => none

/-- The rest of a text between double quotes, `acc` being what was read, backwards. -/
def readBasic (fuel : Nat) (acc : List Char) (cs : List Char) : Option (String × List Char) :=
  match fuel, cs with
  | fuel + 1, '\\' :: rest => do
    let (c, rest) ← readEscape rest
    readBasic fuel (c :: acc) rest
  | fuel + 1, c :: rest =>
    if c == '"' then some (String.ofList acc.reverse, rest)
    else if plain c then readBasic fuel (c :: acc) rest
    else none
  | _, _ => none

/-- The rest of a text between single quotes. -/
def readLiteral (cs : List Char) : Option (String × List Char) :=
  let body := cs.takeWhile fun c => c != '\'' && plain c
  match cs.drop body.length with
  | '\'' :: rest => some (String.ofList body, rest)
  | _ => none

/-- Drops blanks and line ends. -/
def skipLines (fuel : Nat) (cs : List Char) : List Char :=
  match fuel, cs with
  | 0, _ => cs
  | fuel + 1, ' ' :: rest => skipLines fuel rest
  | fuel + 1, '\t' :: rest => skipLines fuel rest
  | fuel + 1, _ =>
    match newline? cs with
    | some rest => skipLines fuel rest
    | none => cs

/-- The rest of a text of several lines between three quotes. Up to two quotes right before the closing three belong to the
text. Where `escapes` is set, a backslash acts, and one at the end of a line drops what is blank up to the next text. -/
def readMultiline (quote : Char) (escapes : Bool) (fuel : Nat) (acc : List Char) (cs : List Char) :
    Option (String × List Char) :=
  match fuel with
  | 0 => none
  | fuel + 1 =>
    match newline? cs with
    | some rest => readMultiline quote escapes fuel ('\n' :: acc) rest
    | none =>
      match cs with
      | [] => none
      | c :: rest =>
        if c == quote then
          let run := (cs.takeWhile (· == quote)).length
          if run < 3 then readMultiline quote escapes fuel (c :: acc) rest
          else if run ≤ 5 then some (String.ofList ((List.replicate (run - 3) quote ++ acc).reverse), cs.drop run)
          else none
        else if c == '\\' && escapes then
          match newline? (skipBlank rest) with
          | some after => readMultiline quote escapes fuel acc (skipLines after.length after)
          | none =>
            match readEscape rest with
            | some (e, after) => readMultiline quote escapes fuel (e :: acc) after
            | none => none
        else if plain c then readMultiline quote escapes fuel (c :: acc) rest
        else none

/-- Drops one line end at the front. -/
def skipNewline (cs : List Char) : List Char := (newline? cs).getD cs

/-- A text on one line between quotes of either kind. -/
def readQuoted : Reader String
  | '"' :: rest => readBasic (rest.length + 1) [] rest
  | '\'' :: rest => readLiteral rest
  | _ => none

/-- A text between quotes of any kind. -/
def readText : Reader String
  | '"' :: '"' :: '"' :: rest => readMultiline '"' true (rest.length + 1) [] (skipNewline rest)
  | '\'' :: '\'' :: '\'' :: rest => readMultiline '\'' false (rest.length + 1) [] (skipNewline rest)
  | cs => readQuoted cs

/-- Digits of a base with single underscores between them. -/
def readUnderscored (digit : Char → Bool) (fuel : Nat) (cs : List Char) : Option (List Char × List Char) :=
  match fuel with
  | 0 => none
  | fuel + 1 =>
    let first := cs.takeWhile digit
    if first.isEmpty then none
    else
      match cs.drop first.length with
      | '_' :: rest =>
        match rest with
        | d :: _ => if digit d then (readUnderscored digit fuel rest).map fun r => (first ++ r.1, r.2) else none
        | [] => none
      | rest => some (first, rest)

/-- A decimal digit. -/
def isDecimal (c : Char) : Bool := '0' ≤ c && c ≤ '9'

/-- Decimal digits with single underscores between them. -/
def readDecimals (cs : List Char) : Option (List Char × List Char) :=
  readUnderscored isDecimal (cs.length + 1) cs

/-- An optional sign: whether the number is negative. -/
def readSign : List Char → Bool × List Char
  | '-' :: rest => (true, rest)
  | '+' :: rest => (false, rest)
  | cs => (false, cs)

/-- The digits of a whole number, which start with zero only if there is just one. -/
def readWholeDigits (cs : List Char) : Option (List Char × List Char) :=
  match cs with
  | '0' :: rest => some (['0'], rest)
  | _ => readDecimals cs

/-- Whole numbers have 64 bits: they lie below this bound and not below its negative. -/
def wholeBound : Nat := 0x8000000000000000

/-- A whole number of 64 bits with its sign. -/
def readWhole (cs : List Char) : Option (Value × List Char) := do
  let (negative, rest) := readSign cs
  let (digits, rest) ← readWholeDigits rest
  let n ← readDigits 10 digits
  let value : Int := if negative then -n else n
  guard (-(wholeBound : Int) ≤ value && value < wholeBound)
  return (.integer value, rest)

/-- A whole number of 64 bits in another base, after its two characters of introduction. -/
def readBased (base : Nat) (cs : List Char) : Option (Value × List Char) := do
  let isDigit (c : Char) : Bool := (digitValue? c).any (· < base)
  let (digits, rest) ← readUnderscored isDigit (cs.length + 1) cs
  let n ← readDigits base digits
  guard (n < wholeBound)
  return (.integer n, rest)

/-- The fraction of a number: the digits after a point. -/
def readFraction (cs : List Char) : Option (List Char × List Char) :=
  match cs with
  | '.' :: rest => readDecimals rest
  | _ => none

/-- The exponent of a number. -/
def readExponent (cs : List Char) : Option (Int × List Char) :=
  match cs with
  | c :: rest =>
    if c == 'e' || c == 'E' then do
      let (negative, rest) := readSign rest
      let (digits, rest) ← readDecimals rest
      let n ← readDigits 10 digits
      return (if negative then -n else n, rest)
    else none
  | [] => none

/-- The number with the given digits times a power of ten; a positive number beyond the greatest one is refused. -/
def realOf (negative : Bool) (digits : List Char) (exponent : Int) : Option Real := do
  let n ← readDigits 10 digits
  -- Beyond these bounds the number is zero or too large whatever its digits are.
  let e := if n == 0 then 0 else max (-(digits.length : Int) - 400) (min exponent 400)
  match Binary64.ofQuotient? (n * Nat.pow 10 e.toNat) (Nat.pow 10 (-e).toNat) with
  | some x => some (.finite negative x)
  | none => if negative then some (.infinite true) else none

/-- A floating-point number: a whole number with a fraction, an exponent or both. -/
def readFloat (cs : List Char) : Option (Value × List Char) := do
  let (negative, rest) := readSign cs
  match rest with
  | 'i' :: 'n' :: 'f' :: rest => return (.real (.infinite negative), rest)
  | 'n' :: 'a' :: 'n' :: rest => return (.real .notANumber, rest)
  | _ =>
    let (whole, rest) ← readWholeDigits rest
    match rest with
    | '.' :: _ =>
      let (fraction, rest) ← readFraction rest
      let (exponent, rest) ←
        match rest with
        | 'e' :: _ | 'E' :: _ => readExponent rest
        | _ => some (0, rest)
      let x ← realOf negative (whole ++ fraction) (exponent - fraction.length)
      return (.real x, rest)
    | _ =>
      let (exponent, rest) ← readExponent rest
      let x ← realOf negative whole exponent
      return (.real x, rest)

/-- A number of exactly as many decimal digits as are asked for, in a range. -/
def readFixed (count low high : Nat) (cs : List Char) : Option (Nat × List Char) := do
  let taken := cs.take count
  guard (taken.length == count && taken.all isDecimal)
  let n ← readDigits 10 taken
  guard (low ≤ n && n ≤ high)
  return (n, cs.drop count)

/-- The number of days of a month. -/
def daysIn (year month : Nat) : Nat :=
  if month == 2 then
    if year % 4 == 0 && (year % 100 != 0 || year % 400 == 0) then 29 else 28
  else if month == 4 || month == 6 || month == 9 || month == 11 then 30
  else 31

/-- Drops a date. -/
def readDate (cs : List Char) : Option (List Char) := do
  let (year, rest) ← readFixed 4 0 9999 cs
  let rest ← expect '-' rest
  let (month, rest) ← readFixed 2 1 12 rest
  let rest ← expect '-' rest
  let (_, rest) ← readFixed 2 1 (daysIn year month) rest
  return rest

/-- Drops a time of the day. -/
def readTime (cs : List Char) : Option (List Char) := do
  let (_, rest) ← readFixed 2 0 23 cs
  let rest ← expect ':' rest
  let (_, rest) ← readFixed 2 0 59 rest
  let rest ← expect ':' rest
  let (_, rest) ← readFixed 2 0 60 rest
  match rest with
  | '.' :: digits =>
    let fraction := digits.takeWhile isDecimal
    if fraction.isEmpty then none else some (digits.drop fraction.length)
  | _ => some rest

/-- Drops the distance to universal time. -/
def readOffset (cs : List Char) : Option (List Char) :=
  match cs with
  | c :: rest =>
    if c == 'Z' || c == 'z' then some rest
    else if c == '+' || c == '-' then do
      let (_, rest) ← readFixed 2 0 23 rest
      let rest ← expect ':' rest
      let (_, rest) ← readFixed 2 0 59 rest
      return rest
    else none
  | [] => none

/-- A date, a time, or both with or without an offset. -/
def readMoment (cs : List Char) : Option (Value × List Char) :=
  match readDate cs with
  | some rest =>
    match rest with
    | c :: after =>
      if c == 'T' || c == 't' || c == ' ' then
        match readTime after with
        | some rest =>
          match rest with
          | '+' :: _ | '-' :: _ => (readOffset rest).map fun rest => (.moment, rest)
          | _ => some (.moment, (readOffset rest).getD rest)
        | none => some (.moment, rest)
      else some (.moment, rest)
    | [] => some (.moment, rest)
  | none => (readTime cs).map fun rest => (.moment, rest)

/-- A number, a date or a time: the first of these that the characters start with. -/
def readNumber (cs : List Char) : Option (Value × List Char) :=
  match readMoment cs with
  | some r => some r
  | none =>
    match readFloat cs with
    | some r => some r
    | none =>
      match cs with
      | '0' :: 'x' :: rest => readBased 16 rest
      | '0' :: 'o' :: rest => readBased 8 rest
      | '0' :: 'b' :: rest => readBased 2 rest
      | _ => readWhole cs

/-- A value that is neither an array nor a table. -/
def readScalar (cs : List Char) : Option (Value × List Char) :=
  match cs with
  | '"' :: _ | '\'' :: _ => (readText cs).map fun r => (.text r.1, r.2)
  | 't' :: 'r' :: 'u' :: 'e' :: rest => some (.truth true, rest)
  | 'f' :: 'a' :: 'l' :: 's' :: 'e' :: rest => some (.truth false, rest)
  | _ => readNumber cs

end StagedLaunch.Document
