/-!
# Reading numerals

Whole numbers in a base of at most sixteen. A reader for numbers without a sign accepts a leading plus sign and any number
of leading zeros; a reader for numbers with a sign accepts a minus sign as well. Both refuse a text without digits and
a value out of their range.
-/

namespace StagedLaunch

/-- The value of a digit in bases up to sixteen; letters of either case stand for ten and more. -/
def digitValue? (c : Char) : Option Nat :=
  if '0' ≤ c && c ≤ '9' then some (c.toNat - '0'.toNat)
  else if 'a' ≤ c && c ≤ 'f' then some (c.toNat - 'a'.toNat + 10)
  else if 'A' ≤ c && c ≤ 'F' then some (c.toNat - 'A'.toNat + 10)
  else none

/-- The number that digits write after `value`, most significant digit first. -/
def readDigitsFrom (base value : Nat) : List Char → Option Nat
  | [] => some value
  | c :: rest =>
    match digitValue? c with
    | some d => if d < base then readDigitsFrom base (value * base + d) rest else none
    | none => none

/-- The number that at least one digit writes. -/
def readDigits (base : Nat) : List Char → Option Nat
  | [] => none
  | cs => readDigitsFrom base 0 cs

/-- A number below `bound`, written in digits that a plus sign may precede. -/
def readNatural (base bound : Nat) (cs : List Char) : Option Nat :=
  (readDigits base (match cs with | '+' :: rest => rest | _ => cs)).filter (· < bound)

/-- A number from `low` to `high`, written in decimal digits that a sign may precede. -/
def readInteger (low high : Int) (cs : List Char) : Option Int :=
  let value : Option Int :=
    match cs with
    | '-' :: rest => (readDigits 10 rest).map fun n => -(n : Int)
    | '+' :: rest => (readDigits 10 rest).map Int.ofNat
    | _ => (readDigits 10 cs).map Int.ofNat
  value.filter fun n => low ≤ n && n ≤ high

end StagedLaunch
