import StagedLaunch.Text.Numeral

/-!
# Binary floating point, exactly

Non-negative numbers with a significand of 53 bits, as natural numbers: rounding a quotient to the nearest of them with ties
to the even significand, and the fewest decimal digits that read back as the same number. Nothing here computes with machine
floats.
-/

namespace StagedLaunch

/-- The number `significand * 2 ^ (shift - 1074)`. -/
structure Binary64 where
  /-- The significand, below `2 ^ 53`. -/
  significand : Nat
  /-- The exponent, counted from the least one. -/
  shift : Nat
deriving DecidableEq, Repr

namespace Binary64

/-- A quotient rounded to the nearest whole number, ties to even. -/
def roundQuotient (num den : Nat) : Nat :=
  let q := num / den
  let r := num % den
  if 2 * r < den then q else if 2 * r > den then q + 1 else q + q % 2

/-- The least significand of 53 bits. -/
def leastNormal : Nat := 0x10000000000000

/-- The nearest number to a quotient; `none` beyond the greatest one. -/
def ofQuotient? (num den : Nat) : Option Binary64 :=
  let whole := num * Nat.pow 2 1074 / den
  let shift := whole.log2 - 52
  let m := roundQuotient (num * Nat.pow 2 1074) (den * Nat.pow 2 shift)
  let (m, shift) := if m == 2 * leastNormal then (leastNormal, shift + 1) else (m, shift)
  if shift ≤ 2045 then some ⟨m, shift⟩ else none

/-- The number as a quotient: the dividend. -/
def numerator (x : Binary64) : Nat := x.significand * Nat.pow 2 (x.shift - 1074)

/-- The number as a quotient: the divisor. -/
def denominator (x : Binary64) : Nat := Nat.pow 2 (1074 - x.shift)

/-- The reals that round to a number, all multiplied by four and by its divisor: the two ends, and whether they belong. -/
def neighbourhood (x : Binary64) : Nat × Nat × Bool :=
  let unit := Nat.pow 2 (x.shift - 1074)
  let below := if x.significand == leastNormal && x.shift != 0 then unit else 2 * unit
  (4 * x.numerator - below, 4 * x.numerator + 2 * unit, x.significand % 2 == 0)

/-- The number of decimal digits before the point, less those that are missing after it: the least `k` with the number below
`10 ^ k`. -/
def magnitude (x : Binary64) : Int :=
  let up : Nat := ((List.range 310).find? fun k => x.numerator < Nat.pow 10 k * x.denominator).getD 310
  if up != 0 then up
  else
    let down := ((List.range 330).find? fun k => x.denominator ≤ x.numerator * Nat.pow 10 (k + 1)).getD 330
    Int.negOfNat down

/-- A decimal with a number of digits that reads back as a number, if there is one: the nearer of the two neighbours on the
grid, an even one when they are equally near. The unit of the grid is `10 ^ (k - count)`. -/
def onGrid? (x : Binary64) (k : Int) (count : Nat) : Option Nat :=
  let up := Nat.pow 10 (k - count).toNat
  let down := Nat.pow 10 (count - k).toNat
  -- The value is `num / den` units of the grid.
  let num := x.numerator * down
  let den := x.denominator * up
  let (lo, hi, closed) := x.neighbourhood
  let inside (n : Nat) : Bool :=
    let p := 4 * n * up * x.denominator
    if closed then lo * down ≤ p && p ≤ hi * down else lo * down < p && p < hi * down
  let n := num / den
  let nearer := roundQuotient num den
  let farther := if nearer == n then n + 1 else n
  if inside nearer then some nearer else if inside farther then some farther else none

/-- The digits of a number in base ten. -/
def decimalDigits (n : Nat) : List Char := (toString n).toList

/-- The fewest decimal digits that read back as a number, and the place of the point: `k` digits stand before it. -/
def shortest (x : Binary64) : List Char × Int :=
  if x.significand == 0 then (['0'], 1)
  else
    let k := x.magnitude
    match (List.range 17).findSome? fun i => x.onGrid? k (i + 1) with
    | none => (['0'], 1)
    | some n =>
      let digits := decimalDigits n
      let count := ((List.range 17).find? fun i => (x.onGrid? k (i + 1)).isSome).getD 0 + 1
      let trimmed := (digits.reverse.dropWhile (· == '0')).reverse
      (trimmed, k + (digits.length - count))

/-- A number in positional notation, with at least one digit on both sides of the point. -/
def positional (x : Binary64) : String :=
  let (digits, k) := x.shortest
  if k ≤ 0 then
    String.ofList (['0', '.'] ++ List.replicate (-k).toNat '0' ++ digits)
  else
    let whole := digits.take k.toNat ++ List.replicate (k.toNat - digits.length) '0'
    let rest := digits.drop k.toNat
    String.ofList (whole ++ ['.'] ++ if rest.isEmpty then ['0'] else rest)

/-- A number as log records show it: positional from `1e-4` to below `1e16`, else with an exponent. -/
def display (x : Binary64) : String :=
  let (digits, k) := x.shortest
  if x.significand == 0 || (-3 ≤ k && k ≤ 16) then x.positional
  else
    let fraction := digits.drop 1
    String.ofList (digits.take 1 ++ (if fraction.isEmpty then [] else '.' :: fraction) ++ ['e'] ++ (toString (k - 1)).toList)

end Binary64

end StagedLaunch
