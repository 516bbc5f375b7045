/-!
# Blanks and columns

The characters that separate columns of a table and surround a setting's value: the 25 characters with the Unicode
property `White_Space`. `columns` splits at runs of them and `trim` drops them from both ends.
-/

namespace StagedLaunch

/-- A character with the property `White_Space`. -/
def isBlank (c : Char) : Bool :=
  (9 ≤ c.toNat && c.toNat ≤ 13) || c.toNat == 0x20 || c.toNat == 0x85 || c.toNat == 0xA0 || c.toNat == 0x1680 ||
    (0x2000 ≤ c.toNat && c.toNat ≤ 0x200A) || c.toNat == 0x2028 || c.toNat == 0x2029 || c.toNat == 0x202F ||
    c.toNat == 0x205F || c.toNat == 0x3000

/-- A text without the blanks at its two ends. -/
def trim (cs : List Char) : List Char :=
  ((cs.dropWhile isBlank).reverse.dropWhile isBlank).reverse

/-- The maximal runs of characters that are not blank, in order; `word` holds the run read so far, backwards. -/
def columnsFrom (word : List Char) : List Char → List (List Char)
  | [] => if word.isEmpty then [] else [word.reverse]
  | c :: rest =>
    if isBlank c then
      if word.isEmpty then columnsFrom [] rest else word.reverse :: columnsFrom [] rest
    else columnsFrom (c :: word) rest

/-- The columns of a line: its maximal runs of characters that are not blank. -/
def columns (cs : List Char) : List (List Char) :=
  columnsFrom [] cs

end StagedLaunch
