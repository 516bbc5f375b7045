import StagedLaunch.Unicode.Lookup

/-!
# Quoted text

A text between double quotes in which every character that would not show, or that would attach to the one before it, is
written as an escape. Log records and readiness checks show texts in this form.
-/

namespace StagedLaunch

namespace Quoted

/-- The categories of characters that do not show: controls, formats, surrogates, private use, unassigned code points and
separators. -/
def hiddenCategories : List String := ["C", "Cs", "Z"]

/-- The characters written as numbers: those that do not show and those that extend the character before them. The space
shows. -/
def hidden : CharSet :=
  let marks := Unicode.tableSet Unicode.propertyRuns "Grapheme_Extend"
  ((hiddenCategories.map Unicode.categorySet).foldl CharSet.union marks).diff (CharSet.single 0x20)

/-- A digit of a number in base sixteen, in lower case. -/
def hexDigit (n : Nat) : Char :=
  if n < 10 then Char.ofNat (n + '0'.toNat) else Char.ofNat (n - 10 + 'a'.toNat)

/-- The digits of a number in base sixteen, most significant first, at most `fuel` of them. -/
def hexDigits : Nat → Nat → List Char
  | 0, _ => []
  | fuel + 1, n => (if n < 16 then [] else hexDigits fuel (n / 16)) ++ [hexDigit (n % 16)]

/-- A character that is written as its number, with the braces around it. -/
def escapeNumber (c : Char) : List Char :=
  ['\\', 'u', Char.ofNat 0x7B] ++ hexDigits 8 c.toNat ++ [Char.ofNat 0x7D]

/-- How a character is written between quotes. -/
def escapeChar (c : Char) : List Char :=
  match c with
  | '\x00' => ['\\', '0']
  | '\t' => ['\\', 't']
  | '\r' => ['\\', 'r']
  | '\n' => ['\\', 'n']
  | '\\' => ['\\', '\\']
  | '"' => ['\\', '"']
  | _ =>
    if 0x20 ≤ c.toNat && c.toNat < 0x7F then [c]
    else if hidden.contains c.toNat then escapeNumber c
    else [c]

end Quoted

/-- A text between double quotes, with escapes for what would not show. -/
def quoted (s : String) : String :=
  String.ofList ('"' :: s.toList.flatMap Quoted.escapeChar ++ ['"'])

end StagedLaunch
