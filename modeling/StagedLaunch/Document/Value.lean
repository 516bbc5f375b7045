import StagedLaunch.Text.Binary64

/-!
# Values of a configuration document

A document is a table of named values in the order in which their names first appear. Tables remember how they came about,
because that decides what may still be added to them.
-/

namespace StagedLaunch.Document

/-- A floating-point number. -/
inductive Real where
  /-- A number with its sign. -/
  | finite (negative : Bool) (magnitude : Binary64)
  /-- Infinity with its sign. -/
  | infinite (negative : Bool)
  /-- What is not a number. -/
  | notANumber
deriving DecidableEq, Repr

/-- A floating-point number in positional notation. -/
def Real.render : Real → String
  | .finite negative magnitude => (if negative then "-" else "") ++ magnitude.positional
  | .infinite negative => if negative then "-inf" else "inf"
  | .notANumber => "NaN"

/-- How a table came about. -/
inductive Origin where
  /-- It has a header of its own. -/
  | header
  /-- It stands in the header of another table. -/
  | implied
  /-- It stands before a dot in a key. -/
  | dotted
  /-- It is written between braces. -/
  | braces
deriving DecidableEq, Repr

/-- A value. -/
inductive Value where
  /-- A text. -/
  | text (s : String)
  /-- A whole number of 64 bits. -/
  | integer (n : Int)
  /-- A floating-point number. -/
  | real (x : Real)
  /-- True or false. -/
  | truth (b : Bool)
  /-- A date, a time, or both. -/
  | moment
  /-- Values between brackets. -/
  | array (items : List Value)
  /-- A table. -/
  | table (origin : Origin) (entries : List (String × Value))
  /-- Tables that each have a header with the same name between double brackets. -/
  | tables (items : List (List (String × Value)))
deriving Repr

/-- The named values of a table. -/
abbrev Entries := List (String × Value)

/-- The name of the type of a value. -/
def Value.typeName : Value → String
  | .text _ => "string"
  | .integer _ => "integer"
  | .real _ => "float"
  | .truth _ => "boolean"
  | .moment => "datetime"
  | .array _ => "array"
  | .table .braces _ => "inline table"
  | .table _ _ => "table"
  | .tables _ => "array of tables"

end StagedLaunch.Document
