/-!
# Regular expressions as written

The tree that a pattern's text stands for, before its flags are applied: what is a character, what repeats, what is grouped.
Unions of set members and sequences of expressions are chains of pairs, so that every function on a tree is by recursion on
it.
-/

namespace StagedLaunch.Pattern

/-- A character of a pattern, and whether it was written with exactly two hexadecimal digits, which names a byte where the
pattern is not read as Unicode. -/
structure Literal where
  /-- The character. -/
  char : Char
  /-- It was written as `\x` and two digits. -/
  isByte : Bool
deriving DecidableEq, Repr

/-- The switches that a pattern can set. -/
inductive Flag where
  /-- Letters match both cases. -/
  | caseless
  /-- The line anchors match at every line. -/
  | multiline
  /-- The dot matches line ends. -/
  | dotAll
  /-- Repetitions prefer few turns. -/
  | swapGreed
  /-- Sets and cases are those of Unicode. -/
  | unicode
  /-- A carriage return ends a line too. -/
  | crlf
  /-- Blanks and comments in the pattern are skipped. -/
  | verbose
deriving DecidableEq, Repr

/-- What a place in a text can be asked for. -/
inductive Anchor where
  /-- The start of the text. -/
  | textStart
  /-- The end of the text. -/
  | textEnd
  /-- The start of a line, if lines are asked for, else of the text. -/
  | lineStart
  /-- The end of a line, if lines are asked for, else of the text. -/
  | lineEnd
  /-- A word starts or ends. -/
  | boundary
  /-- No word starts or ends. -/
  | noBoundary
  /-- A word starts. -/
  | wordStart
  /-- A word ends. -/
  | wordEnd
  /-- No word character comes before. -/
  | wordStartHalf
  /-- No word character follows. -/
  | wordEndHalf
deriving DecidableEq, Repr

/-- The sets that one letter after a backslash names. -/
inductive Shorthand where
  /-- Decimal digits. -/
  | digit
  /-- Blanks. -/
  | space
  /-- Characters of words. -/
  | word
deriving DecidableEq, Repr

/-- A property of characters as a pattern names it. -/
inductive PropertyName where
  /-- One name. -/
  | named (name : String)
  /-- A property and a value of it. -/
  | valued (property value : String)
deriving DecidableEq, Repr

/-- How two sets between brackets combine. -/
inductive SetOp where
  /-- Members of both. -/
  | inter
  /-- Members of the first alone. -/
  | diff
  /-- Members of one of them alone. -/
  | symmDiff
deriving DecidableEq, Repr

/-- What stands between brackets. -/
inductive SetExpr where
  /-- No member. -/
  | nothing
  /-- A member, and what follows it. -/
  | also (item rest : SetExpr)
  /-- One character. -/
  | char (l : Literal)
  /-- The characters from one to another. -/
  | range (lo hi : Literal)
  /-- A shorthand. -/
  | shorthand (kind : Shorthand) (negated : Bool)
  /-- A named class of ASCII characters. -/
  | ascii (name : String) (negated : Bool)
  /-- A property. -/
  | property (name : PropertyName) (negated : Bool)
  /-- Brackets in brackets. -/
  | bracket (negated : Bool) (body : SetExpr)
  /-- Two sets and how they combine. -/
  | op (kind : SetOp) (lhs rhs : SetExpr)
deriving Repr

/-- Whether a group captures what it matches. -/
inductive Capture where
  /-- It does not. -/
  | none
  /-- It does, without a name. -/
  | numbered
  /-- It does, under a name. -/
  | named (name : String)
deriving DecidableEq, Repr

/-- An expression. -/
inductive Expr where
  /-- The empty expression. -/
  | nothing
  /-- Flags for what follows up to the end of the group. -/
  | flags (settings : List (Flag × Bool))
  /-- A character. -/
  | literal (l : Literal)
  /-- Any character. -/
  | dot
  /-- An anchor. -/
  | anchor (a : Anchor)
  /-- A shorthand. -/
  | shorthand (kind : Shorthand) (negated : Bool)
  /-- A property. -/
  | property (name : PropertyName) (negated : Bool)
  /-- A set between brackets. -/
  | set (negated : Bool) (body : SetExpr)
  /-- A number of turns from the least to the greatest. -/
  | repeated (e : Expr) (least : Nat) (greatest : Option Nat)
  /-- A group, with the flags it sets. -/
  | group (capture : Capture) (settings : List (Flag × Bool)) (e : Expr)
  /-- One expression after another. -/
  | cat (e f : Expr)
  /-- One expression or another. -/
  | alt (e f : Expr)
deriving Repr

/-- How deep brackets nest. A union of two members or more is a level of its own. -/
def SetExpr.depth : SetExpr → Nat
  | .also item .nothing => item.depth
  | .also item rest => max (item.depth + 1) rest.depth
  | .bracket _ body => body.depth + 1
  | .op _ lhs rhs => max lhs.depth rhs.depth + 1
  | _ => 0

/-- How deep an expression nests. A sequence of two parts or more is a level of its own, and so is a choice; `inCat` and
`inAlt` say that the level of the sequence or the choice around is counted already. -/
def Expr.depthIn (inCat inAlt : Bool) : Expr → Nat
  | .set _ body => body.depth + 1
  | .repeated e _ _ => e.depthIn false false + 1
  | .group _ _ e => e.depthIn false false + 1
  | .cat e f => max (e.depthIn false false) (f.depthIn true false) + if inCat then 0 else 1
  | .alt e f => max (e.depthIn false false) (f.depthIn false true) + if inAlt then 0 else 1
  | _ => 0

/-- How deep an expression nests. -/
def Expr.depth (e : Expr) : Nat := e.depthIn false false

/-- The names of the groups of an expression. -/
def Expr.groupNames : Expr → List String
  | .group (.named name) _ e => name :: e.groupNames
  | .group _ _ e => e.groupNames
  | .repeated e _ _ => e.groupNames
  | .cat e f => e.groupNames ++ f.groupNames
  | .alt e f => e.groupNames ++ f.groupNames
  | _ => []

end StagedLaunch.Pattern
