/-!
# Shell commands

The commands of the shell language, and the words that they are made of. A word is a list of parts, some of which stand for
themselves and some for what they expand to. The commands inside a command substitution are kept as text.
-/

namespace StagedLaunch.Script

/-- What a parameter expansion does with the value of the parameter. -/
inductive ParamOp where
  /-- It gives the value. -/
  | value
  /-- It gives the length of the value. -/
  | length
  /-- It gives a word if there is no value; `empty` says that an empty value counts as none. -/
  | default (empty : Bool)
  /-- The same, and the word becomes the value. -/
  | assign (empty : Bool)
  /-- It fails with a word if there is no value. -/
  | demand (empty : Bool)
  /-- It gives a word if there is a value. -/
  | alternative (empty : Bool)
  /-- It gives the value without an end that matches a pattern; `long` asks for the longest such end. -/
  | dropEnd (long : Bool)
  /-- It gives the value without a beginning that matches a pattern. -/
  | dropStart (long : Bool)
deriving DecidableEq, Repr

/-- A part of a word. `inQuotes` says that the part stands between double quotes. -/
inductive Part where
  /-- Characters outside quotes. -/
  | literal (cs : List Char)
  /-- Characters that quotes protect. -/
  | quoted (cs : List Char)
  /-- A parameter. -/
  | param (name : String) (inQuotes : Bool) (op : ParamOp) (word : List Part)
  /-- The output of commands. -/
  | command (source : List Char) (inQuotes : Bool)
  /-- The value of an arithmetic expression. -/
  | arithmetic (body : List Part) (inQuotes : Bool)
  /-- What an expansion has given. -/
  | expanded (cs : List Char) (inQuotes : Bool)

/-- A word. -/
abbrev Word := List Part

/-- How a redirection opens its target. -/
inductive RedirectMode where
  /-- For reading. -/
  | read
  /-- For writing, from the start. -/
  | write
  /-- For writing, at the end. -/
  | append
  /-- As another descriptor, or not at all. -/
  | copy
deriving DecidableEq, Repr

/-- A redirection of a descriptor. -/
structure Redirect where
  /-- The descriptor. -/
  fd : Nat
  /-- How the target is opened. -/
  mode : RedirectMode
  /-- The target. -/
  target : Word

/-- A command. -/
inductive Command where
  /-- Assignments, and a program or function with its arguments; `line` is where it stands. -/
  | simple (line : Nat) (assigns : List (String × Word)) (words : List Word) (redirects : List Redirect)
  /-- A pipeline, whose status may be negated. -/
  | pipeline (negated : Bool) (parts : List Command)
  /-- The second command follows if the first succeeds. -/
  | both (first second : Command)
  /-- The second command follows if the first fails. -/
  | either (first second : Command)
  /-- Commands one after the other. -/
  | sequence (commands : List Command)
  /-- A command that is not waited for. -/
  | background (body : Command)
  /-- A command in a shell of its own. -/
  | subshell (body : Command)
  /-- A choice. -/
  | branch (condition yes no : Command)
  /-- A loop as long as the condition succeeds, or fails if negated. -/
  | loop (negated : Bool) (condition body : Command)
  /-- A loop over words, or over the arguments. -/
  | each (name : String) (words : Option (List Word)) (body : Command)
  /-- A choice among patterns. -/
  | select (word : Word) (items : List (List Word × Command))
  /-- The definition of a function. -/
  | define (name : String) (body : Command)
  /-- A command with redirections. -/
  | redirected (line : Nat) (body : Command) (redirects : List Redirect)

/-- The command that does nothing. -/
def Command.nothing : Command := .sequence []

end StagedLaunch.Script
