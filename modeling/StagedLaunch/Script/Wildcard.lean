/-!
# Wildcards

Patterns of the shell: a star stands for any characters, a question mark for one, and brackets for one out of a set. A
character that quotes protect stands for itself.
-/

namespace StagedLaunch.Script

/-- A character of a pattern; `protected` ones stand for themselves. -/
structure Mark where
  /-- The character. -/
  char : Char
  /-- Quotes protect it. -/
  isProtected : Bool
deriving DecidableEq, Repr

/-- The unprotected character of a mark. -/
def Mark.bare? (m : Mark) : Option Char := if m.isProtected then none else some m.char

/-- An item of a set in brackets. -/
inductive SetItem where
  /-- The characters from one to another. -/
  | range (low high : Char)
  /-- The characters of a named class. -/
  | named (name : String)
deriving DecidableEq, Repr

/-- A character belongs to an item of a set. -/
def SetItem.contains (c : Char) : SetItem → Bool
  | .range low high => low ≤ c && c ≤ high
  | .named "alpha" => c.isAlpha
  | .named "digit" => c.isDigit
  | .named "alnum" => c.isAlphanum
  | .named "upper" => c.isUpper
  | .named "lower" => c.isLower
  | .named "space" => c.isWhitespace
  | .named "blank" => c == ' ' || c == '\t'
  | .named _ => false

/-- The items of a set up to its closing bracket, with what follows; `first` says that a closing bracket would be the first
item and stands for itself. -/
def readSet (fuel : Nat) (first : Bool) (items : List SetItem) (ms : List Mark) : Option (List SetItem × List Mark) :=
  match fuel with
  | 0 => none
  | fuel + 1 =>
    match ms with
    | [] => none
    | m :: rest =>
      if m.bare? == some ']' && !first then some (items, rest)
      else
        match m.bare?, rest with
        | some '[', ⟨':', false⟩ :: rest' =>
          let name := rest'.takeWhile fun m => m.char.isAlpha
          match rest'.drop name.length with
          | ⟨':', false⟩ :: ⟨']', false⟩ :: rest =>
            readSet fuel false (.named (String.ofList (name.map Mark.char)) :: items) rest
          | _ => readSet fuel false (.range m.char m.char :: items) rest
        | _, ⟨'-', false⟩ :: high :: rest' =>
          if high.bare? == some ']' then readSet fuel false (.range m.char m.char :: items) rest
          else readSet fuel false (.range m.char high.char :: items) rest'
        | _, _ => readSet fuel false (.range m.char m.char :: items) rest

/-- A set in brackets at the start of a pattern, after its opening bracket: a test of characters, and what follows. -/
def set? (ms : List Mark) : Option ((Char → Bool) × List Mark) :=
  match ms with
  | m :: rest =>
    if m.bare? == some '!' || m.bare? == some '^' then
      (readSet (rest.length + 1) true [] rest).map fun (items, rest) => (fun c => !items.any (SetItem.contains c), rest)
    else (readSet (ms.length + 1) true [] ms).map fun (items, rest) => (fun c => items.any (SetItem.contains c), rest)
  | [] => none

/-- A text matches a pattern; `fuel` bounds the steps. -/
def matchFrom (fuel : Nat) (ms : List Mark) (cs : List Char) : Bool :=
  match fuel with
  | 0 => false
  | fuel + 1 =>
    match ms with
    | [] => cs.isEmpty
    | m :: ms' =>
      match m.bare?, cs with
      | some '*', [] => matchFrom fuel ms' []
      | some '*', _ :: rest => matchFrom fuel ms' cs || matchFrom fuel ms rest
      | some '?', _ :: rest => matchFrom fuel ms' rest
      | some '[', c :: rest =>
        match set? ms' with
        | some (test, ms') => test c && matchFrom fuel ms' rest
        | none => c == '[' && matchFrom fuel ms' rest
      | _, c :: rest => c == m.char && matchFrom fuel ms' rest
      | _, [] => false

/-- A text matches a pattern. -/
def isWildcardMatch (ms : List Mark) (cs : List Char) : Bool := matchFrom (ms.length + cs.length + 1) ms cs

/-- A pattern has a character that does not stand for itself. -/
def hasWildcard (ms : List Mark) : Bool :=
  ms.any fun m => m.bare? == some '*' || m.bare? == some '?' || m.bare? == some '['

/-- What is left of a text when a beginning of it that matches a pattern is gone. -/
def dropMatchingStart (long : Bool) (ms : List Mark) (cs : List Char) : List Char :=
  let lengths := List.range (cs.length + 1)
  match (if long then lengths.reverse else lengths).find? fun n => isWildcardMatch ms (cs.take n) with
  | some n => cs.drop n
  | none => cs

/-- What is left of a text when an end of it that matches a pattern is gone. -/
def dropMatchingEnd (long : Bool) (ms : List Mark) (cs : List Char) : List Char :=
  let lengths := List.range (cs.length + 1)
  match (if long then lengths else lengths.reverse).find? fun n => isWildcardMatch ms (cs.drop n) with
  | some n => cs.take n
  | none => cs

end StagedLaunch.Script
