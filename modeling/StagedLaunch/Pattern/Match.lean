import StagedLaunch.Pattern.Basic

/-!
# Matching

A set of places in a text is a number whose bits are the places. `Located` is a pattern in which each set of characters and
each anchor is replaced by the places where it applies; its `run` takes the places where a match may start to those where it
may end. A repetition never needs more turns than the text has places, because what a turn can reach lies no further back.
-/

namespace StagedLaunch.Pattern

/-- A text as a pattern sees it. -/
abbrev Subject := Array Char

/-- A pattern on one text. -/
inductive Located where
  /-- The empty match everywhere. -/
  | empty
  /-- One character at the places of a set. -/
  | step (places : Nat)
  /-- The empty match at the places of a set. -/
  | here (places : Nat)
  /-- One after another. -/
  | cat (p q : Located)
  /-- One or the other. -/
  | alt (p q : Located)
  /-- Several turns. -/
  | repeated (p : Located) (least : Nat) (greatest : Option Nat)

/-- The places up to a length that satisfy a condition. -/
def placesWhere (length : Nat) (p : Nat → Bool) : Nat :=
  (List.range (length + 1)).foldl (fun acc i => if p i then acc ||| (1 <<< i) else acc) 0

/-- The set of the characters of words. -/
def wordSet (unicode : Bool) : CharSet := if unicode then Unicode.wordCharacters else asciiWord

/-- A word character stands at a place. -/
def wordAt (unicode : Bool) (t : Subject) (i : Nat) : Bool :=
  match t[i]? with
  | some c =>
    if c.toNat < 0x80 then asciiWord.contains c.toNat else unicode && (wordSet unicode).contains c.toNat
  | none => false

/-- A word character stands before a place. -/
def wordBefore (unicode : Bool) (t : Subject) (i : Nat) : Bool :=
  match i with
  | 0 => false
  | i + 1 => wordAt unicode t i

/-- The character before a place. -/
def before? (t : Subject) (i : Nat) : Option Char :=
  match i with
  | 0 => none
  | i + 1 => t[i]?

/-- An anchor applies at a place. -/
def lookAt (t : Subject) (l : Look) (i : Nat) : Bool :=
  match l with
  | .textStart => i == 0
  | .textEnd => i == t.size
  | .lineStart false => i == 0 || before? t i == some '\n'
  | .lineStart true =>
    i == 0 || before? t i == some '\n' || (before? t i == some '\r' && t[i]? != some '\n')
  | .lineEnd false => i == t.size || t[i]? == some '\n'
  | .lineEnd true =>
    i == t.size || t[i]? == some '\r' || (t[i]? == some '\n' && before? t i != some '\r')
  | .boundary u => wordBefore u t i != wordAt u t i
  | .noBoundary u => wordBefore u t i == wordAt u t i
  | .wordStart u => !wordBefore u t i && wordAt u t i
  | .wordEnd u => wordBefore u t i && !wordAt u t i
  | .wordStartHalf u => !wordBefore u t i
  | .wordEndHalf u => !wordAt u t i

/-- A pattern on a text. -/
def locate (t : Subject) : Pattern → Located
  | .empty => .empty
  | .set s => .step (placesWhere t.size fun i => (t[i]?).any fun c => s.contains c.toNat)
  | .look l => .here (placesWhere t.size (lookAt t l))
  | .cat p q => .cat (locate t p) (locate t q)
  | .alt p q => .alt (locate t p) (locate t q)
  | .repeated p least greatest => .repeated (locate t p) least greatest
  | .capture p => locate t p

/-- Takes a number of turns, stopping where a turn changes nothing. -/
def turns (f : Nat → Nat) : Nat → Nat → Nat
  | 0, places => places
  | n + 1, places =>
    let next := f places
    if next == places then places else turns f n next

/-- The places that at most a number of turns reach; `fresh` are those that the last turn added. -/
def reach (f : Nat → Nat) : Nat → Nat → Nat → Nat
  | 0, seen, _ => seen
  | n + 1, seen, fresh =>
    let next := f fresh
    let added := next ^^^ (next &&& seen)
    if added == 0 then seen else reach f n (seen ||| added) added

/-- The places where a match that starts at one of `places` can end, in a text with `size` characters. -/
def Located.run (size : Nat) : Located → Nat → Nat
  | .empty, places => places
  | .step applies, places => (places &&& applies) <<< 1
  | .here applies, places => places &&& applies
  | .cat p q, places => q.run size (p.run size places)
  | .alt p q, places => p.run size places ||| q.run size places
  | .repeated p least greatest, places =>
    let start := turns (p.run size) (min least (size + 1)) places
    let more := match greatest with
      | some n => min (n - least) (size + 1)
      | none => size + 1
    reach (p.run size) more start start

/-- A pattern matches somewhere in a text. -/
def isMatch (p : Pattern) (text : List Char) : Bool :=
  let t := text.toArray
  (locate t p).run t.size (Nat.pow 2 (t.size + 1) - 1) != 0

end StagedLaunch.Pattern
