import StagedLaunch.Pattern.Basic

/-!
# The size of a pattern's automaton

How many bytes the two automata of a pattern take, one that reads forwards and one that reads backwards, when each state
takes 32 bytes, each further transition of a state eight and each further way out of a fork four. A pattern whose automaton
would be too big is refused.

Both read the bytes of a text. A set of characters is therefore split into sequences of byte ranges; forwards they form an
automaton whose equal states are one, backwards they share what they have in common at the start.
-/

namespace StagedLaunch.Pattern

/-- A range of bytes. -/
abbrev ByteRange := Nat × Nat

/-- The bytes that encode a code point. -/
def encodeChar (n : Nat) : List Nat :=
  if n < 0x80 then [n]
  else if n < 0x800 then [0xC0 + n / 64, 0x80 + n % 64]
  else if n < 0x10000 then [0xE0 + n / 4096, 0x80 + n / 64 % 64, 0x80 + n % 64]
  else [0xF0 + n / 262144, 0x80 + n / 4096 % 64, 0x80 + n / 64 % 64, 0x80 + n % 64]

/-- Where to cut a run of code points so that its parts come nearer to one sequence of byte ranges: the last code point of
the first part. -/
def cut? (lo hi : Nat) : Option Nat :=
  let lengths := [0x7F, 0x7FF, 0xFFFF].find? fun m => lo ≤ m && m < hi
  match lengths with
  | some m => some m
  | none =>
    if hi < 0x80 then none
    else
      [64, 4096, 262144].findSome? fun unit =>
        if lo / unit == hi / unit then none
        else if lo % unit != 0 then some (lo / unit * unit + unit - 1)
        else if hi % unit != unit - 1 then some (hi / unit * unit - 1)
        else none

/-- The sequences of byte ranges that encode a run of code points, in order. -/
def sequences (fuel : Nat) (lo hi : Nat) : List (List ByteRange) :=
  match fuel with
  | 0 => []
  | fuel + 1 =>
    match cut? lo hi with
    | some m => sequences fuel lo m ++ sequences fuel (m + 1) hi
    | none => [(encodeChar lo).zip (encodeChar hi)]

/-- The sequences of byte ranges that encode the characters of a set, in order. -/
def setSequences (s : CharSet) : List (List ByteRange) :=
  s.runs.flatMap fun r => sequences 32 r.1 r.2

/-- Sequences grouped by their first range, where equal ones stand side by side. -/
def groupByHead : List (List ByteRange) → List (ByteRange × List (List ByteRange))
  | [] => []
  | [] :: rest => groupByHead rest
  | (r :: tail) :: rest =>
    match groupByHead rest with
    | (r', tails) :: groups => if r == r' then (r, tail :: tails) :: groups else (r, [tail]) :: (r', tails) :: groups
    | [] => [(r, [tail])]

/-- The states of an automaton: the transitions of each and its number. -/
abbrev States := List (List (ByteRange × Nat) × Nat)

/-- The number of the state that reads the given sequences; zero is the state after them. States that are equal are one. -/
def stateOf (fuel : Nat) (states : States) (seqs : List (List ByteRange)) : Nat × States :=
  match fuel with
  | 0 => (0, states)
  | fuel + 1 =>
    if seqs.all List.isEmpty then (0, states)
    else
      let step (acc : List (ByteRange × Nat) × States) (g : ByteRange × List (List ByteRange)) :=
        let (id, states) := stateOf fuel acc.2 g.2
        ((g.1, id) :: acc.1, states)
      let (transitions, states) := (groupByHead seqs).foldl step ([], states)
      match states.lookup transitions with
      | some id => (id, states)
      | none => (states.length + 1, (transitions, states.length + 1) :: states)

/-- How many ranges the sequences have when those share what they have in common at the start. -/
def sharedRanges (fuel : Nat) (seqs : List (List ByteRange)) : Nat :=
  match fuel with
  | 0 => 0
  | fuel + 1 => (groupByHead seqs).foldl (fun n g => n + 1 + sharedRanges fuel g.2) 0

/-- The size of a set's automaton. -/
def setSize (backwards : Bool) (s : CharSet) : Nat :=
  match s.only? with
  | some n => 32 * (encodeChar n).length
  | none =>
    if s.isEmpty then 32
    else if s.isAscii then 64 + 8 * s.runs.length
    else
      let seqs := setSequences s
      if backwards then 64 + 4 * seqs.length + 32 * sharedRanges 4 seqs
      else (stateOf 5 [] seqs).2.foldl (fun n e => n + 32 + 8 * e.1.length) 32

/-- The least length of a match in bytes that are not zero is all that matters: a pattern can match the empty text. -/
def nullable : Pattern → Bool
  | .empty => true
  | .set _ => false
  | .look _ => true
  | .cat p q => nullable p && nullable q
  | .alt p q => nullable p || nullable q
  | .repeated p least _ => least == 0 || nullable p
  | .capture p => nullable p

/-- A pattern only matches the empty text. -/
def onlyEmpty : Pattern → Bool
  | .empty => true
  | .set _ => false
  | .look _ => true
  | .cat p q => onlyEmpty p && onlyEmpty q
  | .alt p q => onlyEmpty p && onlyEmpty q
  | .repeated p _ greatest => greatest == some 0 || onlyEmpty p
  | .capture p => onlyEmpty p

/-- The branches of a choice. -/
def branches : Pattern → List Pattern
  | .alt p q => branches p ++ branches q
  | p => [p]

/-- One set for a choice between sets. -/
def mergeSets : List Pattern → Option CharSet
  | [] => some CharSet.empty
  | .set s :: rest => (mergeSets rest).map s.union
  | _ => none

/-- A pattern without parts that do nothing: empty parts of sequences, single turns, and choices between single
characters. -/
def simplify : Pattern → Pattern
  | .cat p q =>
    match simplify p, simplify q with
    | .empty, q => q
    | p, .empty => p
    | p, q => .cat p q
  | .alt p q =>
    let r := .alt (simplify p) (simplify q)
    match mergeSets (branches r) with
    | some s => .set s
    | none => r
  | .repeated p least greatest =>
    let p := simplify p
    let (least, greatest) :=
      if onlyEmpty p then (min least 1, some (min (greatest.getD 1) 1)) else (least, greatest)
    if greatest == some 0 then .empty
    else if least == 1 && greatest == some 1 then p
    else .repeated p least greatest
  | .capture p => .capture (simplify p)
  | p => p

/-- The size of a repetition of a part with a given size. -/
def repeatedSize (part : Nat) (canBeEmpty : Bool) (least : Nat) (greatest : Option Nat) : Nat :=
  let exactly (n : Nat) : Nat := if n == 0 then 32 else n * part
  match greatest with
  | none => if least == 0 then if canBeEmpty then part + 112 else part + 40 else exactly least + 40
  | some n =>
    if least == 0 && n == 1 then part + 72
    else if least == n then exactly least
    else exactly least + 32 + (n - least) * (40 + part)

/-- The size of a simplified pattern, without what surrounds it; `branch` says that it is part of a choice whose states are
counted elsewhere. -/
def partSize (backwards branch : Bool) : Pattern → Nat
  | .empty => 32
  | .set s => setSize backwards s
  | .look _ => 32
  | .cat p q => partSize backwards false p + partSize backwards false q
  | .alt p q =>
    partSize backwards true p + partSize backwards true q +
      if branch then 0 else 64 + 4 * (branches (.alt p q)).length
  | .repeated p least greatest => repeatedSize (partSize backwards false p) (nullable p) least greatest
  | .capture p => partSize backwards false p + if backwards then 0 else 64

/-- The size of the larger of a pattern's two automata, with the states that start a match anywhere and end it. -/
def size (p : Pattern) : Nat :=
  let p := simplify p
  max (partSize false false p + 208) (partSize true false p + 144)

/-- The greatest size. -/
def sizeLimit : Nat := 10485760

end StagedLaunch.Pattern
