import StagedLaunch.Text.Blank
import StagedLaunch.Text.Numeral

/-!
# Sets of characters

A set of Unicode scalar values, kept as ascending runs that neither overlap nor touch. Union, intersection, difference and
complement give sets in the same form.
-/

namespace StagedLaunch

/-- A set of code points as ascending runs, each given by its first and its last member, with gaps between them. -/
structure CharSet where
  /-- The runs. -/
  runs : List (Nat × Nat)
deriving Inhabited, DecidableEq, Repr

namespace CharSet

/-- The set without members. -/
def empty : CharSet := ⟨[]⟩

/-- Merges ascending runs where they overlap or touch; `lo` and `hi` bound the run that is open. -/
def mergeFrom (lo hi : Nat) : List (Nat × Nat) → List (Nat × Nat)
  | [] => [(lo, hi)]
  | (a, b) :: rest => if a ≤ hi + 1 then mergeFrom lo (max hi b) rest else (lo, hi) :: mergeFrom a b rest

/-- The set of the members of any runs; a run whose end comes before its start is empty. -/
def ofRuns (runs : List (Nat × Nat)) : CharSet :=
  match (runs.filter fun r => r.1 ≤ r.2).mergeSort (fun r s => r.1 ≤ s.1) with
  | [] => ⟨[]⟩
  | (a, b) :: rest => ⟨mergeFrom a b rest⟩

/-- The set of the characters from one to another. -/
def range (lo hi : Nat) : CharSet := ofRuns [(lo, hi)]

/-- The set of one character. -/
def single (n : Nat) : CharSet := ⟨[(n, n)]⟩

/-- Membership. -/
def contains (s : CharSet) (n : Nat) : Bool :=
  s.runs.any fun r => r.1 ≤ n && n ≤ r.2

/-- The members of either set. -/
def union (s t : CharSet) : CharSet := ofRuns (s.runs ++ t.runs)

/-- The runs between ascending runs, from `next` to the last code point. -/
def gapsFrom (next : Nat) : List (Nat × Nat) → List (Nat × Nat)
  | [] => if next ≤ 0x10FFFF then [(next, 0x10FFFF)] else []
  | (a, b) :: rest => if next < a then (next, a - 1) :: gapsFrom (b + 1) rest else gapsFrom (b + 1) rest

/-- The scalar values that are not in a set. -/
def complement (s : CharSet) : CharSet :=
  ⟨gapsFrom 0 (s.union (range 0xD800 0xDFFF)).runs⟩

/-- The members of both sets. -/
def inter (s t : CharSet) : CharSet := (s.complement.union t.complement).complement

/-- The members of the first set that are not in the second. -/
def diff (s t : CharSet) : CharSet := (s.complement.union t).complement

/-- The members of exactly one of two sets. -/
def symmDiff (s t : CharSet) : CharSet := (s.diff t).union (t.diff s)

/-- The set has no members. -/
def isEmpty (s : CharSet) : Bool := s.runs.isEmpty

/-- Every member is an ASCII character. -/
def isAscii (s : CharSet) : Bool := s.runs.all fun r => r.2 < 0x80

/-- The only member of a set that has just one. -/
def only? (s : CharSet) : Option Nat :=
  match s.runs with
  | [(a, b)] => if a == b then some a else none
  | _ => none

/-- A run written as one hexadecimal number or as two with a hyphen between them. -/
def readRun (cs : List Char) : Option (Nat × Nat) :=
  match cs.span (· != '-') with
  | (first, []) => (readDigits 16 first).map fun a => (a, a)
  | (first, _ :: last) => do return (← readDigits 16 first, ← readDigits 16 last)

/-- The set that a table writes as runs with blanks between them. -/
def ofTable (text : String) : CharSet :=
  ofRuns ((columns text.toList).filterMap readRun)

end CharSet

end StagedLaunch
