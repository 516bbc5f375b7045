import StagedLaunch.Pattern.Expr
import StagedLaunch.Unicode.Lookup

/-!
# Patterns

A pattern is an expression with its flags applied: sets of characters, places, sequences, choices and repetitions.
`Pattern.ofExpr?` applies the flags. Where a pattern is not read as Unicode, whatever could match a part of a character is
refused.
-/

namespace StagedLaunch

/-- What a place in a text is asked for. -/
inductive Look where
  /-- The start of the text. -/
  | textStart
  /-- The end of the text. -/
  | textEnd
  /-- The start of a line; `crlf` lets a carriage return end a line too. -/
  | lineStart (crlf : Bool)
  /-- The end of a line. -/
  | lineEnd (crlf : Bool)
  /-- A word starts or ends; `unicode` chooses the characters of words. -/
  | boundary (unicode : Bool)
  /-- No word starts or ends. -/
  | noBoundary (unicode : Bool)
  /-- A word starts. -/
  | wordStart (unicode : Bool)
  /-- A word ends. -/
  | wordEnd (unicode : Bool)
  /-- No word character comes before. -/
  | wordStartHalf (unicode : Bool)
  /-- No word character follows. -/
  | wordEndHalf (unicode : Bool)
deriving DecidableEq, Repr

/-- A pattern. -/
inductive Pattern where
  /-- Matches nothing but the empty text. -/
  | empty
  /-- Matches one character of a set. -/
  | set (s : CharSet)
  /-- Matches the empty text at certain places. -/
  | look (l : Look)
  /-- One after another. -/
  | cat (p q : Pattern)
  /-- One or the other. -/
  | alt (p q : Pattern)
  /-- Several turns. -/
  | repeated (p : Pattern) (least : Nat) (greatest : Option Nat)
  /-- A group that captures. -/
  | capture (p : Pattern)
deriving Repr

namespace Pattern

/-- The flags in force. -/
structure Flags where
  /-- Letters match both cases. -/
  caseless : Bool
  /-- The line anchors match at every line. -/
  multiline : Bool
  /-- The dot matches line ends. -/
  dotAll : Bool
  /-- Sets and cases are those of Unicode. -/
  unicode : Bool
  /-- A carriage return ends a line too. -/
  crlf : Bool
deriving DecidableEq, Repr

/-- The flags at the start of a pattern. -/
def Flags.initial : Flags := ⟨false, false, false, true, false⟩

/-- Flags with one of them set or taken away. Greed and blanks do not matter any more. -/
def Flags.change (f : Flags) (setting : Flag × Bool) : Flags :=
  match setting with
  | (.caseless, b) => { f with caseless := b }
  | (.multiline, b) => { f with multiline := b }
  | (.dotAll, b) => { f with dotAll := b }
  | (.unicode, b) => { f with unicode := b }
  | (.crlf, b) => { f with crlf := b }
  | (.swapGreed, _) => f
  | (.verbose, _) => f

/-- The letters of ASCII in both cases, as pairs. -/
def asciiClosure (s : CharSet) : CharSet :=
  let shifted (lo hi : Nat) (delta : Int) : List (Nat × Nat) :=
    s.runs.filterMap fun r =>
      let a := max r.1 lo
      let b := min r.2 hi
      if a ≤ b then some ((a + delta).toNat, (b + delta).toNat) else none
  CharSet.ofRuns (s.runs ++ shifted 0x41 0x5A 32 ++ shifted 0x61 0x7A (-32))

/-- A set with the characters that differ in case only, where letters match both cases. -/
def fold (f : Flags) (s : CharSet) : CharSet :=
  if f.caseless then if f.unicode then Unicode.foldingClosure s else asciiClosure s else s

/-- The complement of a set, if it is asked for. Without Unicode there is none that keeps characters whole. -/
def negate (f : Flags) (negated : Bool) (s : CharSet) : Option CharSet :=
  if negated then if f.unicode then some s.complement else none else some s

/-- The character of a literal. Without Unicode, a byte that is no character is refused. -/
def charOf (f : Flags) (l : Literal) : Option Nat :=
  if !f.unicode && l.isByte && 0x80 ≤ l.char.toNat then none else some l.char.toNat

/-- The character of a literal in a set, which without Unicode must be in ASCII. -/
def memberOf (f : Flags) (l : Literal) : Option Nat :=
  if !f.unicode && 0x80 ≤ l.char.toNat then none else some l.char.toNat

/-- The characters of words in ASCII. -/
def asciiWord : CharSet := CharSet.ofRuns [(0x30, 0x39), (0x41, 0x5A), (0x5F, 0x5F), (0x61, 0x7A)]

/-- The set that a shorthand names. -/
def shorthandSet (f : Flags) (kind : Shorthand) (negated : Bool) : Option CharSet :=
  let s := match kind, f.unicode with
    | .digit, true => Unicode.decimalDigits
    | .digit, false => CharSet.range 0x30 0x39
    | .space, true => Unicode.blanks
    | .space, false => CharSet.ofRuns [(9, 13), (0x20, 0x20)]
    | .word, true => Unicode.wordCharacters
    | .word, false => asciiWord
  negate f negated s

/-- The set that the name of a class of ASCII characters gives. -/
def asciiSet (name : String) : CharSet :=
  CharSet.ofRuns <| match name with
    | "alnum" => [(0x30, 0x39), (0x41, 0x5A), (0x61, 0x7A)]
    | "alpha" => [(0x41, 0x5A), (0x61, 0x7A)]
    | "ascii" => [(0, 0x7F)]
    | "blank" => [(9, 9), (0x20, 0x20)]
    | "cntrl" => [(0, 0x1F), (0x7F, 0x7F)]
    | "digit" => [(0x30, 0x39)]
    | "graph" => [(0x21, 0x7E)]
    | "lower" => [(0x61, 0x7A)]
    | "print" => [(0x20, 0x7E)]
    | "punct" => [(0x21, 0x2F), (0x3A, 0x40), (0x5B, 0x60), (0x7B, 0x7E)]
    | "space" => [(9, 13), (0x20, 0x20)]
    | "upper" => [(0x41, 0x5A)]
    | "word" => [(0x30, 0x39), (0x41, 0x5A), (0x5F, 0x5F), (0x61, 0x7A)]
    | "xdigit" => [(0x30, 0x39), (0x41, 0x46), (0x61, 0x66)]
    | _ => []

/-- The set that a property names. Cases are folded before the complement is taken. -/
def propertySet (f : Flags) (name : PropertyName) (negated : Bool) : Option CharSet := do
  guard f.unicode
  let s ← match name with
    | .named n => Unicode.named? n
    | .valued p v => Unicode.valued? p v
  negate f negated (fold f s)

/-- The set that stands between brackets, without the complement of the outermost ones. -/
def setOf (f : Flags) : SetExpr → Option CharSet
  | .nothing => some CharSet.empty
  | .also item rest => do return (← setOf f item).union (← setOf f rest)
  | .char l => (memberOf f l).map CharSet.single
  | .range lo hi => do return CharSet.range (← memberOf f lo) (← memberOf f hi)
  | .shorthand kind negated => shorthandSet f kind negated
  | .ascii name negated => negate f negated (fold f (asciiSet name))
  | .property name negated => propertySet f name negated
  | .bracket negated body => do negate f negated (fold f (← setOf f body))
  | .op kind lhs rhs => do
    let s := fold f (← setOf f lhs)
    let t := fold f (← setOf f rhs)
    return match kind with
      | .inter => s.inter t
      | .diff => s.diff t
      | .symmDiff => s.symmDiff t

/-- What an anchor asks for. -/
def lookOf (f : Flags) : Anchor → Look
  | .textStart => .textStart
  | .textEnd => .textEnd
  | .lineStart => if f.multiline then .lineStart f.crlf else .textStart
  | .lineEnd => if f.multiline then .lineEnd f.crlf else .textEnd
  | .boundary => .boundary f.unicode
  | .noBoundary => .noBoundary f.unicode
  | .wordStart => .wordStart f.unicode
  | .wordEnd => .wordEnd f.unicode
  | .wordStartHalf => .wordStartHalf f.unicode
  | .wordEndHalf => .wordEndHalf f.unicode

/-- The characters that the dot matches. -/
def dotSet (f : Flags) : Option CharSet :=
  if !f.unicode then none
  else if f.dotAll then some CharSet.empty.complement
  else if f.crlf then some (CharSet.ofRuns [(10, 10), (13, 13)]).complement
  else some (CharSet.single 10).complement

/-- An expression with its flags applied, and the flags in force after it. -/
def withFlags (f : Flags) : Expr → Option (Pattern × Flags)
  | .nothing => some (.empty, f)
  | .flags settings => some (.empty, settings.foldl Flags.change f)
  | .literal l => do
    let n ← charOf f l
    return (.set (fold f (CharSet.single n)), f)
  | .dot => (dotSet f).map fun s => (.set s, f)
  | .anchor a => some (.look (lookOf f a), f)
  | .shorthand kind negated => (shorthandSet f kind negated).map fun s => (.set s, f)
  | .property name negated => (propertySet f name negated).map fun s => (.set s, f)
  | .set negated body => do
    let s ← setOf f body
    let s ← negate f negated (fold f s)
    return (.set s, f)
  | .repeated e least greatest => do
    let (p, f) ← withFlags f e
    return (.repeated p least greatest, f)
  | .group kind settings e => do
    let (p, _) ← withFlags (settings.foldl Flags.change f) e
    return (if kind == .none then p else .capture p, f)
  | .cat e e' => do
    let (p, f) ← withFlags f e
    let (q, f) ← withFlags f e'
    return (.cat p q, f)
  | .alt e e' => do
    let (p, f) ← withFlags f e
    let (q, f) ← withFlags f e'
    return (.alt p q, f)

/-- The pattern that an expression stands for. -/
def ofExpr? (e : Expr) : Option Pattern := (withFlags Flags.initial e).map (·.1)

end Pattern

end StagedLaunch
