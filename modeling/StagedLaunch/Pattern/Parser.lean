import StagedLaunch.Pattern.Escape

/-!
# Reading regular expressions

`Expr.parse?` reads the text of a pattern. Sets between brackets may hold sets, ranges and the operators `&&`, `--` and `~~`,
which associate to the left. Groups may set flags, and a group of flags alone sets them up to the end of the group around it.
-/

namespace StagedLaunch.Pattern

/-- The names of the classes of ASCII characters. -/
def asciiNames : List String :=
  ["alnum", "alpha", "ascii", "blank", "cntrl", "digit", "graph", "lower", "print", "punct", "space", "upper", "word",
   "xdigit"]

/-- A class of ASCII characters after its opening bracket, if the characters are one. -/
def readAscii? (cs : List Char) : Option (SetExpr × List Char) :=
  match cs with
  | ':' :: rest =>
    let (negated, rest) := match rest with
      | '^' :: rest => (true, rest)
      | rest => (false, rest)
    let name := String.ofList (rest.takeWhile (· != ':'))
    match rest.dropWhile (· != ':') with
    | ':' :: ']' :: rest => if asciiNames.contains name then some (.ascii name negated, rest) else none
    | _ => none
  | _ => none

/-- What an expression means as the member of a set, if it can be one. -/
def memberOf? : Expr → Option SetExpr
  | .literal l => some (.char l)
  | .shorthand kind negated => some (.shorthand kind negated)
  | .property name negated => some (.property name negated)
  | _ => none

/-- The union of members that are given backwards. -/
def unionOf (items : List SetExpr) : SetExpr := items.foldl (fun rest item => .also item rest) .nothing

/-- A set with the operator that waits for it. -/
def applyPending (pending : Option (SetOp × SetExpr)) (s : SetExpr) : SetExpr :=
  match pending with
  | some (op, lhs) => .op op lhs s
  | none => s

/-- One character of a set, which may be an escape. -/
def readSetItem (verbose : Bool) : List Char → Option (Expr × List Char)
  | [] => none
  | '\\' :: rest => readEscape verbose rest
  | c :: rest => some (.literal ⟨c, false⟩, rest)

/-- What decides whether a hyphen makes a range: the next character that is not blank, after one number sign at most. -/
def peekPast (seen : Bool) : List Char → Option Char
  | [] => none
  | c :: rest =>
    if isBlank c then peekPast seen rest
    else if !seen && c == '#' then peekPast true rest
    else some c

/-- A member of a set: one character, a range of them, or what an escape names. -/
def readMember (verbose : Bool) (cs : List Char) : Option (SetExpr × List Char) := do
  let (first, rest) ← readSetItem verbose cs
  match skip verbose rest with
  | [] => none
  | '-' :: after =>
    let next := if verbose then peekPast false after else after.head?
    if next == some ']' || next == some '-' then return (← memberOf? first, '-' :: after)
    let (last, rest) ← readSetItem verbose (skip verbose after)
    match first, last with
    | .literal lo, .literal hi => if lo.char ≤ hi.char then some (.range lo hi, rest) else none
    | _, _ => none
  | rest => return (← memberOf? first, rest)

/-- The hyphens and the closing bracket that stand for themselves at the start of a set: the members, backwards. -/
def readLeading (verbose : Bool) (fuel : Nat) (items : List SetExpr) (cs : List Char) :
    List SetExpr × List Char :=
  match fuel, cs with
  | fuel + 1, '-' :: rest => readLeading verbose fuel (.char ⟨'-', false⟩ :: items) (skip verbose rest)
  | _, ']' :: rest => if items.isEmpty then ([.char ⟨']', false⟩], skip verbose rest) else (items, cs)
  | _, _ => (items, cs)

mutual

/-- A set after its opening bracket: whether it is negated, and its body. -/
def readSet (fuel : Nat) (verbose : Bool) (cs : List Char) : Option (Bool × SetExpr × List Char) :=
  match fuel with
  | 0 => none
  | fuel + 1 =>
    let cs := skip verbose cs
    let (negated, cs) := match cs with
      | '^' :: rest => (true, skip verbose rest)
      | _ => (false, cs)
    let (items, cs) := readLeading verbose cs.length [] cs
    match readMembers fuel verbose none items cs with
    | some (body, rest) => some (negated, body, rest)
    | none => none

/-- The members of a set up to its closing bracket. -/
def readMembers (fuel : Nat) (verbose : Bool) (pending : Option (SetOp × SetExpr)) (items : List SetExpr)
    (cs : List Char) : Option (SetExpr × List Char) :=
  match fuel with
  | 0 => none
  | fuel + 1 =>
    let operator (op : SetOp) (rest : List Char) : Option (SetExpr × List Char) :=
      readMembers fuel verbose (some (op, applyPending pending (unionOf items))) [] rest
    match skip verbose cs with
    | [] => none
    | '[' :: rest =>
      match readAscii? rest with
      | some (item, rest) => readMembers fuel verbose pending (item :: items) rest
      | none =>
        match readSet fuel verbose rest with
        | some (negated, body, rest) => readMembers fuel verbose pending (.bracket negated body :: items) rest
        | none => none
    | ']' :: rest => some (applyPending pending (unionOf items), rest)
    | '&' :: '&' :: rest => operator .inter rest
    | '-' :: '-' :: rest => operator .diff rest
    | '~' :: '~' :: rest => operator .symmDiff rest
    | cs =>
      match readMember verbose cs with
      | some (item, rest) => readMembers fuel verbose pending (item :: items) rest
      | none => none

end

/-- The flag that a letter names. -/
def flagOf? : Char → Option Flag
  | 'i' => some .caseless
  | 'm' => some .multiline
  | 's' => some .dotAll
  | 'U' => some .swapGreed
  | 'u' => some .unicode
  | 'R' => some .crlf
  | 'x' => some .verbose
  | _ => none

/-- Flags up to a colon or a closing parenthesis, with that character. No flag may come twice, and one hyphen may stand
before the flags that are taken away; `settings` are those read, backwards. -/
def readFlags (value : Bool) (dangling : Bool) (settings : List (Flag × Bool)) :
    List Char → Option (List (Flag × Bool) × Char × List Char)
  | [] => none
  | c :: rest =>
    if c == ':' || c == ')' then if dangling then none else some (settings.reverse, c, rest)
    else if c == '-' then if value then readFlags false true settings rest else none
    else
      match flagOf? c with
      | none => none
      | some f =>
        if settings.any fun s => s.1 == f then none else readFlags value false ((f, value) :: settings) rest

/-- The value that settings give a flag, if they set it. -/
def settingOf? (settings : List (Flag × Bool)) (f : Flag) : Option Bool := settings.lookup f

/-- A letter, mark or other alphabetic character. -/
def isLetter (c : Char) : Bool :=
  if c.toNat < 0x80 then c.isAlpha else Unicode.alphabetic.contains c.toNat

/-- A character of the name of a group; not every one may come first. -/
def isNameChar (first : Bool) (c : Char) : Bool :=
  if first then c == '_' || isLetter c
  else ['_', '.', '[', ']'].contains c || isLetter c || c.isDigit ||
    (0x80 ≤ c.toNat && Unicode.numeric.contains c.toNat)

/-- The name of a group up to its closing angle bracket. -/
def readName (cs : List Char) : Option (String × List Char) :=
  let name := cs.takeWhile (· != '>')
  match name, cs.drop name.length with
  | c :: more, '>' :: rest =>
    if isNameChar true c && more.all (isNameChar false) then some (String.ofList name, rest) else none
  | _, _ => none

/-- What opens after a parenthesis. -/
inductive Opening where
  /-- A group. -/
  | group (capture : Capture) (settings : List (Flag × Bool))
  /-- Flags alone. -/
  | flags (settings : List (Flag × Bool))

/-- What opens after a parenthesis. There is no looking ahead or behind. -/
def readOpening (cs : List Char) : Option (Opening × List Char) :=
  match cs with
  | '?' :: 'P' :: '<' :: rest => (readName rest).map fun r => (.group (.named r.1) [], r.2)
  | '?' :: '<' :: rest => (readName rest).map fun r => (.group (.named r.1) [], r.2)
  | '?' :: rest =>
    match readFlags true false [] rest with
    | some (settings, ')', rest) => if settings.isEmpty then none else some (.flags settings, rest)
    | some (settings, _, rest) => some (.group .none settings, rest)
    | none => none
  | _ => some (.group .numbered [], cs)

/-- The expression that a repetition sign after it repeats, if it can be repeated. -/
def repeatable : Expr → Bool
  | .nothing => false
  | .flags _ => false
  | _ => true

/-- A number of turns, with blanks around it. -/
def readCount (verbose : Bool) (fuel : Nat) (cs : List Char) : List Char × List Char :=
  match fuel, cs with
  | fuel + 1, c :: rest =>
    if c.isDigit then
      let (digits, rest) := readCount verbose fuel (skip verbose rest)
      (c :: digits, rest)
    else ([], cs)
  | _, _ => ([], cs)

/-- A number of turns, with blanks around it, below the greatest one. -/
def readTurns (verbose : Bool) (cs : List Char) : Option (Nat × List Char) := do
  let (digits, rest) := readCount verbose cs.length (cs.dropWhile isBlank)
  let n ← readDigits 10 digits
  guard (n < UInt32.size)
  return (n, skip verbose (rest.dropWhile isBlank))

/-- The numbers of turns after an opening brace, up to the closing one. -/
def readBounds (verbose : Bool) (cs : List Char) : Option ((Nat × Option Nat) × List Char) := do
  let (least, rest) ← readTurns verbose (skip verbose cs)
  match rest with
  | '\x7d' :: rest => return ((least, some least), rest)
  | ',' :: rest =>
    match skip verbose rest with
    | '\x7d' :: rest => return ((least, none), rest)
    | rest =>
      let (greatest, rest) ← readTurns verbose rest
      match rest with
      | '\x7d' :: rest => if least ≤ greatest then some ((least, some greatest), rest) else none
      | _ => none
  | _ => none

/-- A sequence of expressions that are given backwards. -/
def catOf : List Expr → Expr
  | [] => .nothing
  | last :: before => before.foldl (fun rest e => .cat e rest) last

/-- A choice between expressions that are given backwards. -/
def altOf : List Expr → Expr
  | [] => .nothing
  | last :: before => before.foldl (fun rest e => .alt e rest) last

/-- Drops the sign that makes a repetition prefer few turns. -/
def dropLazy : List Char → List Char
  | '?' :: rest => rest
  | cs => cs

/-- An expression up to the end of the text or of the group. `branches` are the finished branches of a choice and `parts` the
parts of the branch that is open, both backwards. -/
def readBody (fuel : Nat) (verbose : Bool) (branches parts : List Expr) (cs : List Char) :
    Option (Expr × List Char) :=
  match fuel with
  | 0 => none
  | fuel + 1 =>
    let close : Expr := altOf (catOf parts :: branches)
    let turns (least : Nat) (greatest : Option Nat) (rest : List Char) : Option (Expr × List Char) :=
      match parts with
      | e :: parts =>
        if repeatable e then readBody fuel verbose branches (.repeated e least greatest :: parts) (dropLazy rest)
        else none
      | [] => none
    match skip verbose cs with
    | [] => some (close, [])
    | ')' :: rest => some (close, ')' :: rest)
    | '|' :: rest => readBody fuel verbose (catOf parts :: branches) [] rest
    | '(' :: rest =>
      match readOpening (skip verbose rest) with
      | none => none
      | some (.flags settings, rest) =>
        readBody fuel ((settingOf? settings .verbose).getD verbose) branches (.flags settings :: parts) rest
      | some (.group kind settings, rest) =>
        match readBody fuel ((settingOf? settings .verbose).getD verbose) [] [] rest with
        | some (e, ')' :: rest) => readBody fuel verbose branches (.group kind settings e :: parts) rest
        | _ => none
    | '[' :: rest =>
      match readSet (2 * rest.length + 2) verbose rest with
      | some (negated, body, rest) => readBody fuel verbose branches (.set negated body :: parts) rest
      | none => none
    | '?' :: rest => turns 0 (some 1) rest
    | '*' :: rest => turns 0 none rest
    | '+' :: rest => turns 1 none rest
    | '\x7b' :: rest =>
      match readBounds verbose rest with
      | some ((least, greatest), rest) => turns least greatest (skip verbose rest)
      | none => none
    | cs =>
      match readPrimitive verbose cs with
      | some (e, rest) => readBody fuel verbose branches (e :: parts) rest
      | none => none

/-- How deep an expression may nest. -/
def depthLimit : Nat := 250

/-- The expression that a text writes, if it writes one: no name comes twice, and nothing nests too deep. -/
def Expr.parse? (pattern : String) : Option Expr :=
  let cs := pattern.toList
  match readBody (2 * cs.length + 2) false [] [] cs with
  | some (e, []) => if e.groupNames.Nodup && e.depth ≤ depthLimit then some e else none
  | _ => none

end StagedLaunch.Pattern
