import StagedLaunch.Script.Command

/-!
# Reading words of the shell

A word ends at a blank, a line end or an operator outside quotes. Single quotes protect everything, double quotes all but
expansions, and a backslash the next character.
-/

namespace StagedLaunch.Script

/-- Why a program cannot be read. -/
inductive ReadError where
  /-- It ends too early. -/
  | endOfFile
  /-- A quote is left open. -/
  | openQuote
  /-- Something stands where it cannot. -/
  | unexpected (word : String)
  /-- An expansion is not well formed. -/
  | badSubstitution
deriving DecidableEq, Repr

/-- The text of an error. -/
def ReadError.message : ReadError → String
  | .endOfFile => "Syntax error: end of file unexpected"
  | .openQuote => "Syntax error: Unterminated quoted string"
  | .unexpected word => s!"Syntax error: \"{word}\" unexpected"
  | .badSubstitution => "Syntax error: Bad substitution"

/-- Something that reads characters. -/
abbrev Reader (α : Type) := StateT (List Char) (Except ReadError) α

/-- A character that ends a word. -/
def isMeta (c : Char) : Bool := " \t\n;&|<>()".toList.contains c

/-- A character of a name. -/
def isNameChar (c : Char) : Bool := c.isAlphanum || c == '_'

/-- A text is a name. -/
def isName : List Char → Bool
  | [] => false
  | c :: rest => (c.isAlpha || c == '_') && rest.all isNameChar

/-- A parameter with a name of one character. -/
def isSpecial (c : Char) : Bool := c.isDigit || "@*#?$!-".toList.contains c

/-- Splits after the parenthesis that closes an open one; quotes protect parentheses. `depth` counts the open ones, and
`quote` is the quote that is open. -/
def closeParen (depth : Nat) (quote : Option Char) (read : List Char) : List Char → Option (List Char × List Char)
  | [] => none
  | '\\' :: c :: rest =>
    if quote == some '\'' then
      if c == '\'' then closeParen depth none (c :: '\\' :: read) rest
      else closeParen depth quote (c :: '\\' :: read) rest
    else closeParen depth quote (c :: '\\' :: read) rest
  | c :: rest =>
    match quote with
    | some q => closeParen depth (if c == q then none else quote) (c :: read) rest
    | none =>
      if c == '\'' || c == '"' then closeParen depth (some c) (c :: read) rest
      else if c == '(' then closeParen (depth + 1) none (c :: read) rest
      else if c == ')' then
        match depth with
        | 0 => some (read.reverse, rest)
        | depth + 1 => closeParen depth none (c :: read) rest
      else closeParen depth none (c :: read) rest

/-- Splits at the next backtick; a backslash protects itself, a backtick and a dollar sign. -/
def closeBacktick (read : List Char) : List Char → Option (List Char × List Char)
  | [] => none
  | '\\' :: c :: rest =>
    if c == '\\' || c == '\x60' || c == '$' then closeBacktick (c :: read) rest
    else closeBacktick (c :: '\\' :: read) rest
  | c :: rest => if c == '\x60' then some (read.reverse, rest) else closeBacktick (c :: read) rest

/-- Splits at the next single quote. -/
def closeQuote (read : List Char) : List Char → Option (List Char × List Char)
  | [] => none
  | c :: rest => if c == '\'' then some (read.reverse, rest) else closeQuote (c :: read) rest

/-- The operator of a braced expansion, with what follows it. -/
def paramOp? : List Char → Option (ParamOp × List Char)
  | ':' :: '-' :: rest => some (.default true, rest)
  | '-' :: rest => some (.default false, rest)
  | ':' :: '=' :: rest => some (.assign true, rest)
  | '=' :: rest => some (.assign false, rest)
  | ':' :: '?' :: rest => some (.demand true, rest)
  | '?' :: rest => some (.demand false, rest)
  | ':' :: '+' :: rest => some (.alternative true, rest)
  | '+' :: rest => some (.alternative false, rest)
  | '%' :: '%' :: rest => some (.dropEnd true, rest)
  | '%' :: rest => some (.dropEnd false, rest)
  | '#' :: '#' :: rest => some (.dropStart true, rest)
  | '#' :: rest => some (.dropStart false, rest)
  | _ => none

/-- The name of a parameter at the start of a text, with what follows it. -/
def paramName? : List Char → Option (String × List Char)
  | [] => none
  | c :: rest =>
    if c.isAlpha || c == '_' then
      some (String.ofList (c :: rest.takeWhile isNameChar), rest.dropWhile isNameChar)
    else if isSpecial c then some (String.singleton c, rest)
    else none

/-- Where parts of a word are read. -/
inductive Context where
  /-- Outside quotes. -/
  | bare
  /-- Between double quotes. -/
  | double
  /-- In a braced expansion. -/
  | braced (inQuotes : Bool)
  /-- In a text without an end of its own. -/
  | whole
deriving DecidableEq, Repr

/-- The parts of a context stand between double quotes. -/
def Context.inQuotes : Context → Bool
  | .bare => false
  | .double => true
  | .braced inQuotes => inQuotes
  | .whole => true

mutual

/-- The parts of a word up to the end of the context, at most `fuel` of them. -/
def readParts (fuel : Nat) (context : Context) (cs : List Char) : Except ReadError (List Part × List Char) :=
  match fuel with
  | 0 => .error .endOfFile
  | fuel + 1 =>
    match cs with
    | [] =>
      match context with
      | .bare | .whole => .ok ([], [])
      | .double => .error .openQuote
      | .braced _ => .error .endOfFile
    | c :: rest =>
      if c == '\\' then
        match rest with
        | [] => .ok ([.literal ['\\']], [])
        | d :: rest =>
          if d == '\n' then readParts fuel context rest
          else if context.inQuotes && !("$\"\\\x60".toList.contains d) && !(context != .double && d == '}') then
            consPart (.quoted ['\\', d]) (readParts fuel context rest)
          else consPart (.quoted [d]) (readParts fuel context rest)
      else if c == '$' then
        match readDollar fuel context.inQuotes rest with
        | .error e => .error e
        | .ok (part, rest) => consPart part (readParts fuel context rest)
      else if c == '\x60' then
        match closeBacktick [] rest with
        | none => .error .endOfFile
        | some (source, rest) => consPart (.command source context.inQuotes) (readParts fuel context rest)
      else if context == .double && c == '"' then .ok ([], rest)
      else if (context == .braced true || context == .braced false) && c == '}' then .ok ([], rest)
      else if context.inQuotes then consPart (.quoted [c]) (readParts fuel context rest)
      else if c == '\'' then
        match closeQuote [] rest with
        | none => .error .openQuote
        | some (inside, rest) => consPart (.quoted inside) (readParts fuel context rest)
      else if c == '"' then
        match readParts fuel .double rest with
        | .error e => .error e
        | .ok (inside, rest) =>
          match readParts fuel context rest with
          | .error e => .error e
          | .ok (more, rest) => .ok ((if inside.isEmpty then [.quoted []] else inside) ++ more, rest)
      else if context == .bare && isMeta c then .ok ([], cs)
      else consPart (.literal [c]) (readParts fuel context rest)

/-- The part that a dollar sign begins. -/
def readDollar (fuel : Nat) (inQuotes : Bool) (cs : List Char) : Except ReadError (Part × List Char) :=
  match fuel with
  | 0 => .error .endOfFile
  | fuel + 1 =>
    match cs with
    | '(' :: '(' :: rest =>
      match closeParen 1 none [] rest with
      | none => .error .endOfFile
      | some (inside, rest) =>
        match readParts fuel .whole (inside.dropLast) with
        | .error e => .error e
        | .ok (body, _) => .ok (.arithmetic body inQuotes, rest)
    | '(' :: rest =>
      match closeParen 0 none [] rest with
      | none => .error .endOfFile
      | some (source, rest) => .ok (.command source inQuotes, rest)
    | '{' :: '#' :: '}' :: rest => .ok (.param "#" inQuotes .value [], rest)
    | '{' :: '#' :: rest =>
      match paramName? rest with
      | some (name, '}' :: rest) => .ok (.param name inQuotes .length [], rest)
      | _ => .error .badSubstitution
    | '{' :: rest =>
      match paramName? rest with
      | none => .error .badSubstitution
      | some (name, '}' :: rest) => .ok (.param name inQuotes .value [], rest)
      | some (name, rest) =>
        match paramOp? rest with
        | none => .error .badSubstitution
        | some (op, rest) =>
          match readParts fuel (.braced inQuotes) rest with
          | .error e => .error e
          | .ok (word, rest) => .ok (.param name inQuotes op word, rest)
    | _ =>
      match paramName? cs with
      | some (name, rest) => .ok (.param name inQuotes .value [], rest)
      | none => .ok (if inQuotes then .quoted ['$'] else .literal ['$'], cs)

/-- A part before the parts that follow it. -/
def consPart (part : Part) (r : Except ReadError (List Part × List Char)) : Except ReadError (List Part × List Char) :=
  match r with
  | .error e => .error e
  | .ok (parts, rest) => .ok (part :: parts, rest)

end

/-- A word at the start of a text, with what follows it. -/
def readWord : Reader Word := fun cs => readParts (2 * cs.length + 2) .bare cs

end StagedLaunch.Script
