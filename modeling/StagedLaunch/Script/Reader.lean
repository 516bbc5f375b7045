import StagedLaunch.Script.WordReader

/-!
# Reading shell commands

A program of the shell language is read line by line, each line with all the lines that its commands reach into.
`programOf` gives the commands of the lines up to the first that cannot be read, and what is wrong with that one.
-/

namespace StagedLaunch.Script

/-- Fails because of what comes next. -/
def refuse {α : Type} : Reader α := do
  let cs ← get
  match cs with
  | [] => throw .endOfFile
  | '\n' :: _ => throw (.unexpected "newline")
  | c :: rest =>
    let word := (c :: rest).takeWhile fun c => !isMeta c
    throw (.unexpected (String.ofList (if word.isEmpty then c :: rest.takeWhile (· == c) else word)))

/-- What follows blanks, continued lines and a comment. -/
def dropBlanks : List Char → List Char
  | ' ' :: rest => dropBlanks rest
  | '\t' :: rest => dropBlanks rest
  | '\\' :: '\n' :: rest => dropBlanks rest
  | '#' :: rest => rest.dropWhile (· != '\n')
  | cs => cs

/-- Skips blanks and a comment. -/
def skipBlanks : Reader Unit := modify dropBlanks

/-- What follows blanks, comments and line ends; `fuel` bounds the number of lines. -/
def dropLines (fuel : Nat) (cs : List Char) : List Char :=
  match fuel with
  | 0 => cs
  | fuel + 1 =>
    match dropBlanks cs with
    | '\n' :: rest => dropLines fuel rest
    | cs => cs

/-- Skips blanks, comments and line ends. -/
def skipLines : Reader Unit := modify fun cs => dropLines (cs.length + 1) cs

/-- The word that comes next, if nothing in it is quoted or expanded. -/
def peekWord : Reader String := do
  let cs ← get
  return String.ofList (cs.takeWhile fun c => !isMeta c && !"'\"\\$\x60".toList.contains c)

/-- A text comes next. -/
def peeks (text : String) : Reader Bool := do return text.toList.isPrefixOf (← get)

/-- Skips characters. -/
def skip (n : Nat) : Reader Unit := modify (·.drop n)

/-- Skips a reserved word, which must come next. -/
def expectWord (word : String) : Reader Unit := do
  skipLines
  if (← peekWord) == word then skip word.length else refuse

/-- The operator of a redirection, with its mode and its usual descriptor. -/
def redirectMode? : List Char → Option (RedirectMode × Nat × List Char)
  | '>' :: '>' :: rest => some (.append, 1, rest)
  | '>' :: '&' :: rest => some (.copy, 1, rest)
  | '>' :: '|' :: rest => some (.write, 1, rest)
  | '<' :: '&' :: rest => some (.copy, 0, rest)
  | '<' :: '>' :: rest => some (.read, 0, rest)
  | '<' :: '<' :: _ => none
  | '>' :: rest => some (.write, 1, rest)
  | '<' :: rest => some (.read, 0, rest)
  | _ => none

/-- The start of a redirection: its descriptor and its mode. -/
def redirectStart? (cs : List Char) : Option (Nat × RedirectMode × List Char) :=
  match redirectMode? cs with
  | some (mode, fd, rest) => some (fd, mode, rest)
  | none =>
    match cs with
    | c :: rest =>
      if c.isDigit then (redirectMode? rest).map fun (mode, _, rest) => (c.toNat - '0'.toNat, mode, rest) else none
    | [] => none

/-- A redirection, if one comes next. -/
def readRedirect? : Reader (Option Redirect) := do
  skipBlanks
  match redirectStart? (← get) with
  | none => return none
  | some (fd, mode, rest) =>
    set rest
    skipBlanks
    let target ← readWord
    if target.isEmpty then refuse
    return some ⟨fd, mode, target⟩

/-- Redirections, at most `fuel` of them. -/
def readRedirects : Nat → Reader (List Redirect)
  | 0 => return []
  | fuel + 1 => do
    match ← readRedirect? with
    | some r => return r :: (← readRedirects fuel)
    | none => return []

/-- The name and the value of an assignment that a word is. -/
def assignment? (word : Word) : Option (String × Word) :=
  let rec go (name : List Char) : Word → Option (String × Word)
    | .literal ['='] :: rest =>
      if isName name.reverse then some (String.ofList name.reverse, rest) else none
    | .literal [c] :: rest => go (c :: name) rest
    | _ => none
  go [] word

/-- The pieces of a simple command. -/
structure Simple where
  /-- The assignments, the last one first. -/
  assigns : List (String × Word)
  /-- The words, the last one first. -/
  words : List Word
  /-- The redirections, the last one first. -/
  redirects : List Redirect

/-- The pieces of a simple command, at most `fuel` more of them. -/
def readSimple (fuel : Nat) (s : Simple) : Reader Simple :=
  match fuel with
  | 0 => return s
  | fuel + 1 => do
    match ← readRedirect? with
    | some r => readSimple fuel { s with redirects := r :: s.redirects }
    | none =>
      match ← get with
      | [] => return s
      | c :: _ =>
        if isMeta c then return s
        else
          let word ← readWord
          match if s.words.isEmpty then assignment? word else none with
          | some a => readSimple fuel { s with assigns := a :: s.assigns }
          | none => readSimple fuel { s with words := word :: s.words }

/-- The words up to the end of the command, at most `fuel` of them. -/
def readWords : Nat → Reader (List Word)
  | 0 => return []
  | fuel + 1 => do
    skipBlanks
    match ← get with
    | [] => return []
    | c :: _ => if isMeta c then return [] else do
      let word ← readWord
      return word :: (← readWords fuel)

/-- The words that end a list of commands. -/
def closingWords : List String := ["then", "else", "elif", "fi", "do", "done", "esac", "\x7d"]

/-- The number of the line that has a rest after it; `total` counts the line ends of the program. -/
def lineOf (total : Nat) (rest : List Char) : Nat := total + 1 - rest.count '\n'

/-- A definition of a function comes next: its name. -/
def functionName? (cs : List Char) : Option (String × List Char) :=
  let name := cs.takeWhile isNameChar
  match dropBlanks (cs.dropWhile isNameChar) with
  | '(' :: rest =>
    match dropBlanks rest with
    | ')' :: rest => if isName name then some (String.ofList name, rest) else none
    | _ => none
  | _ => none

mutual

/-- Commands up to a word or a sign that closes them. -/
def readList (fuel total : Nat) : Reader Command :=
  match fuel with
  | 0 => throw .endOfFile
  | fuel + 1 => do
    skipLines
    let cs ← get
    if cs.isEmpty || cs.head? == some ')' || (← peeks ";;") || closingWords.contains (← peekWord) then
      return .sequence []
    let first ← readAndOr fuel total
    let (first, ended) ← readSeparator first
    if ended then
      match ← readList fuel total with
      | .sequence rest => return .sequence (first :: rest)
      | rest => return .sequence [first, rest]
    else return .sequence [first]

/-- What separates a command from the next one, and whether there is such a thing. -/
def readSeparator (first : Command) : Reader (Command × Bool) := do
  skipBlanks
  if ← peeks ";;" then return (first, false)
  match ← get with
  | ';' :: rest =>
    set rest
    return (first, true)
  | '&' :: rest =>
    set rest
    return (.background first, true)
  | '\n' :: rest =>
    set rest
    return (first, true)
  | _ => return (first, false)

/-- Pipelines joined by conditions. -/
def readAndOr (fuel total : Nat) : Reader Command :=
  match fuel with
  | 0 => throw .endOfFile
  | fuel + 1 => do
    let first ← readPipeline fuel total
    readMoreAndOr fuel total first

/-- What follows a pipeline after a condition. -/
def readMoreAndOr (fuel total : Nat) (first : Command) : Reader Command :=
  match fuel with
  | 0 => return first
  | fuel + 1 => do
    skipBlanks
    if ← peeks "&&" then
      skip 2
      skipLines
      let second ← readPipeline fuel total
      readMoreAndOr fuel total (.both first second)
    else if ← peeks "||" then
      skip 2
      skipLines
      let second ← readPipeline fuel total
      readMoreAndOr fuel total (.either first second)
    else return first

/-- A pipeline. -/
def readPipeline (fuel total : Nat) : Reader Command :=
  match fuel with
  | 0 => throw .endOfFile
  | fuel + 1 => do
    skipBlanks
    let negated := (← peekWord) == "!"
    if negated then skip 1
    let parts ← readPipes fuel total
    match negated, parts with
    | false, [part] => return part
    | _, _ => return .pipeline negated parts

/-- The commands of a pipeline. -/
def readPipes (fuel total : Nat) : Reader (List Command) :=
  match fuel with
  | 0 => throw .endOfFile
  | fuel + 1 => do
    let first ← readCommand fuel total
    skipBlanks
    if (← peeks "|") && !(← peeks "||") then
      skip 1
      skipLines
      return first :: (← readPipes fuel total)
    else return [first]

/-- A command. -/
def readCommand (fuel total : Nat) : Reader Command :=
  match fuel with
  | 0 => throw .endOfFile
  | fuel + 1 => do
    skipBlanks
    let cs ← get
    let line := lineOf total cs
    match ← readCompound? fuel total with
    | some body =>
      match ← readRedirects cs.length with
      | [] => return body
      | redirects => return .redirected line body redirects
    | none =>
      match functionName? cs with
      | some (name, rest) =>
        set rest
        skipLines
        return .define name (← readCommand fuel total)
      | none =>
        if closingWords.contains (← peekWord) then refuse
        let s ← readSimple (cs.length + 1) ⟨[], [], []⟩
        if s.assigns.isEmpty && s.words.isEmpty && s.redirects.isEmpty then refuse
        return .simple line s.assigns.reverse s.words.reverse s.redirects.reverse

/-- A compound command, if one comes next. -/
def readCompound? (fuel total : Nat) : Reader (Option Command) :=
  match fuel with
  | 0 => throw .endOfFile
  | fuel + 1 => do
    let cs ← get
    if cs.head? == some '(' then
      skip 1
      let body ← readBlock fuel total
      skipLines
      if (← get).head? == some ')' then skip 1 else refuse
      return some (.subshell body)
    let word ← peekWord
    match word with
    | "\x7b" =>
      skip 1
      let body ← readBlock fuel total
      expectWord "\x7d"
      return some body
    | "if" =>
      skip 2
      return some (← readBranch fuel total)
    | "while" | "until" =>
      skip 5
      let condition ← readBlock fuel total
      expectWord "do"
      let body ← readBlock fuel total
      expectWord "done"
      return some (.loop (word == "until") condition body)
    | "for" =>
      skip 3
      skipBlanks
      let name ← peekWord
      if !isName name.toList then refuse
      skip name.length
      skipLines
      let words ←
        if (← peekWord) == "in" then
          skip 2
          let words ← readWords cs.length
          pure (some words)
        else pure none
      skipBlanks
      if (← get).head? == some ';' then skip 1
      expectWord "do"
      let body ← readBlock fuel total
      expectWord "done"
      return some (.each name words body)
    | "case" =>
      skip 4
      skipBlanks
      let subject ← readWord
      expectWord "in"
      return some (.select subject (← readItems fuel total))
    | _ => return none

/-- Commands, of which there must be one. -/
def readBlock (fuel total : Nat) : Reader Command :=
  match fuel with
  | 0 => throw .endOfFile
  | fuel + 1 => do
    match ← readList fuel total with
    | .sequence [] => refuse
    | body => return body

/-- A choice, from its condition on. -/
def readBranch (fuel total : Nat) : Reader Command :=
  match fuel with
  | 0 => throw .endOfFile
  | fuel + 1 => do
    let condition ← readBlock fuel total
    expectWord "then"
    let yes ← readBlock fuel total
    skipLines
    match ← peekWord with
    | "elif" =>
      skip 4
      return .branch condition yes (← readBranch fuel total)
    | "else" =>
      skip 4
      let no ← readBlock fuel total
      expectWord "fi"
      return .branch condition yes no
    | _ =>
      expectWord "fi"
      return .branch condition yes .nothing

/-- The items of a choice among patterns. -/
def readItems (fuel total : Nat) : Reader (List (List Word × Command)) :=
  match fuel with
  | 0 => throw .endOfFile
  | fuel + 1 => do
    skipLines
    if (← peekWord) == "esac" then
      skip 4
      return []
    if (← get).head? == some '(' then skip 1
    let patterns ← readPatterns fuel
    let body ← readList fuel total
    skipLines
    if ← peeks ";;" then
      skip 2
      return (patterns, body) :: (← readItems fuel total)
    else
      expectWord "esac"
      return [(patterns, body)]

/-- The patterns of an item. -/
def readPatterns (fuel : Nat) : Reader (List Word) :=
  match fuel with
  | 0 => throw .endOfFile
  | fuel + 1 => do
    skipBlanks
    let pattern ← readWord
    if pattern.isEmpty then refuse
    skipBlanks
    match ← get with
    | '|' :: rest =>
      set rest
      return pattern :: (← readPatterns fuel)
    | ')' :: rest =>
      set rest
      return [pattern]
    | _ => refuse

end

/-- The commands of one line and of the lines that they reach into. -/
def readLine (fuel total : Nat) : Reader (List Command) :=
  match fuel with
  | 0 => return []
  | fuel + 1 => do
    skipBlanks
    match ← get with
    | [] => return []
    | '\n' :: rest =>
      set rest
      return []
    | cs =>
      let first ← readAndOr (8 * cs.length + 16) total
      skipBlanks
      match ← get with
      | [] => return [first]
      | '\n' :: rest =>
        set rest
        return [first]
      | _ =>
        let (first, ended) ← readSeparator first
        if ended then return first :: (← readLine fuel total) else refuse

/-- What has been read of a program, and what is wrong with the rest. -/
structure Reading where
  /-- The commands. -/
  body : List Command
  /-- The error with its line, if there is one. -/
  error : Option (Nat × ReadError)

/-- Reads the program that a text is; `fuel` bounds the number of its lines. -/
def readProgram (fuel total : Nat) (cs : List Char) : Reading :=
  match fuel with
  | 0 => ⟨[], none⟩
  | fuel + 1 =>
    if cs.isEmpty then ⟨[], none⟩
    else
      match (readLine (cs.length + 1) total).run cs with
      | .error e => ⟨[], some (if e == .endOfFile || e == .openQuote then total + 1 else lineOf total cs, e)⟩
      | .ok (commands, rest) =>
        let more := readProgram fuel total rest
        ⟨commands ++ more.body, more.error⟩

/-- Reads the program that a text is. -/
def programOf (cs : List Char) : Reading :=
  readProgram (cs.length + 1) (cs.count '\n') cs

end StagedLaunch.Script
