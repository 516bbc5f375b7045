/-!
# Words of a command line

`split` reads a command line as the words a shell would pass on, without expansions; `join` writes words so that `split`
gives them back. Outside quotes a backslash takes the next character as it is; between single quotes everything stands for
itself; between double quotes a backslash only acts before `$`, a backtick, a double quote, a backslash and a line feed.
-/

namespace StagedLaunch.Words

/-- Where the reader of a command line stands. -/
inductive Place where
  /-- Between words. -/
  | between
  /-- Between words, after a backslash. -/
  | betweenEscape
  /-- In a word, outside quotes. -/
  | bare
  /-- In a word, outside quotes, after a backslash. -/
  | bareEscape
  /-- Between single quotes. -/
  | single
  /-- Between double quotes. -/
  | double
  /-- Between double quotes, after a backslash. -/
  | doubleEscape
  /-- In a comment. -/
  | comment
deriving DecidableEq, Repr

/-- A character that separates words. -/
def separates (c : Char) : Bool := c == ' ' || c == '\t' || c == '\n'

/-- A character that a backslash protects between double quotes. -/
def protectable (c : Char) : Bool := c == '$' || c == '\x60' || c == '"' || c == '\\'

/-- The words of the rest of a command line, when `word` was read before it, backwards; `none` if a quote is left open. -/
def splitFrom (place : Place) (word : List Char) : List Char → Option (List String)
  | [] =>
    match place with
    | .between | .comment => some []
    | .betweenEscape | .bareEscape => some [String.ofList (('\\' :: word).reverse)]
    | .bare => some [String.ofList word.reverse]
    | .single | .double | .doubleEscape => none
  | c :: rest =>
    match place with
    | .between =>
      if separates c then splitFrom .between [] rest
      else if c == '\'' then splitFrom .single [] rest
      else if c == '"' then splitFrom .double [] rest
      else if c == '\\' then splitFrom .betweenEscape [] rest
      else if c == '#' then splitFrom .comment [] rest
      else splitFrom .bare [c] rest
    | .betweenEscape =>
      if c == '\n' then splitFrom .between [] rest else splitFrom .bare [c] rest
    | .bare =>
      if separates c then (splitFrom .between [] rest).map (String.ofList word.reverse :: ·)
      else if c == '\'' then splitFrom .single word rest
      else if c == '"' then splitFrom .double word rest
      else if c == '\\' then splitFrom .bareEscape word rest
      else splitFrom .bare (c :: word) rest
    | .bareEscape =>
      if c == '\n' then splitFrom .bare word rest else splitFrom .bare (c :: word) rest
    | .single =>
      if c == '\'' then splitFrom .bare word rest else splitFrom .single (c :: word) rest
    | .double =>
      if c == '"' then splitFrom .bare word rest
      else if c == '\\' then splitFrom .doubleEscape word rest
      else splitFrom .double (c :: word) rest
    | .doubleEscape =>
      if c == '\n' then splitFrom .double word rest
      else if protectable c then splitFrom .double (c :: word) rest
      else splitFrom .double (c :: '\\' :: word) rest
    | .comment =>
      if c == '\n' then splitFrom .between [] rest else splitFrom .comment [] rest

/-- The words of a command line; `none` if a quote is left open. -/
def split (command : String) : Option (List String) :=
  splitFrom .between [] command.toList

/-- A character that a word can only hold between quotes. -/
def needsQuotes (c : Char) : Bool :=
  ['|', '&', ';', '<', '>', '(', ')', '$', '\x60', '\\', '"', '\'', ' ', '\t', '\n', '*', '?', '[', '#', '~', '=',
    '%'].contains c

/-- A character between single quotes; a single quote leaves them and enters them again. -/
def quoteChar (c : Char) : List Char :=
  if c == '\'' then ['\'', '\\', '\'', '\''] else [c]

/-- A word as it is written in a command line. -/
def quote (word : String) : String :=
  let cs := word.toList
  if cs.isEmpty then "''"
  else if cs.any needsQuotes then String.ofList ('\'' :: cs.flatMap quoteChar ++ ['\''])
  else word

/-- A command line with the given words. -/
def join (words : List String) : String :=
  String.intercalate " " (words.map quote)

end StagedLaunch.Words
