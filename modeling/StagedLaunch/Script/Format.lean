import StagedLaunch.Text.Numeral
import StagedLaunch.Text.Utf8

/-!
# Formatted output

What the commands `echo` and `printf` write. Escapes begin with a backslash; directives begin with a percent sign and take an
argument each, and a format that takes arguments is used again while there are any left.
-/

namespace StagedLaunch.Script.Format

/-- The character that an escape with one letter stands for. -/
def letter? : Char → Option Char
  | 'a' => some '\x07'
  | 'b' => some '\x08'
  | 'f' => some '\x0c'
  | 'n' => some '\n'
  | 'r' => some '\r'
  | 't' => some '\t'
  | 'v' => some '\x0b'
  | '\\' => some '\\'
  | _ => none

/-- The octal digits at the start of a text, at most `count` of them. -/
def octalDigits (count : Nat) (cs : List Char) : List Char :=
  (cs.take count).takeWhile fun c => '0' ≤ c && c ≤ '7'

/-- A piece of output. -/
inductive Piece where
  /-- Bytes. -/
  | bytes (bs : List UInt8)
  /-- Nothing follows any more. -/
  | stop
deriving DecidableEq, Repr

/-- The bytes of a character. -/
def charBytes (c : Char) : List UInt8 := Utf8.encode (String.singleton c)

/-- An escape after its backslash, with what follows it. `zero` says that octal digits come after a zero. -/
def escape (zero : Bool) (cs : List Char) : Piece × List Char :=
  match cs with
  | [] => (.bytes (charBytes '\\'), [])
  | 'c' :: rest => (.stop, rest)
  | c :: rest =>
    match letter? c with
    | some d => (.bytes (charBytes d), rest)
    | none =>
      let digits := if zero then (if c == '0' then octalDigits 3 rest else []) else octalDigits 3 cs
      if zero && c == '0' then
        (.bytes [((readDigits 8 digits).getD 0).toUInt8], rest.drop digits.length)
      else if digits.isEmpty then (.bytes (charBytes '\\' ++ charBytes c), rest)
      else (.bytes [((readDigits 8 digits).getD 0).toUInt8], cs.drop digits.length)

/-- The bytes of a text whose escapes are replaced, and whether they were cut short; at most `fuel` characters. -/
def unescape (fuel : Nat) (zero : Bool) (cs : List Char) : List UInt8 × Bool :=
  match fuel with
  | 0 => ([], false)
  | fuel + 1 =>
    match cs with
    | [] => ([], false)
    | '\\' :: rest =>
      match escape zero rest with
      | (.stop, _) => ([], true)
      | (.bytes bs, rest) =>
        let (more, stopped) := unescape fuel zero rest
        (bs ++ more, stopped)
    | c :: rest =>
      let (more, stopped) := unescape fuel zero rest
      (charBytes c ++ more, stopped)

/-- What `echo` writes in a shell: escapes are replaced. -/
def echo (args : List String) : List UInt8 :=
  let (line, args) := match args with
    | "-n" :: rest => (false, rest)
    | _ => (true, args)
  let cs := (" ".intercalate args).toList
  let (bs, stopped) := unescape (cs.length + 1) true cs
  if line && !stopped then bs ++ [10] else bs

/-- A word of options of `echo`. -/
def isEchoOption (s : String) : Bool :=
  match s.toList with
  | '-' :: c :: rest => (c :: rest).all fun c => c == 'n' || c == 'e' || c == 'E'
  | _ => false

/-- What `echo` writes as a program: escapes are replaced only if an option asks for it. -/
def echoProgram (args : List String) : List UInt8 :=
  let options := (args.takeWhile isEchoOption).flatMap fun s => s.toList.drop 1
  let cs := (" ".intercalate (args.dropWhile isEchoOption)).toList
  let escapes := (options.filter (· != 'n')).getLast? == some 'e'
  let (bs, stopped) := if escapes then unescape (cs.length + 1) true cs else (Utf8.encode (String.ofList cs), false)
  if options.contains 'n' || stopped then bs else bs ++ [10]

/-- A directive of a format. -/
structure Directive where
  /-- The signs before the width. -/
  flags : List Char
  /-- The least width. -/
  width : Nat
  /-- The precision. -/
  precision : Option Nat
  /-- The kind. -/
  kind : Char

/-- A number at the start of a text, or the next argument for a star, with what follows and the arguments that are left. -/
def size (cs : List Char) (args : List String) : Nat × List Char × List String :=
  match cs with
  | '*' :: rest => ((args.head?.bind String.toNat?).getD 0, rest, args.drop 1)
  | _ =>
    let digits := cs.takeWhile Char.isDigit
    ((readDigits 10 digits).getD 0, cs.drop digits.length, args)

/-- A directive after its percent sign. -/
def directive? (cs : List Char) (args : List String) : Option (Directive × List Char × List String) :=
  let flags := cs.takeWhile fun c => "-+ #0".toList.contains c
  let (width, rest, args) := size (cs.drop flags.length) args
  let (precision, rest, args) := match rest with
    | '.' :: rest =>
      let (n, rest, args) := size rest args
      (some n, rest, args)
    | _ => (none, rest, args)
  match rest with
  | kind :: rest => some (⟨flags, width, precision, kind⟩, rest, args)
  | [] => none

/-- A text with as many blanks before or after it as the width asks for. -/
def pad (d : Directive) (bs : List UInt8) : List UInt8 :=
  let missing := List.replicate (d.width - bs.length) (32 : UInt8)
  if d.flags.contains '-' then bs ++ missing else missing ++ bs

/-- The whole number that an argument is: one in decimal digits, or the code of a character after a quote. -/
def integer (s : String) : Option Int :=
  match s.toList with
  | [] => some 0
  | '\'' :: c :: _ => some c.toNat
  | '"' :: c :: _ => some c.toNat
  | '0' :: 'x' :: rest => (readDigits 16 rest).map Int.ofNat
  | '-' :: rest => (readDigits 10 rest).map fun n => -(n : Int)
  | '+' :: rest => (readDigits 10 rest).map Int.ofNat
  | '0' :: rest => if rest.isEmpty then some 0 else (readDigits 8 rest).map Int.ofNat
  | cs => (readDigits 10 cs).map Int.ofNat

/-- A number as a directive shows it. -/
def number (d : Directive) (digits : List Char) (negative : Bool) : List UInt8 :=
  let digits := List.replicate ((d.precision.getD 0) - digits.length) '0' ++ digits
  let sign := if negative then ['-'] else if d.flags.contains '+' then ['+'] else if d.flags.contains ' ' then [' '] else []
  let zeros := if d.flags.contains '0' && !d.flags.contains '-' && d.precision.isNone
    then List.replicate (d.width - digits.length - sign.length) '0' else []
  pad d (Utf8.encode (String.ofList (sign ++ zeros ++ digits)))

/-- What a directive writes for an argument: its bytes, whether output stops there, and whether the argument was good. -/
def convert (d : Directive) (arg : String) : List UInt8 × Bool × Bool :=
  let cut (bs : List UInt8) : List UInt8 := (d.precision.map bs.take).getD bs
  match d.kind with
  | 's' => (pad d (cut (Utf8.encode arg)), false, true)
  | 'b' =>
    let (bs, stopped) := unescape (arg.length + 1) true arg.toList
    (pad d (cut bs), stopped, true)
  | 'c' => (pad d ((Utf8.encode arg).take 1), false, true)
  | 'd' | 'i' =>
    let n := integer arg
    let value := n.getD 0
    (number d (Nat.toDigits 10 value.natAbs) (value < 0), false, n.isSome)
  | kind =>
    let n := integer arg
    let value := ((n.getD 0) % UInt64.size).toNat
    let digits := match kind with
      | 'o' => Nat.toDigits 8 value
      | 'x' => Nat.toDigits 16 value
      | 'X' => (Nat.toDigits 16 value).map Char.toUpper
      | _ => Nat.toDigits 10 value
    (number d digits false, false, n.isSome)

/-- What has come of a format. -/
structure Result where
  /-- The output. -/
  bytes : List UInt8
  /-- The arguments that are left. -/
  args : List String
  /-- Nothing follows any more. -/
  stopped : Bool
  /-- Everything was good. -/
  good : Bool

/-- What a format writes when it is used once; at most `fuel` steps. -/
def once (fuel : Nat) (cs : List Char) (args : List String) : Result :=
  match fuel with
  | 0 => ⟨[], args, false, true⟩
  | fuel + 1 =>
    match cs with
    | [] => ⟨[], args, false, true⟩
    | '\\' :: rest =>
      match escape false rest with
      | (.stop, _) => ⟨[], args, true, true⟩
      | (.bytes bs, rest) =>
        let r := once fuel rest args
        { r with bytes := bs ++ r.bytes }
    | '%' :: '%' :: rest =>
      let r := once fuel rest args
      { r with bytes := 37 :: r.bytes }
    | '%' :: rest =>
      match directive? rest args with
      | none => ⟨[], args, true, false⟩
      | some (d, rest, args) =>
        if !"sbcdiouxX".toList.contains d.kind then ⟨[], args, true, false⟩
        else
          let (bs, stopped, good) := convert d (args.headD "")
          if stopped then ⟨bs, args.drop 1, true, good⟩
          else
            let r := once fuel rest (args.drop 1)
            { r with bytes := bs ++ r.bytes, good := good && r.good }
    | c :: rest =>
      let r := once fuel rest args
      { r with bytes := charBytes c ++ r.bytes }

/-- What a format writes when it is used for all arguments, at most `fuel` times. -/
def again (fuel : Nat) (cs : List Char) (args : List String) : List UInt8 × Bool :=
  match fuel with
  | 0 => ([], true)
  | fuel + 1 =>
    let r := once (cs.length + 1) cs args
    if r.stopped || r.args.isEmpty || r.args.length == args.length then (r.bytes, r.good)
    else
      let (more, good) := again fuel cs r.args
      (r.bytes ++ more, r.good && good)

/-- What `printf` writes, and whether everything was good; nothing if there is no format. -/
def printf? (args : List String) : Option (List UInt8 × Bool) :=
  match (match args with | "--" :: rest => rest | _ => args) with
  | [] => none
  | format :: args => some (again (args.length + 1) format.toList args)

end StagedLaunch.Script.Format
