import StagedLaunch.Script.Variables
import StagedLaunch.Text.Numeral

/-!
# Arithmetic of the shell

Expressions over whole numbers of 64 bits with the operators of the shell, from assignments down to signs. Truth is one and
falsehood zero. A variable that has no number counts as zero.
-/

namespace StagedLaunch.Script.Arithmetic

/-- A token of an expression. -/
inductive Token where
  /-- A number. -/
  | number (n : Int)
  /-- A variable. -/
  | name (s : String)
  /-- An operator or a parenthesis. -/
  | op (s : String)
deriving DecidableEq, Repr

/-- The operators, longer ones before those that they begin with. -/
def operators : List String :=
  ["<<=", ">>=", "==", "!=", "<=", ">=", "&&", "||", "<<", ">>", "+=", "-=", "*=", "/=", "%=", "&=", "|=", "^=",
   "+", "-", "*", "/", "%", "<", ">", "=", "!", "~", "&", "|", "^", "?", ":", "(", ")", ","]

/-- The number that a text is: decimal, octal after a zero, or of base sixteen after `0x`. -/
def number? (cs : List Char) : Option Int :=
  match cs with
  | '0' :: 'x' :: rest => (readDigits 16 rest).map Int.ofNat
  | '0' :: 'X' :: rest => (readDigits 16 rest).map Int.ofNat
  | '0' :: rest => if rest.isEmpty then some 0 else (readDigits 8 rest).map Int.ofNat
  | _ => (readDigits 10 cs).map Int.ofNat

/-- The tokens of an expression, at most `fuel` of them. -/
def tokens (fuel : Nat) (cs : List Char) : Option (List Token) :=
  match fuel with
  | 0 => none
  | fuel + 1 =>
    match cs with
    | [] => some []
    | c :: rest =>
      if c.isWhitespace then tokens fuel rest
      else if c.isDigit then
        let word := cs.takeWhile Char.isAlphanum
        (number? word).bind fun n => (tokens fuel (cs.drop word.length)).map (Token.number n :: ·)
      else if c.isAlpha || c == '_' then
        let word := cs.takeWhile fun c => c.isAlphanum || c == '_'
        (tokens fuel (cs.drop word.length)).map (Token.name (String.ofList word) :: ·)
      else
        match operators.find? fun op => op.toList.isPrefixOf cs with
        | some op => (tokens fuel (cs.drop op.length)).map (Token.op op :: ·)
        | none => none

/-- A number within 64 bits. -/
def wrap (n : Int) : Int := Int.bmod n UInt64.size

/-- The number of a truth value. -/
def truth (b : Bool) : Int := if b then 1 else 0

/-- How tightly an operator with two sides binds; its sides are grouped from the left. -/
def level? : String → Option Nat
  | "||" => some 1
  | "&&" => some 2
  | "|" => some 3
  | "^" => some 4
  | "&" => some 5
  | "==" | "!=" => some 6
  | "<" | ">" | "<=" | ">=" => some 7
  | "<<" | ">>" => some 8
  | "+" | "-" => some 9
  | "*" | "/" | "%" => some 10
  | _ => none

/-- Bits of a number as a number without a sign. -/
def bits (n : Int) : Nat := (n % UInt64.size).toNat

/-- The value of an operator with two sides; there is none for a division by zero. -/
def apply (op : String) (a b : Int) : Option Int :=
  match op with
  | "||" => some (truth (a != 0 || b != 0))
  | "&&" => some (truth (a != 0 && b != 0))
  | "|" => some (wrap (bits a ||| bits b))
  | "^" => some (wrap (bits a ^^^ bits b))
  | "&" => some (wrap (bits a &&& bits b))
  | "==" => some (truth (a == b))
  | "!=" => some (truth (a != b))
  | "<" => some (truth (a < b))
  | ">" => some (truth (b < a))
  | "<=" => some (truth (a ≤ b))
  | ">=" => some (truth (b ≤ a))
  | "<<" => some (wrap (a * Nat.pow 2 (bits b % 64)))
  | ">>" => some (a / Nat.pow 2 (bits b % 64))
  | "+" => some (wrap (a + b))
  | "-" => some (wrap (a - b))
  | "*" => some (wrap (a * b))
  | "/" => if b == 0 then none else some (wrap (Int.tdiv a b))
  | "%" => if b == 0 then none else some (Int.tmod a b)
  | _ => none

/-- The number that a variable holds. -/
def valueOf (v : Variables) (name : String) : Int :=
  match (v.get? name).map String.toList with
  | some ('-' :: rest) => -((number? rest).getD 0)
  | some ('+' :: rest) => (number? rest).getD 0
  | some cs => (number? cs).getD 0
  | none => 0

/-- A value, what follows it, and the variables after it. -/
abbrev Value := Option (Int × List Token × Variables)

mutual

/-- An expression with assignments and choices. -/
def expression (fuel : Nat) (ts : List Token) (v : Variables) : Value :=
  match fuel with
  | 0 => none
  | fuel + 1 =>
    match ts with
    | .name x :: .op "=" :: rest =>
      (expression fuel rest v).map fun (n, rest, v) => (n, rest, v.set x (toString n))
    | .name x :: .op op :: rest =>
      if op.length ≥ 2 && op.endsWith "=" && (level? op).isNone then
        (expression fuel rest v).bind fun (n, rest, v) =>
          (apply (op.dropEnd 1).toString (valueOf v x) n).map fun n => (n, rest, v.set x (toString n))
      else choice fuel ts v
    | _ => choice fuel ts v

/-- An expression with choices. -/
def choice (fuel : Nat) (ts : List Token) (v : Variables) : Value :=
  match fuel with
  | 0 => none
  | fuel + 1 =>
    match binary fuel 1 ts v with
    | some (n, .op "?" :: rest, v) =>
      match expression fuel rest v with
      | some (a, .op ":" :: rest, va) =>
        (expression fuel rest (if n != 0 then va else v)).map fun (b, rest, vb) =>
          if n != 0 then (a, rest, va) else (b, rest, vb)
      | _ => none
    | r => r

/-- An expression whose operators bind at least so tightly. -/
def binary (fuel least : Nat) (ts : List Token) (v : Variables) : Value :=
  match fuel with
  | 0 => none
  | fuel + 1 => (unary fuel ts v).bind fun (n, rest, v) => binaryAfter fuel least n rest v

/-- An expression that goes on after its first part. -/
def binaryAfter (fuel least : Nat) (a : Int) (ts : List Token) (v : Variables) : Value :=
  match fuel with
  | 0 => none
  | fuel + 1 =>
    match ts with
    | .op op :: rest =>
      match level? op with
      | some level =>
        if level < least then some (a, ts, v)
        else
          (binary fuel (level + 1) rest v).bind fun (b, rest, v) =>
            (apply op a b).bind fun n => binaryAfter fuel least n rest v
      | none => some (a, ts, v)
    | _ => some (a, ts, v)

/-- A number, a variable, an expression in parentheses, or one of them after a sign. -/
def unary (fuel : Nat) (ts : List Token) (v : Variables) : Value :=
  match fuel with
  | 0 => none
  | fuel + 1 =>
    match ts with
    | .number n :: rest => some (wrap n, rest, v)
    | .name x :: rest => some (valueOf v x, rest, v)
    | .op "-" :: rest => (unary fuel rest v).map fun (n, rest, v) => (wrap (-n), rest, v)
    | .op "+" :: rest => unary fuel rest v
    | .op "!" :: rest => (unary fuel rest v).map fun (n, rest, v) => (truth (n == 0), rest, v)
    | .op "~" :: rest => (unary fuel rest v).map fun (n, rest, v) => (-n - 1, rest, v)
    | .op "(" :: rest =>
      match expression fuel rest v with
      | some (n, .op ")" :: rest, v) => some (n, rest, v)
      | _ => none
    | _ => none

end

/-- The value of an expression, and the variables after it. An empty expression is zero. -/
def eval? (cs : List Char) (v : Variables) : Option (Int × Variables) :=
  match tokens (cs.length + 1) cs with
  | none => none
  | some [] => some (0, v)
  | some ts =>
    match expression (16 * ts.length + 16) ts v with
    | some (n, [], v) => some (n, v)
    | _ => none

end StagedLaunch.Script.Arithmetic
