import StagedLaunch.Machine.FileTree
import StagedLaunch.Text.Numeral

/-!
# Conditions

The conditions of `test`: about texts, numbers and files. How a condition is read depends on the number of its words.
-/

namespace StagedLaunch.Script.Test

/-- The whole number that a word is. -/
def integer? (s : String) : Option Int :=
  readInteger (-0x8000000000000000) 0x7FFFFFFFFFFFFFFF (s.toList.dropWhile (· == ' '))

/-- The value of an operator with one side. -/
def unary? (t : FileTree) (op word : String) : Option Bool :=
  let node := (t.find word).toOption.map Prod.snd
  match op with
  | "-n" => some !word.isEmpty
  | "-z" => some word.isEmpty
  | "-e" | "-r" | "-w" => some node.isSome
  | "-f" => some (t.isFile word)
  | "-d" => some (t.isDirectory word)
  | "-s" => some (match node with | some (.file bytes _) => !bytes.isEmpty | some .sink => false | n => n.isSome)
  | "-x" => some (match node with | some (.file _ executable) => executable | some .sink => false | n => n.isSome)
  | "-c" => some (node == some .sink)
  | "-L" | "-h" | "-b" | "-p" | "-S" | "-g" | "-u" | "-k" | "-t" => some false
  | _ => none

/-- The value of an operator with two sides; an inner `none` says that a side is no number. -/
def binary? (left op right : String) : Option (Option Bool) :=
  let numbers (f : Int → Int → Bool) : Option (Option Bool) :=
    some (do return f (← integer? left) (← integer? right))
  match op with
  | "=" | "==" => some (some (left == right))
  | "!=" => some (some (left != right))
  | "<" => some (some (left < right))
  | ">" => some (some (right < left))
  | "-eq" => numbers (· == ·)
  | "-ne" => numbers (· != ·)
  | "-lt" => numbers (· < ·)
  | "-le" => numbers (· ≤ ·)
  | "-gt" => numbers (fun a b => b < a)
  | "-ge" => numbers (fun a b => b ≤ a)
  | _ => none

mutual

/-- Conditions joined by `-o`, with the words after them. -/
def either (t : FileTree) (fuel : Nat) (words : List String) : Option (Bool × List String) :=
  match fuel with
  | 0 => none
  | fuel + 1 => do
    let (a, rest) ← both t fuel words
    match rest with
    | "-o" :: rest =>
      let (b, rest) ← either t fuel rest
      return (a || b, rest)
    | _ => return (a, rest)

/-- Conditions joined by `-a`. -/
def both (t : FileTree) (fuel : Nat) (words : List String) : Option (Bool × List String) :=
  match fuel with
  | 0 => none
  | fuel + 1 => do
    let (a, rest) ← primary t fuel words
    match rest with
    | "-a" :: rest =>
      let (b, rest) ← both t fuel rest
      return (a && b, rest)
    | _ => return (a, rest)

/-- A single condition. -/
def primary (t : FileTree) (fuel : Nat) (words : List String) : Option (Bool × List String) :=
  match fuel with
  | 0 => none
  | fuel + 1 =>
    match words with
    | [] => none
    | [word] => some (!word.isEmpty, [])
    | left :: op :: more =>
      match more with
      | right :: rest =>
        match binary? left op right with
        | some value => value.map fun b => (b, rest)
        | none => primaryWithout t fuel left (op :: more)
      | [] => primaryWithout t fuel left [op]

/-- A condition that is no operator with two sides. -/
def primaryWithout (t : FileTree) (fuel : Nat) (first : String) (rest : List String) : Option (Bool × List String) :=
  match fuel with
  | 0 => none
  | fuel + 1 =>
    if first == "!" then (primary t fuel rest).map fun (b, rest) => (!b, rest)
    else if first == "(" then
      match either t fuel rest with
      | some (b, ")" :: rest) => some (b, rest)
      | _ => none
    else
      match rest with
      | word :: more =>
        match unary? t first word with
        | some b => some (b, more)
        | none => some (!first.isEmpty, rest)
      | [] => some (!first.isEmpty, [])

end

/-- The status of a condition: zero if it holds, one if not, and two if it is not well formed. -/
def status (t : FileTree) (words : List String) : Nat :=
  match words with
  | [] => 1
  | _ =>
    match either t (4 * words.length + 4) words with
    | some (b, []) => if b then 0 else 1
    | _ => 2

/-- The status of a condition between brackets. -/
def bracketStatus (t : FileTree) (words : List String) : Nat :=
  if words.getLast? == some "]" then status t words.dropLast else 2

end StagedLaunch.Script.Test
