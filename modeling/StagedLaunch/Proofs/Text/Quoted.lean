import StagedLaunch.Text.Numeral
import StagedLaunch.Text.Quoted

/-!
# Reading quoted text

A reader goes over what stands between the quotes character by character: a backslash begins an escape, and any other
character but the quote stands for itself (`Quoted.readFrom`). A text that was quoted is read back, so no two texts are quoted
alike (`Quoted.read?_quoted`).
-/

namespace StagedLaunch.Quoted

/-- Where a reader stands in a quoted text. -/
inductive Mode where
  /-- Between characters. -/
  | text
  /-- After a backslash. -/
  | escape
  /-- Before the brace that opens a number. -/
  | brace
  /-- In a number, with the value of its digits so far. -/
  | number (value : Nat)

/-- The character that another stands for after a backslash. -/
def escaped? : Char → Option Char
  | '0' => some '\x00'
  | 't' => some '\t'
  | 'r' => some '\r'
  | 'n' => some '\n'
  | '\\' => some '\\'
  | '"' => some '"'
  | _ => none

/-- Reads up to the quote that ends a text. -/
def readFrom : Mode → List Char → Option (List Char)
  | _, [] => none
  | .text, c :: rest =>
    if c = '"' then (if rest.isEmpty then some [] else none)
    else if c = '\\' then readFrom .escape rest
    else (readFrom .text rest).map (c :: ·)
  | .escape, c :: rest =>
    if c = 'u' then readFrom .brace rest
    else (escaped? c).bind fun d => (readFrom .text rest).map (d :: ·)
  | .brace, c :: rest => if c = '\x7b' then readFrom (.number 0) rest else none
  | .number value, c :: rest =>
    if c = '\x7d' then (readFrom .text rest).map (Char.ofNat value :: ·)
    else (digitValue? c).bind fun d => readFrom (.number (value * 16 + d)) rest

/-- The text that a quoted text stands for. -/
def read? (s : String) : Option String :=
  match s.toList with
  | '"' :: rest => (readFrom .text rest).map String.ofList
  | _ => none

/-! ## Numbers -/

theorem hexDigit_isDigit : ∀ d : Fin 16, hexDigit d ≠ '\x7d' ∧ digitValue? (hexDigit d) = some d.val := by decide

theorem readFrom_hexDigit (value : Nat) {d : Nat} (h : d < 16) (rest : List Char) :
    readFrom (.number value) (hexDigit d :: rest) = readFrom (.number (value * 16 + d)) rest := by
  obtain ⟨hbrace, hvalue⟩ := hexDigit_isDigit ⟨d, h⟩
  rw [readFrom, if_neg hbrace, hvalue, Option.bind_some]

/-- A number is read back from its digits. -/
theorem readFrom_hexDigits {fuel n : Nat} (h : n < Nat.pow 16 fuel) (rest : List Char) :
    readFrom (.number 0) (hexDigits fuel n ++ rest) = readFrom (.number n) rest := by
  induction fuel generalizing n rest with
  | zero =>
    obtain rfl : n = 0 := Nat.lt_one_iff.1 h
    rfl
  | succ fuel ih =>
    have hlast : n % 16 < 16 := Nat.mod_lt n (by decide)
    rw [hexDigits, List.append_assoc, List.singleton_append]
    split
    · rename_i hsmall
      rw [List.nil_append, readFrom_hexDigit 0 hlast, Nat.zero_mul, Nat.zero_add, Nat.mod_eq_of_lt hsmall]
    · have hmul : n < Nat.pow 16 fuel * 16 := h
      have hfront : n / 16 < Nat.pow 16 fuel := Nat.div_lt_of_lt_mul (by rwa [Nat.mul_comm] at hmul)
      rw [ih hfront, readFrom_hexDigit _ hlast, Nat.div_add_mod']

/-! ## Characters -/

theorem readFrom_escapeNumber (c : Char) (rest : List Char) :
    readFrom .text (escapeNumber c ++ rest) = (readFrom .text rest).map (c :: ·) := by
  have hbound : c.toNat < Nat.pow 16 8 := by
    have hvalid : c.toNat < 0xD800 ∨ 0xDFFF < c.toNat ∧ c.toNat < 0x110000 := c.valid
    exact Nat.lt_of_lt_of_le (by omega : c.toNat < 0x110000) (by decide)
  have hopen : readFrom .text (escapeNumber c ++ rest) =
      readFrom (.number 0) (hexDigits 8 c.toNat ++ '\x7d' :: rest) := by
    simp [escapeNumber, readFrom]
  rw [hopen, readFrom_hexDigits hbound, readFrom, if_pos rfl, Char.ofNat_toNat]

/-- A character is read back, however it is written. -/
theorem readFrom_escapeChar (c : Char) (rest : List Char) :
    readFrom .text (escapeChar c ++ rest) = (readFrom .text rest).map (c :: ·) := by
  unfold escapeChar
  split
  · rfl
  · rfl
  · rfl
  · rfl
  · rfl
  · rfl
  · rename_i hbackslash hquote
    have hplain : readFrom .text (c :: rest) = (readFrom .text rest).map (c :: ·) := by
      rw [readFrom, if_neg hquote, if_neg hbackslash]
    split
    · exact hplain
    · split
      · exact readFrom_escapeNumber c rest
      · exact hplain

theorem readFrom_escapeChars (cs : List Char) : readFrom .text (cs.flatMap escapeChar ++ ['"']) = some cs := by
  induction cs with
  | nil => rfl
  | cons c cs ih => rw [List.flatMap_cons, List.append_assoc, readFrom_escapeChar, ih, Option.map_some]

/-- A text that was quoted is read back. -/
theorem read?_quoted (s : String) : read? (quoted s) = some s := by
  have hopen : read? (quoted s) = (readFrom .text (s.toList.flatMap escapeChar ++ ['"'])).map String.ofList := by
    unfold read? quoted
    rw [String.toList_ofList]
    rfl
  rw [hopen, readFrom_escapeChars, Option.map_some, String.ofList_toList]

end StagedLaunch.Quoted
