import StagedLaunch.Text.Blank
import StagedLaunch.Text.Lines
import StagedLaunch.Text.Numeral

/-!
# Lines, columns and hexadecimal numerals

The lines of a text are read one by one (`lines_append`). The columns of a line are read one by one too, whatever blanks stand
around them: `columns_eq_cons_iff` says which text has a given first column. A number of sixteen bits that is written in four
digits of base sixteen is read back (`readNatural_hexWord`).
-/

namespace StagedLaunch

/-! ## Lines -/

theorem linesFrom_append {cs : List Char} (hcs : '\n' ∉ cs) (line rest : List Char) :
    linesFrom line (cs ++ '\n' :: rest) = closeLine (cs.reverse ++ line) :: linesFrom [] rest := by
  induction cs generalizing line with
  | nil => rfl
  | cons c cs ih =>
    have hc : c ≠ '\n' := fun h => hcs (h ▸ List.mem_cons_self ..)
    have hstep : linesFrom line (c :: (cs ++ '\n' :: rest)) = linesFrom (c :: line) (cs ++ '\n' :: rest) := by
      rw [linesFrom]
      exact hc
    rw [List.cons_append, hstep, ih fun h => hcs (List.mem_cons_of_mem c h), List.reverse_cons, List.append_assoc]
    rfl

/-- What stands before the first line feed is the first line, apart from a carriage return at its end. -/
theorem lines_append {cs : List Char} (hcs : '\n' ∉ cs) (rest : List Char) :
    lines (cs ++ '\n' :: rest) = closeLine cs.reverse :: lines rest := by
  rw [lines, linesFrom_append hcs, List.append_nil]
  rfl

/-- A line is what was read of it, or that without a carriage return at its end. -/
theorem closeLine_cases (cs : List Char) : closeLine cs.reverse = cs ∨ cs = closeLine cs.reverse ++ ['\r'] := by
  generalize hrev : cs.reverse = rev
  obtain rfl : cs = rev.reverse := by rw [← hrev, List.reverse_reverse]
  unfold closeLine
  split
  · exact Or.inr List.reverse_cons
  · exact Or.inl rfl

/-! ## Columns -/

/-- Nothing but blanks. -/
def AllBlank (cs : List Char) : Prop := ∀ c ∈ cs, isBlank c = true

/-- A column: some characters of which none is blank. -/
def IsColumn (cs : List Char) : Prop := cs ≠ [] ∧ ∀ c ∈ cs, isBlank c = false

instance (cs : List Char) : Decidable (AllBlank cs) := decidable_of_iff (cs.all isBlank = true) List.all_eq_true

instance (cs : List Char) : Decidable (IsColumn cs) :=
  decidable_of_iff (cs.isEmpty = false ∧ cs.all (fun c => !isBlank c) = true) (by
    simp only [IsColumn, List.isEmpty_eq_false_iff, List.all_eq_true, Bool.not_eq_true'])

/-- What comes after a column: nothing, or a blank and more. -/
def EndsColumn (cs : List Char) : Prop := ∀ c ∈ cs.head?, isBlank c = true

theorem endsColumn_nil : EndsColumn [] := nofun

theorem endsColumn_cons {c : Char} (hc : isBlank c = true) (cs : List Char) : EndsColumn (c :: cs) := by
  rintro d ⟨⟩
  exact hc

/-- Blanks, of which there are some, end a column whatever comes after them. -/
theorem AllBlank.endsColumn_append {cs : List Char} (h : AllBlank cs) (hne : cs ≠ []) (rest : List Char) :
    EndsColumn (cs ++ rest) := by
  obtain ⟨c, cs, rfl⟩ := List.exists_cons_of_ne_nil hne
  exact endsColumn_cons (h c (List.mem_cons_self ..)) (cs ++ rest)

/-- A blank before the columns makes no difference. -/
theorem columns_cons_of_blank {c : Char} (hc : isBlank c = true) (cs : List Char) : columns (c :: cs) = columns cs := by
  simp [columns, columnsFrom, hc]

theorem columns_append_of_allBlank {blanks : List Char} (h : AllBlank blanks) (cs : List Char) :
    columns (blanks ++ cs) = columns cs := by
  induction blanks with
  | nil => rfl
  | cons c blanks ih =>
    rw [List.cons_append, columns_cons_of_blank (h c (List.mem_cons_self ..))]
    exact ih fun d hd => h d (List.mem_cons_of_mem c hd)

/-- In a column, characters that are not blank are taken as they are. -/
theorem columnsFrom_append {cs : List Char} (hcs : ∀ c ∈ cs, isBlank c = false) (word rest : List Char) :
    columnsFrom word (cs ++ rest) = columnsFrom (cs.reverse ++ word) rest := by
  induction cs generalizing word with
  | nil => rfl
  | cons c cs ih =>
    have hc := hcs c (List.mem_cons_self ..)
    have hstep : columnsFrom word (c :: (cs ++ rest)) = columnsFrom (c :: word) (cs ++ rest) := by
      simp [columnsFrom, hc]
    rw [List.cons_append, hstep, ih fun d hd => hcs d (List.mem_cons_of_mem c hd), List.reverse_cons, List.append_assoc]
    rfl

/-- A column that has been read is over at its end. -/
theorem columnsFrom_of_endsColumn {word rest : List Char} (hword : word ≠ []) (hrest : EndsColumn rest) :
    columnsFrom word rest = word.reverse :: columns rest := by
  have hne : word.isEmpty = false := List.isEmpty_eq_false_iff.2 hword
  cases rest with
  | nil => simp [columnsFrom, columns, hne]
  | cons c rest =>
    have hc : isBlank c = true := hrest c rfl
    simp [columnsFrom, columns, hne, hc]

/-- A column at the beginning of a line is its first. -/
theorem columns_append_of_isColumn {column rest : List Char} (h : IsColumn column) (hrest : EndsColumn rest) :
    columns (column ++ rest) = column :: columns rest := by
  have hne : column.reverse ≠ [] := fun hnil => h.1 (List.reverse_eq_nil_iff.1 hnil)
  rw [columns, columnsFrom_append h.2, List.append_nil, columnsFrom_of_endsColumn hne hrest, List.reverse_reverse]

/-- Where a column has been begun, it goes on to the next blank. -/
theorem exists_of_columnsFrom {word cs column : List Char} {more : List (List Char)} (hword : word ≠ [])
    (h : columnsFrom word cs = column :: more) :
    ∃ plain rest, cs = plain ++ rest ∧ (∀ c ∈ plain, isBlank c = false) ∧ EndsColumn rest ∧
      column = word.reverse ++ plain ∧ columns rest = more := by
  induction cs generalizing word with
  | nil =>
    rw [columnsFrom_of_endsColumn hword endsColumn_nil] at h
    cases h
    exact ⟨[], [], rfl, List.forall_mem_nil _, endsColumn_nil, (List.append_nil _).symm, rfl⟩
  | cons c cs ih =>
    by_cases hc : isBlank c = true
    · have hends : EndsColumn (c :: cs) := endsColumn_cons hc cs
      rw [columnsFrom_of_endsColumn hword hends] at h
      cases h
      exact ⟨[], c :: cs, rfl, List.forall_mem_nil _, hends, (List.append_nil _).symm, rfl⟩
    · have hc : isBlank c = false := Bool.eq_false_iff.2 hc
      have hstep : columnsFrom word (c :: cs) = columnsFrom (c :: word) cs := by simp [columnsFrom, hc]
      rw [hstep] at h
      obtain ⟨plain, rest, rfl, hplain, hends, rfl, hmore⟩ := ih (List.cons_ne_nil c word) h
      refine ⟨c :: plain, rest, rfl, List.forall_mem_cons.2 ⟨hc, hplain⟩, hends, ?_, hmore⟩
      rw [List.reverse_cons, List.append_assoc]
      rfl

/-- A line has a first column exactly when it is that column between blanks and what has the others. -/
theorem columns_eq_cons_iff {cs column : List Char} {more : List (List Char)} :
    columns cs = column :: more ↔
      ∃ blanks rest, cs = blanks ++ column ++ rest ∧ AllBlank blanks ∧ IsColumn column ∧ EndsColumn rest ∧
        columns rest = more := by
  constructor
  · intro h
    induction cs with
    | nil => cases h
    | cons c cs ih =>
      by_cases hc : isBlank c = true
      · rw [columns_cons_of_blank hc] at h
        obtain ⟨blanks, rest, rfl, hblanks, hcolumn, hends, hmore⟩ := ih h
        exact ⟨c :: blanks, rest, rfl, List.forall_mem_cons.2 ⟨hc, hblanks⟩, hcolumn, hends, hmore⟩
      · have hc : isBlank c = false := Bool.eq_false_iff.2 hc
        have hstep : columns (c :: cs) = columnsFrom [c] cs := by simp [columns, columnsFrom, hc]
        rw [hstep] at h
        obtain ⟨plain, rest, rfl, hplain, hends, rfl, hmore⟩ := exists_of_columnsFrom (List.cons_ne_nil c []) h
        have hcolumn : IsColumn (c :: plain) := ⟨List.cons_ne_nil c plain, List.forall_mem_cons.2 ⟨hc, hplain⟩⟩
        exact ⟨[], rest, rfl, List.forall_mem_nil _, hcolumn, hends, hmore⟩
  · rintro ⟨blanks, rest, rfl, hblanks, hcolumn, hends, rfl⟩
    rw [List.append_assoc, columns_append_of_allBlank hblanks, columns_append_of_isColumn hcolumn hends]

/-- A blank at the end of a line makes no difference. -/
theorem columnsFrom_append_blank {c : Char} (hc : isBlank c = true) (word cs : List Char) :
    columnsFrom word (cs ++ [c]) = columnsFrom word cs := by
  induction cs generalizing word with
  | nil =>
    cases word with
    | nil => simp [columnsFrom, hc]
    | cons d word => simp [columnsFrom, hc]
  | cons d cs ih => simp [columnsFrom, ih]

/-- A carriage return that belongs to the end of a line makes no difference to its columns. -/
theorem columns_closeLine (cs : List Char) : columns (closeLine cs.reverse) = columns cs := by
  rcases closeLine_cases cs with h | h
  · rw [h]
  · have hcs : columns cs = columns (closeLine cs.reverse ++ ['\r']) := congrArg columns h
    rw [hcs, columns, columns, columnsFrom_append_blank (by decide)]

/-! ## Numerals in base sixteen -/

/-- A digit in base sixteen, with capital letters for ten and more. -/
def hexDigit (d : Fin 16) : Char :=
  if d.val < 10 then Char.ofNat ('0'.toNat + d.val) else Char.ofNat ('A'.toNat + (d.val - 10))

/-- A number of sixteen bits in four digits of base sixteen. -/
def hexWord (n : UInt16) : List Char :=
  [n.toNat / 4096, n.toNat / 256, n.toNat / 16, n.toNat].map fun d => hexDigit (Fin.ofNat 16 d)

theorem digitValue?_hexDigit : ∀ d : Fin 16, digitValue? (hexDigit d) = some d.val := by decide

/-- A digit is not blank, and it is neither a colon nor a sign. -/
theorem hexDigit_plain : ∀ d : Fin 16, isBlank (hexDigit d) = false ∧ hexDigit d ≠ ':' ∧ hexDigit d ≠ '+' := by decide

theorem readDigitsFrom_hexDigit (value : Nat) (d : Fin 16) (rest : List Char) :
    readDigitsFrom 16 value (hexDigit d :: rest) = readDigitsFrom 16 (value * 16 + d.val) rest := by
  simp only [readDigitsFrom, digitValue?_hexDigit, d.isLt, if_true]

/-- A number that was written is read back. -/
theorem readNatural_hexWord (n : UInt16) : readNatural 16 65536 (hexWord n) = some n.toNat := by
  have hlt : n.toNat < 65536 := n.toNat_lt
  have hdigits : readDigits 16 (hexWord n) = some n.toNat := by
    have hfirst : readDigits 16 (hexWord n) = readDigitsFrom 16 0 (hexWord n) := rfl
    rw [hfirst, hexWord, List.map_cons, List.map_cons, List.map_cons, List.map_cons, List.map_nil,
      readDigitsFrom_hexDigit, readDigitsFrom_hexDigit, readDigitsFrom_hexDigit, readDigitsFrom_hexDigit, readDigitsFrom]
    simp only [Fin.val_ofNat]
    congr 1
    omega
  unfold readNatural
  split
  · rename_i rest h
    exact absurd (List.cons.inj h).1 (hexDigit_plain _).2.2
  · rw [hdigits]
    simp [hlt]

end StagedLaunch
