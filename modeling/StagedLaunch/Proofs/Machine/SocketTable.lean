import StagedLaunch.Machine.SocketTable
import StagedLaunch.Proofs.Text.Columns

/-!
# Ports in the table of local sockets

A line gives a port when its second column ends with one, after its last colon (`localPort?_eq_some_iff`). A table that lists
sockets under a header has the local ports of these sockets and no others, whatever else stands in it: `hasLocalPort_iff`.
-/

namespace StagedLaunch.SocketTable

/-! ## Lines that give a port -/

/-- A column ends with a port: what follows its last colon is a number of sixteen bits in base sixteen. -/
def EndsInPort (column : List Char) (port : Nat) : Prop :=
  ∃ address digits, column = address ++ ':' :: digits ∧ ':' ∉ digits ∧ readNatural 16 65536 digits = some port

/-- The second column of a line, with the first before it and blanks around. -/
def SecondColumn (line column : List Char) : Prop :=
  ∃ indent first gap rest, line = indent ++ first ++ (gap ++ column ++ rest) ∧ AllBlank indent ∧ IsColumn first ∧
    AllBlank gap ∧ gap ≠ [] ∧ IsColumn column ∧ EndsColumn rest

theorem afterColon?_append {digits : List Char} (h : ':' ∉ digits) (address : List Char) :
    afterColon? (address ++ ':' :: digits) = some digits := by
  have hcolon : (address ++ ':' :: digits).contains ':' = true := by simp
  have hdigits : ∀ c ∈ digits.reverse, (c != ':') = true := by
    intro c hc
    exact bne_iff_ne.2 fun heq => h (heq ▸ List.mem_reverse.1 hc)
  have hreverse : (address ++ ':' :: digits).reverse = digits.reverse ++ ':' :: address.reverse := by simp
  rw [afterColon?, if_pos hcolon, hreverse, List.takeWhile_append_of_pos hdigits, List.takeWhile_cons_of_neg (by simp),
    List.append_nil, List.reverse_reverse]

/-- What follows the last colon of a column. -/
theorem afterColon?_eq_some_iff {cs digits : List Char} :
    afterColon? cs = some digits ↔ ∃ address, cs = address ++ ':' :: digits ∧ ':' ∉ digits := by
  constructor
  · intro h
    by_cases hcolon : cs.contains ':' = true
    · -- the last colon is the first one from behind
      obtain ⟨behind, before, hreverse, hlast⟩ :=
        List.eq_append_cons_of_mem (List.mem_reverse.2 (List.contains_iff_mem.1 hcolon))
      have hcs : cs = before.reverse ++ ':' :: behind.reverse := by
        rw [← List.reverse_reverse cs, hreverse]
        simp
      have hlast : ':' ∉ behind.reverse := fun hmem => hlast (List.mem_reverse.1 hmem)
      rw [hcs, afterColon?_append hlast] at h
      cases h
      exact ⟨before.reverse, hcs, hlast⟩
    · rw [afterColon?, if_neg hcolon] at h
      cases h
  · rintro ⟨address, rfl, h⟩
    exact afterColon?_append h address

theorem secondColumn_iff {line column : List Char} :
    SecondColumn line column ↔ ∃ first more, columns line = first :: column :: more := by
  constructor
  · rintro ⟨indent, first, gap, rest, rfl, hindent, hfirst, hgap, hne, hcolumn, hrest⟩
    have hmore : columns (gap ++ column ++ rest) = column :: columns rest :=
      columns_eq_cons_iff.2 ⟨gap, rest, rfl, hgap, hcolumn, hrest, rfl⟩
    refine ⟨first, columns rest, columns_eq_cons_iff.2 ⟨indent, _, rfl, hindent, hfirst, ?_, hmore⟩⟩
    rw [List.append_assoc]
    exact hgap.endsColumn_append hne (column ++ rest)
  · rintro ⟨first, more, h⟩
    obtain ⟨indent, tail, rfl, hindent, hfirst, htail, hmore⟩ := columns_eq_cons_iff.1 h
    obtain ⟨gap, rest, rfl, hgap, hcolumn, hrest, -⟩ := columns_eq_cons_iff.1 hmore
    refine ⟨indent, first, gap, rest, rfl, hindent, hfirst, hgap, ?_, hcolumn, hrest⟩
    -- without blanks between them the two columns would be one
    rintro rfl
    obtain ⟨c, column, rfl⟩ := List.exists_cons_of_ne_nil hcolumn.1
    have hblank := htail c rfl
    rw [hcolumn.2 c (List.mem_cons_self ..)] at hblank
    cases hblank

/-- A line gives a port exactly when its second column ends with it. -/
theorem localPort?_eq_some_iff {line : List Char} {port : Nat} :
    localPort? line = some port ↔ ∃ column, SecondColumn line column ∧ EndsInPort column port := by
  simp only [secondColumn_iff]
  unfold localPort?
  constructor
  · intro h
    split at h
    · rename_i first column more hcolumns
      obtain ⟨digits, hdigits, hport⟩ := Option.bind_eq_some_iff.1 h
      obtain ⟨address, hcolumn, hlast⟩ := afterColon?_eq_some_iff.1 hdigits
      exact ⟨column, ⟨first, more, hcolumns⟩, address, digits, hcolumn, hlast, hport⟩
    · cases h
  · rintro ⟨column, ⟨first, more, hcolumns⟩, address, digits, rfl, hlast, hport⟩
    rw [hcolumns]
    exact Option.bind_eq_some_iff.2 ⟨digits, afterColon?_append hlast address, hport⟩

/-- A carriage return that belongs to the end of a line makes no difference to its port. -/
theorem localPort?_closeLine (line : List Char) : localPort? (closeLine line.reverse) = localPort? line := by
  rw [localPort?, localPort?, columns_closeLine]

/-! ## Tables -/

/-- A line of a text. -/
structure Line where
  /-- Its characters. -/
  chars : List Char
  /-- None of them ends the line. -/
  inLine : '\n' ∉ chars

/-- Blanks in a line. -/
structure Blanks extends Line where
  /-- They are nothing else. -/
  allBlank : AllBlank chars

/-- Blanks between two columns. -/
structure Gap extends Blanks where
  /-- There are some. -/
  ne_nil : chars ≠ []

/-- A column of a line. -/
structure Column where
  /-- Its characters. -/
  chars : List Char
  /-- There are some, and none is blank. -/
  isColumn : IsColumn chars

/-- A socket as it is listed: what stands in its line, with the blanks before, between and after the columns. -/
structure Row where
  /-- The blanks before the columns. -/
  indent : Blanks
  /-- The number of the socket in the table. -/
  slot : Nat
  /-- The blanks after the number. -/
  afterSlot : Gap
  /-- The digits of the local address, however many there are. -/
  address : List (Fin 16)
  /-- The local port. -/
  port : UInt16
  /-- The blanks after the local address. -/
  afterLocal : Gap
  /-- The digits of the remote address. -/
  remoteAddress : List (Fin 16)
  /-- The remote port. -/
  remotePort : UInt16
  /-- The columns after that, each with the blanks before it. -/
  more : List (Gap × Column)
  /-- The blanks after the columns. -/
  trail : Blanks

/-- An address with a port. -/
def endpoint (address : List (Fin 16)) (port : UInt16) : List Char := address.map hexDigit ++ ':' :: hexWord port

namespace Row

/-- The column with the number of a socket. -/
def slotColumn (r : Row) : List Char := Nat.toDigits 10 r.slot ++ [':']

/-- What stands after the local address of a socket. -/
def tail (r : Row) : List Char :=
  r.afterLocal.chars ++ endpoint r.remoteAddress r.remotePort ++ r.more.flatMap (fun c => c.1.chars ++ c.2.chars) ++
    r.trail.chars

/-- The line of a socket. -/
def text (r : Row) : List Char :=
  r.indent.chars ++ r.slotColumn ++ (r.afterSlot.chars ++ endpoint r.address r.port ++ r.tail)

end Row

/-- What stands in a line of a table under its header. -/
inductive Entry where
  /-- A socket. -/
  | socket (row : Row)
  /-- Anything else: the line has no second column that ends with a port. -/
  | malformed (line : Line) (unreadable : ∀ column port, SecondColumn line.chars column → ¬ EndsInPort column port)

/-- The line of an entry. -/
def Entry.text : Entry → List Char
  | .socket row => row.text
  | .malformed line _ => line.chars

/-- A table: a header, and under it an entry a line. -/
def tableText (header : Line) (entries : List Entry) : List Char :=
  header.chars ++ '\n' :: entries.flatMap fun e => e.text ++ ['\n']

/-! ## The ports of a table -/

/-- A column does not end its line. -/
theorem not_mem_of_isColumn {cs : List Char} (h : IsColumn cs) : '\n' ∉ cs := by
  intro hmem
  cases h.2 '\n' hmem

theorem isBlank_of_isDigit {c : Char} (h : c.isDigit = true) : isBlank c = false := by
  have hrange : 48 ≤ c.toNat ∧ c.toNat ≤ 57 := by
    simpa [Char.isDigit, UInt32.le_iff_toNat_le] using h
  simp only [isBlank, Bool.or_eq_false_iff, Bool.and_eq_false_iff, decide_eq_false_iff_not, beq_eq_false_iff_ne]
  omega

theorem isColumn_endpoint (address : List (Fin 16)) (port : UInt16) : IsColumn (endpoint address port) := by
  refine ⟨fun hnil => ?_, fun c hc => ?_⟩
  · cases (List.append_eq_nil_iff.1 hnil).2
  · rw [endpoint, List.mem_append, List.mem_cons] at hc
    rcases hc with hc | rfl | hc
    · obtain ⟨d, -, rfl⟩ := List.mem_map.1 hc
      exact (hexDigit_plain d).1
    · rfl
    · obtain ⟨d, -, rfl⟩ := List.mem_map.1 hc
      exact (hexDigit_plain _).1

/-- An address with a port ends with that port. -/
theorem endsInPort_endpoint (address : List (Fin 16)) (port : UInt16) : EndsInPort (endpoint address port) port.toNat := by
  refine ⟨address.map hexDigit, hexWord port, rfl, fun hc => ?_, readNatural_hexWord port⟩
  obtain ⟨d, -, hd⟩ := List.mem_map.1 hc
  exact (hexDigit_plain _).2.1 hd

namespace Row

theorem isColumn_slotColumn (r : Row) : IsColumn r.slotColumn := by
  refine ⟨fun hnil => ?_, fun c hc => ?_⟩
  · cases (List.append_eq_nil_iff.1 hnil).2
  · rw [slotColumn, List.mem_append, List.mem_singleton] at hc
    rcases hc with hc | rfl
    · exact isBlank_of_isDigit (Nat.isDigit_of_mem_toDigits (by decide) (by decide) hc)
    · rfl

/-- What stands after the local address of a socket begins with a blank. -/
theorem endsColumn_tail (r : Row) : EndsColumn r.tail := by
  rw [tail, List.append_assoc, List.append_assoc]
  exact r.afterLocal.allBlank.endsColumn_append r.afterLocal.ne_nil _

/-- The second column of a socket's line is its local address with its port. -/
theorem secondColumn_text (r : Row) : SecondColumn r.text (endpoint r.address r.port) :=
  ⟨r.indent.chars, r.slotColumn, r.afterSlot.chars, r.tail, rfl, r.indent.allBlank, r.isColumn_slotColumn,
    r.afterSlot.allBlank, r.afterSlot.ne_nil, isColumn_endpoint _ _, r.endsColumn_tail⟩

/-- The line of a socket gives its local port. -/
theorem localPort?_text (r : Row) : localPort? r.text = some r.port.toNat :=
  localPort?_eq_some_iff.2 ⟨_, r.secondColumn_text, endsInPort_endpoint _ _⟩

theorem inLine (r : Row) : '\n' ∉ r.text := by
  intro hmem
  simp only [text, tail, List.mem_append, List.mem_flatMap] at hmem
  rcases hmem with (hmem | hmem) | (hmem | hmem) | (((hmem | hmem) | ⟨c, -, hmem | hmem⟩) | hmem)
  · exact r.indent.inLine hmem
  · exact not_mem_of_isColumn r.isColumn_slotColumn hmem
  · exact r.afterSlot.inLine hmem
  · exact not_mem_of_isColumn (isColumn_endpoint _ _) hmem
  · exact r.afterLocal.inLine hmem
  · exact not_mem_of_isColumn (isColumn_endpoint _ _) hmem
  · exact c.1.inLine hmem
  · exact not_mem_of_isColumn c.2.isColumn hmem
  · exact r.trail.inLine hmem

end Row

namespace Entry

theorem inLine (e : Entry) : '\n' ∉ e.text := by
  cases e with
  | socket row => exact row.inLine
  | malformed line unreadable => exact line.inLine

/-- An entry gives a port exactly when it is a socket with that local port. -/
theorem localPort?_text_iff (e : Entry) (port : UInt16) :
    localPort? e.text = some port.toNat ↔ ∃ row, e = .socket row ∧ row.port = port := by
  cases e with
  | socket row =>
    rw [text, row.localPort?_text]
    constructor
    · intro h
      exact ⟨row, rfl, UInt16.toNat_inj.1 (Option.some.inj h)⟩
    · rintro ⟨row', ⟨⟩, rfl⟩
      rfl
  | malformed line unreadable =>
    refine iff_of_false (fun h => ?_) (by rintro ⟨row, ⟨⟩, -⟩)
    obtain ⟨column, hsecond, hport⟩ := localPort?_eq_some_iff.1 h
    exact unreadable column _ hsecond hport

end Entry

/-- The lines of a table are the header and the entries. -/
theorem lines_entries (entries : List Entry) :
    lines (entries.flatMap fun e => e.text ++ ['\n']) = entries.map fun e => closeLine e.text.reverse := by
  induction entries with
  | nil => rfl
  | cons e entries ih =>
    rw [List.flatMap_cons, List.append_assoc, List.singleton_append, lines_append e.inLine, ih, List.map_cons]

/-- A table has a local port exactly when a socket that it lists has it. Neither the header nor the numbers of the sockets,
their addresses, their remote ports or the columns after them matter, and neither does a line that lists no socket. -/
theorem hasLocalPort_iff (header : Line) (entries : List Entry) (port : UInt16) :
    hasLocalPort (String.ofList (tableText header entries)) port = true ↔
      ∃ row, .socket row ∈ entries ∧ row.port = port := by
  rw [hasLocalPort, String.toList_ofList, tableText, lines_append header.inLine, lines_entries, List.drop_one, List.tail_cons,
    List.any_map, List.any_eq_true]
  simp only [Function.comp_apply, localPort?_closeLine, beq_iff_eq, Entry.localPort?_text_iff]
  constructor
  · rintro ⟨e, he, row, rfl, hport⟩
    exact ⟨row, he, hport⟩
  · rintro ⟨row, hrow, hport⟩
    exact ⟨_, hrow, row, rfl, hport⟩

/-- A socket on the port 12345 of the local host, with the queues of the line after its state. -/
example :
    let blank : Gap := ⟨⟨⟨[' '], by decide⟩, by decide⟩, by decide⟩
    let row : Row :=
      { indent := ⟨⟨[' ', ' '], by decide⟩, by decide⟩
        slot := 512
        afterSlot := blank
        address := [0, 1, 0, 0, 0, 0, 7, 15]
        port := 12345
        afterLocal := blank
        remoteAddress := [0, 0, 0, 0, 0, 0, 0, 0]
        remotePort := 0
        more := [(blank, ⟨['0', '7'], by decide⟩), (blank, ⟨['0', ':', 'F'], by decide⟩)]
        trail := ⟨⟨[' '], by decide⟩, by decide⟩ }
    String.ofList row.text = "  512: 0100007F:3039 00000000:0000 07 0:F " := by
  decide

end StagedLaunch.SocketTable
