import Mathlib.Data.Option.Basic
import StagedLaunch.Document.Reader
import StagedLaunch.Proofs.Document.Tables

/-!
# What reading a document gives

However a document is written, no table that is read has a name twice, and whole numbers have 64 bits (`parse?_proper`). Each way
to add to a table keeps this (`Proper.put`, `Proper.atTable`), so each line does (`Progress.Proper.take`).
-/

namespace StagedLaunch.Document

/-! ## Adding to tables -/

section Tables

variable {origin : Origin} {entries entries' : Entries} {name : String} {v : Value}

theorem proper_of (names : (entries.map Prod.fst).Nodup) (values : ∀ entry ∈ entries, entry.2.Proper) : Proper entries :=
  .table names values

/-- How a table came about does not matter. -/
theorem Value.Proper.ofTable (h : (Value.table origin entries).Proper) : Document.Proper entries := proper_of h.names h.values

theorem Proper.value (h : Proper entries) : (Value.table origin entries).Proper := .table h.names h.values

theorem Proper.nil : Proper [] := proper_of (by simp) (by simp)

theorem Proper.lookup (h : Proper entries) (hlookup : entries.lookup name = some v) : v.Proper := by
  obtain ⟨before, after, rfl, -⟩ := List.lookup_eq_some_iff.1 hlookup
  exact h.values _ List.mem_append_cons_self

theorem not_mem_of_lookup (h : entries.lookup name = none) : name ∉ entries.map Prod.fst := by
  intro hmem
  obtain ⟨⟨_, v⟩, hv, rfl⟩ := List.mem_map.1 hmem
  have hne := List.lookup_eq_none_iff.1 h _ hv
  simp at hne

/-- A name that a table does not have can be added to it. -/
theorem Proper.append (h : Proper entries) (hname : entries.lookup name = none) (hv : v.Proper) :
    Proper (entries ++ [(name, v)]) := by
  refine proper_of ?_ fun entry hentry => ?_
  · rw [List.map_append, List.nodup_append]
    refine ⟨h.names, by simp, fun other hother last hlast => ?_⟩
    obtain rfl : last = name := by simpa using hlast
    rintro rfl
    exact not_mem_of_lookup hname hother
  · rcases List.mem_append.1 hentry with hentry | hentry
    · exact h.values entry hentry
    · obtain rfl := List.mem_singleton.1 hentry
      exact hv

theorem Proper.put (h : Proper entries) (hv : v.Proper) : Proper (put entries name v) := by
  unfold Document.put
  split
  · have hnames : (entries.map fun entry => if entry.1 == name then (name, v) else entry).map Prod.fst = entries.map Prod.fst := by
      rw [List.map_map]
      refine List.map_congr_left fun entry _ => ?_
      dsimp only [Function.comp]
      split
      · rename_i hname
        exact (eq_of_beq hname).symm
      · rfl
    refine proper_of (hnames ▸ h.names) fun entry hentry => ?_
    obtain ⟨other, hother, rfl⟩ := List.mem_map.1 hentry
    split
    · exact hv
    · exact h.values other hother
  · rename_i hnone
    exact h.append (Option.not_isSome_iff_eq_none.1 hnone) hv

/-- A change at the end of a way keeps what it keeps of the table there. -/
theorem Proper.atTable {way : Way} {path : List String} {change : Origin → Entries → Option Entries} (h : Proper entries)
    (hchange : ∀ origin t t', Proper t → change origin t = some t' → Proper t')
    (hat : atTable way path change origin entries = some entries') : Proper entries' := by
  induction path generalizing origin entries entries' with
  | nil => exact hchange _ _ _ h hat
  | cons name path ih =>
    rw [Document.atTable] at hat
    split at hat
    · obtain ⟨t, ht, rfl⟩ := Option.map_eq_some_iff.1 hat
      exact h.put (ih .nil ht).value
    · rename_i o t hlookup
      split at hat
      · obtain ⟨t', ht', rfl⟩ := Option.map_eq_some_iff.1 hat
        exact h.put (ih (h.lookup hlookup).ofTable ht').value
      · cases hat
    · rename_i items hlookup
      split at hat
      · cases hat
      · rename_i last before hreverse
        obtain ⟨t, ht, rfl⟩ := Option.map_eq_some_iff.1 hat
        have hitems : items = before.reverse ++ [last] := by rw [← List.reverse_reverse items, hreverse, List.reverse_cons]
        cases h.lookup hlookup with
        | tables values =>
          rw [hitems] at values
          refine h.put (.tables fun t' ht' => ?_)
          rw [List.reverse_cons, List.mem_append, List.mem_singleton] at ht'
          rcases ht' with ht' | rfl
          · exact values t' (List.mem_append_left _ ht')
          · exact ih (values last (by simp)) ht
    · cases hat

theorem Proper.addKey {path : List String} (h : Proper entries) (hv : v.Proper)
    (hadd : addKey path name v entries = some entries') : Proper entries' := by
  refine h.atTable (fun origin t t' ht hchange => ?_) hadd
  split at hchange
  · cases hchange
  · rename_i hnew
    cases hchange
    rw [Bool.or_eq_true, not_or] at hnew
    exact ht.append (Option.not_isSome_iff_eq_none.1 hnew.2) hv

theorem Proper.filter (h : Proper entries) (p : String × Value → Bool) : Proper (entries.filter p) := by
  refine proper_of (h.names.sublist (List.filter_sublist.map Prod.fst)) fun entry hentry => ?_
  exact h.values entry (List.mem_filter.1 hentry).1

theorem Proper.lookupPath {path : List String} {found : Option Entries} (h : Proper entries)
    (hpath : openHeader.lookupPath path entries = some found) : ∀ t ∈ found, Proper t := by
  induction path generalizing entries with
  | nil =>
    cases hpath
    simpa using h
  | cons name path ih =>
    rw [openHeader.lookupPath] at hpath
    split at hpath
    · cases hpath
      simp
    · rename_i o t hlookup
      split at hpath
      · exact ih (h.lookup hlookup).ofTable hpath
      · cases hpath
    · rename_i items hlookup
      split at hpath
      · rename_i t hlast
        cases h.lookup hlookup with
        | tables values => exact ih (values t (List.mem_of_getLast? hlast)) hpath
      · cases hpath
    · cases hpath

theorem Proper.openHeader {path : List String} {opened rest : Entries} (h : Proper entries)
    (hopen : openHeader path name entries = some (opened, rest)) : Proper opened ∧ Proper rest := by
  unfold Document.openHeader at hopen
  obtain ⟨found, hfound, hopen⟩ := Option.bind_eq_some_iff.1 hopen
  have hrest {t : Entries} (ht : Proper t)
      (hrest : ((Document.atTable .header path (fun _ t => some (t.filter fun e => e.1 != name)) .header entries).bind
        fun rest => some (t, rest)) = some (opened, rest)) : Proper opened ∧ Proper rest := by
    obtain ⟨t', ht', heq⟩ := Option.bind_eq_some_iff.1 hrest
    cases heq
    refine ⟨ht, h.atTable (fun origin t t' ht hchange => ?_) ht'⟩
    cases hchange
    exact ht.filter _
  dsimp only at hopen
  split at hopen
  · exact hrest .nil hopen
  · rename_i t hlookup
    obtain ⟨table, htable, hname⟩ := Option.bind_eq_some_iff.1 hlookup
    exact hrest ((h.lookupPath hfound table htable).lookup hname).ofTable hopen
  · cases hopen

theorem Proper.openTables {path : List String} (h : Proper entries) (hopen : openTables path name entries = some entries') :
    Proper entries' := by
  refine h.atTable (fun origin t t' ht hchange => ?_) hopen
  split at hchange
  · rename_i hnone
    cases hchange
    exact ht.append hnone (.tables (by simp))
  · cases hchange
    exact ht
  · cases hchange

theorem Proper.closeHeader {path : List String} {body : Entries} (h : Proper entries) (hbody : Proper body)
    (hclose : closeHeader path name body entries = some entries') : Proper entries' := by
  refine h.atTable (fun origin t t' ht hchange => ?_) hclose
  cases hchange
  exact ht.put hbody.value

theorem Proper.closeTables {path : List String} {body : Entries} (h : Proper entries) (hbody : Proper body)
    (hclose : closeTables path name body entries = some entries') : Proper entries' := by
  refine h.atTable (fun origin t t' ht hchange => ?_) hclose
  split at hchange
  · rename_i items hlookup
    cases hchange
    cases ht.lookup hlookup with
    | tables values =>
      refine ht.put (.tables fun t' ht' => ?_)
      rcases List.mem_append.1 ht' with ht' | ht'
      · exact values t' ht'
      · obtain rfl := List.mem_singleton.1 ht'
        exact hbody
  · cases hchange

end Tables

/-! ## Values -/

section Values

variable {v : Value} {cs rest : List Char}

theorem readMoment_eq (h : readMoment cs = some (v, rest)) : v = .moment := by
  unfold readMoment at h
  repeat' split at h
  all_goals
    first
    | cases h
      rfl
    | obtain ⟨_, _, heq⟩ := Option.map_eq_some_iff.1 h
      cases heq
      rfl

theorem readFloat_proper (h : readFloat cs = some (v, rest)) : v.Proper := by
  unfold readFloat at h
  dsimp only at h
  split at h
  · cases h
    exact .real _
  · cases h
    exact .real _
  · obtain ⟨⟨whole, rest'⟩, -, h⟩ := Option.bind_eq_some_iff.1 h
    dsimp only at h
    split at h
    · obtain ⟨⟨fraction, rest''⟩, -, h⟩ := Option.bind_eq_some_iff.1 h
      dsimp only at h
      split at h
      all_goals
        obtain ⟨⟨exponent, rest₃⟩, -, h⟩ := Option.bind_eq_some_iff.1 h
        obtain ⟨x, -, h⟩ := Option.bind_eq_some_iff.1 h
        cases h
        exact .real _
    · obtain ⟨⟨exponent, rest''⟩, -, h⟩ := Option.bind_eq_some_iff.1 h
      obtain ⟨x, -, h⟩ := Option.bind_eq_some_iff.1 h
      cases h
      exact .real _

theorem readWhole_proper (h : readWhole cs = some (v, rest)) : v.Proper := by
  unfold readWhole at h
  dsimp only at h
  obtain ⟨⟨digits, rest'⟩, -, h⟩ := Option.bind_eq_some_iff.1 h
  obtain ⟨n, -, h⟩ := Option.bind_eq_some_iff.1 h
  obtain ⟨⟨⟩, hguard, h⟩ := Option.bind_eq_some_iff.1 h
  rw [Option.guard_eq_some', Bool.and_eq_true, decide_eq_true_eq, decide_eq_true_eq] at hguard
  cases h
  have hbound : (wholeBound : Int) = 0x8000000000000000 := rfl
  refine .integer ?_
  rwa [hbound] at hguard

theorem readBased_proper {base : Nat} (h : readBased base cs = some (v, rest)) : v.Proper := by
  unfold readBased at h
  obtain ⟨⟨digits, rest'⟩, -, h⟩ := Option.bind_eq_some_iff.1 h
  obtain ⟨n, -, h⟩ := Option.bind_eq_some_iff.1 h
  obtain ⟨⟨⟩, hguard, h⟩ := Option.bind_eq_some_iff.1 h
  rw [Option.guard_eq_some'] at hguard
  cases h
  have hbound : wholeBound = 0x8000000000000000 := rfl
  rw [hbound] at hguard
  exact .integer (by omega)

theorem readScalar_proper (h : readScalar cs = some (v, rest)) : v.Proper := by
  unfold readScalar at h
  split at h
  · obtain ⟨r, -, heq⟩ := Option.map_eq_some_iff.1 h
    cases heq
    exact .text _
  · obtain ⟨r, -, heq⟩ := Option.map_eq_some_iff.1 h
    cases heq
    exact .text _
  · cases h
    exact .truth true
  · cases h
    exact .truth false
  · unfold readNumber at h
    split at h
    · rename_i r hmoment
      cases h
      rw [readMoment_eq hmoment]
      exact .moment
    · split at h
      · rename_i r hfloat
        cases h
        exact readFloat_proper hfloat
      · split at h
        · exact readBased_proper h
        · exact readBased_proper h
        · exact readBased_proper h
        · exact readWhole_proper h

/-- Values, the rest of an array, and the rest of a table between braces are read inside each other. The induction is on the
fuel that they share. -/
theorem readValue_proper (fuel : Nat) :
    (∀ depth cs v rest, readValue fuel depth cs = some (v, rest) → v.Proper) ∧
      (∀ depth items cs v rest, (∀ item ∈ items, item.Proper) → readItems fuel depth items cs = some (v, rest) → v.Proper) ∧
      ∀ depth entries cs v rest, Proper entries → readPairs fuel depth entries cs = some (v, rest) → v.Proper := by
  induction fuel with
  | zero => exact ⟨fun _ _ _ _ h => by simp [readValue] at h, fun _ _ _ _ _ _ h => by simp [readItems] at h,
      fun _ _ _ _ _ _ h => by simp [readPairs] at h⟩
  | succ fuel ih =>
    obtain ⟨hvalue, hitems, hpairs⟩ := ih
    refine ⟨fun depth cs v rest h => ?_, fun depth items cs v rest hall h => ?_, fun depth entries cs v rest hentries h => ?_⟩
    · unfold readValue at h
      split at h
      · split at h
        · cases h
        · exact hitems _ _ _ _ _ (by simp) h
      · split at h
        · cases h
        · split at h
          · cases h
            exact .table (by simp) (by simp)
          · exact hpairs _ _ _ _ _ .nil h
      · exact readScalar_proper h
    · rw [readItems] at h
      split at h
      · cases h
        exact .array fun w hw => hall w (List.mem_reverse.1 hw)
      · split at h
        · cases h
        · rename_i w rest' hw
          have hmore : ∀ item ∈ w :: items, item.Proper := List.forall_mem_cons.2 ⟨hvalue _ _ _ _ hw, hall⟩
          split at h
          · cases h
            exact .array fun w' hw' => hmore w' (List.mem_reverse.1 hw')
          · exact hitems _ _ _ _ _ hmore h
          · cases h
    · rw [readPairs] at h
      split at h
      · split at h
        · cases h
        · rename_i w rest' hw
          split at h
          · cases h
          · rename_i entries' hadd
            have hmore := hentries.addKey (hvalue _ _ _ _ hw) hadd
            split at h
            · cases h
              exact hmore.value
            · exact hpairs _ _ _ _ _ hmore h
            · cases h
      · cases h

end Values

/-! ## Documents -/

/-- The finished tables of a document, and the open one. -/
structure Progress.Proper (p : Progress) : Prop where
  /-- The finished tables. -/
  root : Document.Proper p.root
  /-- The open one. -/
  current : Document.Proper p.current

theorem Progress.Proper.close {p : Progress} {entries : Entries} (h : p.Proper) (hclose : p.close = some entries) :
    Document.Proper entries := by
  unfold Progress.close at hclose
  split at hclose
  · cases hclose
    exact h.current
  · exact h.root.closeTables h.current hclose
  · exact h.root.closeHeader h.current hclose

theorem readLine_value {cs rest : List Char} {path : List String} {name : String} {v : Value}
    (h : readLine cs = some (.value path name v, rest)) : v.Proper := by
  unfold readLine at h
  split at h
  · cases h
  · cases h
  · cases h
  · cases h
  · obtain ⟨⟨⟨path', name'⟩, rest'⟩, -, h⟩ := Option.bind_eq_some_iff.1 h
    dsimp only at h
    split at h
    · cases h
    · cases h
  · obtain ⟨⟨⟨path', name'⟩, rest'⟩, -, h⟩ := Option.bind_eq_some_iff.1 h
    dsimp only at h
    split at h
    · cases h
    · cases h
  · obtain ⟨⟨⟨path', name'⟩, rest'⟩, -, h⟩ := Option.bind_eq_some_iff.1 h
    dsimp only at h
    split at h
    · obtain ⟨⟨w, rest''⟩, hw, h⟩ := Option.bind_eq_some_iff.1 h
      cases h
      exact (readValue_proper _).1 _ _ _ _ hw
    · cases h

theorem Progress.Proper.take {p p' : Progress} {line : Line} (h : p.Proper)
    (hline : ∀ path name v, line = .value path name v → v.Proper) (htake : p.take line = some p') : p'.Proper := by
  cases line with
  | blank =>
    cases htake
    exact h
  | value path name v =>
    obtain ⟨current, hadd, rfl⟩ := Option.map_eq_some_iff.1 htake
    exact ⟨h.root, h.current.addKey (hline _ _ _ rfl) hadd⟩
  | header path name =>
    obtain ⟨root, hclose, htake⟩ := Option.bind_eq_some_iff.1 htake
    obtain ⟨⟨opened, root'⟩, hopen, htake⟩ := Option.bind_eq_some_iff.1 htake
    cases htake
    obtain ⟨hopened, hroot⟩ := (h.close hclose).openHeader hopen
    exact ⟨hroot, hopened⟩
  | tables path name =>
    obtain ⟨root, hclose, htake⟩ := Option.bind_eq_some_iff.1 htake
    obtain ⟨root', hopen, htake⟩ := Option.bind_eq_some_iff.1 htake
    cases htake
    exact ⟨(h.close hclose).openTables hopen, .nil⟩

theorem readDocument_proper {fuel : Nat} {p : Progress} {cs : List Char} {entries : Entries} (h : p.Proper)
    (hread : readDocument fuel p cs = some entries) : Proper entries := by
  induction fuel generalizing p cs with
  | zero => cases hread
  | succ fuel ih =>
    rw [readDocument] at hread
    split at hread
    · exact h.close hread
    · obtain ⟨⟨line, rest⟩, hline, hread⟩ := Option.bind_eq_some_iff.1 hread
      obtain ⟨p', htake, hread⟩ := Option.bind_eq_some_iff.1 hread
      obtain ⟨rest', -, hread⟩ := Option.bind_eq_some_iff.1 hread
      refine ih (h.take (fun path name v heq => ?_) htake) hread
      subst heq
      exact readLine_value hline

/-- A document that was read has no table with a name twice, and its whole numbers have 64 bits. -/
theorem parse?_proper {text : String} {entries : Entries} (h : parse? text = some entries) : Proper entries :=
  readDocument_proper ⟨.nil, .nil⟩ h

end StagedLaunch.Document
