import Mathlib.Data.List.Nodup
import StagedLaunch.Proofs.Document.Tables
import StagedLaunch.Settings.Schema

/-!
# Values of a configuration document

A single value is what its setting wants (`Wanted.Meets`), or it has another type or is a number out of range (`Wanted.Misses`).
A readiness check is the name of one that takes nothing, or a table with just the name of one and what it takes
(`ServerReady.Fits`, `ServerReady.Problem`). What a value shows does not depend on the order of the names in it.
-/

namespace StagedLaunch

open Document

/-! ## Single values -/

/-- A value is what is wanted. -/
inductive Wanted.Meets : Wanted → Value → Prop where
  /-- A text. -/
  | text (s : String) : Meets .text (.text s)
  /-- A number of 16 bits. -/
  | word16 {n : Int} (range : 0 ≤ n ∧ n ≤ 65535) : Meets .word16 (.integer n)
  /-- A number that is not negative. -/
  | word64 {n : Int} (range : 0 ≤ n) : Meets .word64 (.integer n)
  /-- True or false. -/
  | truth (b : Bool) : Meets .truth (.truth b)

/-- A value has the type that is wanted. -/
def Wanted.isTypeOf : Wanted → Value → Bool
  | .text, .text _ => true
  | .word16, .integer _ => true
  | .word64, .integer _ => true
  | .truth, .truth _ => true
  | _, _ => false

/-- What is wrong with a value that is not what is wanted. -/
inductive Wanted.Misses (wanted : Wanted) : Value → SchemaError → Prop where
  /-- It has another type. -/
  | type {v : Value} (other : wanted.isTypeOf v = false) : Misses wanted v (.wrongType v.found wanted)
  /-- It is a number out of range. -/
  | range {n : Int} (same : wanted.isTypeOf (.integer n) = true) (outside : ¬wanted.Meets (.integer n)) :
      Misses wanted (.integer n) (.outOfRange n wanted)

theorem Wanted.Meets.isPlain {wanted : Wanted} {v : Value} (h : wanted.Meets v) : v.isPlain = true := by
  cases h <;> rfl

/-- What is wanted of a value has no names. -/
theorem Wanted.Meets.reordered {wanted : Wanted} {v v' : Value} (h : wanted.Meets v) (hsame : v.Reordered v') :
    wanted.Meets v' := by
  rw [hsame.eq_of_plain h.isPlain]
  exact h

theorem exclusive_meets (wanted : Wanted) (v : Value) : Exclusive (wanted.Meets v) (wanted.Misses v) where
  unique := by
    intro e e' h h'
    cases h with
    | type other =>
      cases h' with
      | type => rfl
      | range same outside =>
        rw [other] at same
        cases same
    | range same outside =>
      cases h' with
      | range => rfl
      | type other =>
        rw [other] at same
        cases same
  apart := by
    intro e hmeets h
    cases h with
    | type other => cases hmeets <;> cases other
    | range same outside => exact outside hmeets

theorem judged_readString (v : Value) : Judged (Wanted.text.Meets v) (Wanted.text.Misses v) (readString v) := by
  cases v with
  | text s => exact (exclusive_meets ..).accepted s (.text s)
  | _ => exact (exclusive_meets ..).refused (.type rfl)

theorem judged_readTruth (v : Value) : Judged (Wanted.truth.Meets v) (Wanted.truth.Misses v) (readTruth v) := by
  cases v with
  | truth b => exact (exclusive_meets ..).accepted b (.truth b)
  | _ => exact (exclusive_meets ..).refused (.type rfl)

/-- A bounded number is judged as the wanted number when the bound and what is wanted agree. -/
theorem judged_readBounded {bound : Nat} {wanted : Wanted} {v : Value} (htype : ∀ v, wanted.isTypeOf v = Wanted.word64.isTypeOf v)
    (hmeets : ∀ n, v = .integer n → (wanted.Meets (.integer n) ↔ 0 ≤ n ∧ n < bound)) :
    Judged (wanted.Meets v) (wanted.Misses v) (readBounded bound wanted v) := by
  cases v with
  | integer n =>
    have hiff := hmeets n rfl
    unfold readBounded
    dsimp only
    by_cases hrange : 0 ≤ n ∧ n < bound
    · rw [if_pos (by simpa using hrange)]
      exact (exclusive_meets ..).accepted _ (hiff.2 hrange)
    · rw [if_neg (by simpa using hrange)]
      exact (exclusive_meets ..).refused (.range (htype _) fun h => hrange (hiff.1 h))
  | _ => exact (exclusive_meets ..).refused (.type (htype _))

theorem judged_readWord16 (v : Value) : Judged (Wanted.word16.Meets v) (Wanted.word16.Misses v) (readWord16 v) := by
  refine (judged_readBounded (fun v => ?_) fun n hn => ?_).map _
  · cases v <;> rfl
  · constructor
    · intro h
      cases h with
      | word16 range =>
        have hsize : UInt16.size = 65536 := rfl
        omega
    · intro h
      have hsize : UInt16.size = 65536 := rfl
      exact .word16 (by omega)

/-- No number of a document is too large for 64 bits. -/
theorem judged_readWord64 {v : Value} (hproper : v.Proper) :
    Judged (Wanted.word64.Meets v) (Wanted.word64.Misses v) (readWord64 v) := by
  refine (judged_readBounded (fun v => rfl) fun n hn => ?_).map _
  subst hn
  cases hproper with
  | integer range =>
    have hsize : UInt64.size = 18446744073709551616 := rfl
    constructor
    · intro h
      cases h with
      | word64 hpos => omega
    · intro h
      exact .word64 h.1

/-! ## Values with a setting of their own -/

/-- Settings of a table, each with what is wanted of its value. -/
abbrev Wants : Type := List (String × Wanted)

namespace Wants

/-- A name is a setting, and its value is what is wanted. -/
inductive Fits (settings : Wants) : String × Value → Prop where
  /-- The value is what is wanted. -/
  | meets {name : String} {wanted : Wanted} {v : Value} (isSetting : (name, wanted) ∈ settings) (meets : wanted.Meets v) :
      Fits settings (name, v)

/-- What is wrong with an entry of a table with settings, when these names are known. -/
inductive Problem (settings : Wants) (known : List String) : String × Value → SchemaError → Prop where
  /-- The value is not what is wanted. -/
  | misses {name : String} {wanted : Wanted} {v : Value} {e : SchemaError} (isSetting : (name, wanted) ∈ settings)
      (misses : wanted.Misses v e) : Problem settings known (name, v) e
  /-- The name is not known. -/
  | unknown {name : String} {v : Value} (isUnknown : name ∉ known) : Problem settings known (name, v) (.unknownField name known)

theorem exclusive_fits {settings : Wants} {known : List String} (hnames : (settings.map Prod.fst).Nodup)
    (hknown : settings.map Prod.fst ⊆ known) (entry : String × Value) :
    Exclusive (settings.Fits entry) (settings.Problem known entry) := by
  have hunique {name : String} {wanted wanted' : Wanted} (h : (name, wanted) ∈ settings) (h' : (name, wanted') ∈ settings) :
      wanted = wanted' :=
    congrArg Prod.snd (List.inj_on_of_nodup_map hnames h h' rfl)
  refine ⟨fun h h' => ?_, fun hfits h => ?_⟩
  · cases h with
    | misses isSetting misses =>
      cases h' with
      | misses isSetting' misses' =>
        cases hunique isSetting isSetting'
        exact (exclusive_meets ..).unique misses misses'
      | unknown isUnknown => exact absurd (hknown (List.mem_map_of_mem isSetting)) isUnknown
    | unknown isUnknown =>
      cases h' with
      | misses isSetting misses => exact absurd (hknown (List.mem_map_of_mem isSetting)) isUnknown
      | unknown => rfl
  · cases hfits with
    | meets isSetting meets =>
      cases h with
      | misses isSetting' misses =>
        cases hunique isSetting isSetting'
        exact (exclusive_meets ..).apart meets misses
      | unknown isUnknown => exact absurd (hknown (List.mem_map_of_mem isSetting)) isUnknown

section Names

variable {settings : Wants} {name : String} {v v' : Value}

theorem Fits.isPlain (h : settings.Fits (name, v)) : v.isPlain = true := by
  cases h with
  | meets isSetting meets => exact meets.isPlain

theorem Fits.reordered (h : settings.Fits (name, v)) (hsame : v.Reordered v') : settings.Fits (name, v') := by
  rw [hsame.eq_of_plain h.isPlain]
  exact h

theorem Fits.not_loses (h : settings.Fits (name, v)) : ¬v.Loses v' := by
  intro hloses
  cases h.isPlain.symm.trans hloses.not_plain

end Names

end Wants

/-! ## What values show -/

/-- A value is how something is written. -/
def IsWritten {α : Type} (write : α → Value) (a : α) (v : Value) : Prop := v = write a

/-- The number of 16 bits in a document. -/
def Document.Value.word16 (n : UInt16) : Value := .integer n.toNat

/-- The number of 64 bits in a document. -/
def Document.Value.word64 (n : UInt64) : Value := .integer n.toNat

section IsWritten

variable {α : Type} {write : α → Value} {a a' : α} {v v' : Value}

theorem IsWritten.unique (hwrite : Function.Injective write) (h : IsWritten write a v) (h' : IsWritten write a' v) : a = a' :=
  hwrite (Eq.trans (Eq.symm h) h')

theorem IsWritten.reordered (hplain : ∀ a, (write a).isPlain = true) (h : IsWritten write a v) (hsame : v.Reordered v') :
    IsWritten write a v' := by
  subst h
  exact hsame.eq_of_plain (hplain a)

theorem injective_text : Function.Injective Value.text := fun s s' h => by cases h; rfl

theorem injective_truth : Function.Injective Value.truth := fun b b' h => by cases h; rfl

theorem injective_word16 : Function.Injective Value.word16 := by
  intro n n' h
  simp only [Value.word16, Value.integer.injEq, Int.natCast_inj] at h
  exact UInt16.toNat_inj.1 h

theorem injective_word64 : Function.Injective Value.word64 := by
  intro n n' h
  simp only [Value.word64, Value.integer.injEq, Int.natCast_inj] at h
  exact UInt64.toNat_inj.1 h

theorem readString_shows {s : String} (h : readString v = .ok s) : IsWritten .text s v := by
  unfold readString at h
  split at h
  · cases h
    rfl
  · cases h

theorem readTruth_shows {b : Bool} (h : readTruth v = .ok b) : IsWritten .truth b v := by
  unfold readTruth at h
  split at h
  · cases h
    rfl
  · cases h

theorem readBounded_shows {bound n : Nat} {wanted : Wanted} (h : readBounded bound wanted v = .ok n) :
    v = .integer n ∧ n < bound := by
  unfold readBounded at h
  split at h
  · split at h
    · rename_i m hrange
      cases h
      simp only [Bool.and_eq_true, decide_eq_true_eq] at hrange
      rw [Int.toNat_of_nonneg hrange.1]
      exact ⟨rfl, by omega⟩
    · cases h
  · cases h

theorem readWord16_shows {n : UInt16} (h : readWord16 v = .ok n) : IsWritten .word16 n v := by
  obtain ⟨m, hread, rfl⟩ := map_eq_ok h
  obtain ⟨rfl, hlt⟩ := readBounded_shows hread
  have hm : m.toUInt16.toNat = m := UInt16.toNat_ofNat_of_lt hlt
  rw [IsWritten, Value.word16, hm]

theorem readWord64_shows {n : UInt64} (h : readWord64 v = .ok n) : IsWritten .word64 n v := by
  obtain ⟨m, hread, rfl⟩ := map_eq_ok h
  obtain ⟨rfl, hlt⟩ := readBounded_shows hread
  have hm : m.toUInt64.toNat = m := UInt64.toNat_ofNat_of_lt hlt
  rw [IsWritten, Value.word64, hm]

end IsWritten

/-! ## Readiness checks -/

namespace ServerReady

/-- The readiness checks, each with what is wanted of its value; some take none. -/
def checks : List (String × Option Wanted) := [("udp_bound", none), ("tcp", none), ("log", some .text), ("delay", some .word64)]

/-- A value that gives nothing. -/
inductive IsNothing : Value → Prop where
  /-- An array. -/
  | array : IsNothing (.array [])
  /-- A table. -/
  | table {origin : Origin} : IsNothing (.table origin [])
  /-- Tables. -/
  | tables : IsNothing (.tables [])

/-- What is wrong with a value that gives something. -/
inductive Surplus : Value → SchemaError → Prop where
  /-- An array. -/
  | array {v : Value} {rest : List Value} : Surplus (.array (v :: rest)) .surplusInTable
  /-- A table. -/
  | table {origin : Origin} {entry : String × Value} {rest : Entries} : Surplus (.table origin (entry :: rest)) .surplusInTable
  /-- Tables. -/
  | tables {t : Entries} {rest : List Entries} : Surplus (.tables (t :: rest)) .surplusInTables
  /-- Another value. -/
  | plain {v : Value} (isPlain : v.isPlain = true) : Surplus v (.surplusValue v.typeName)

/-- A value names a check that takes nothing: it is its name, or a table with just this name and nothing. -/
inductive Names (name : String) : Value → Prop where
  /-- The name. -/
  | name : Names name (.text name)
  /-- A table with the name. -/
  | table {origin : Origin} {v : Value} (nothing : IsNothing v) : Names name (.table origin [(name, v)])

/-- A value is a readiness check. -/
inductive Fits : Value → Prop where
  /-- It names one that takes nothing. -/
  | bare {name : String} {v : Value} (isCheck : (name, none) ∈ checks) (names : Names name v) : Fits v
  /-- It is a table with just the name of one that takes a value, and such a value. -/
  | valued {origin : Origin} {name : String} {wanted : Wanted} {v : Value} (isCheck : (name, some wanted) ∈ checks)
      (meets : wanted.Meets v) : Fits (.table origin [(name, v)])

/-- What is wrong with a value that is no readiness check. -/
inductive Problem : Value → SchemaError → Prop where
  /-- The name of one that takes a value. -/
  | needsValue {name : String} {wanted : Wanted} (isCheck : (name, some wanted) ∈ checks) :
      Problem (.text name) .checkWithoutValue
  /-- A text that names none. -/
  | unknown {name : String} (isUnknown : name ∉ checkNames) : Problem (.text name) (.unknownCheck name)
  /-- A table without a name. -/
  | none {origin : Origin} : Problem (.table origin []) .noCheck
  /-- A table with several names. -/
  | many {origin : Origin} {entry entry' : String × Value} {rest : Entries} :
      Problem (.table origin (entry :: entry' :: rest)) .manyChecks
  /-- A table with a name that is not known. -/
  | unknownName {origin : Origin} {name : String} {v : Value} (isUnknown : name ∉ checkNames) :
      Problem (.table origin [(name, v)]) (.unknownCheck name)
  /-- A table with the name of one that takes nothing, and a value. -/
  | surplus {origin : Origin} {name : String} {v : Value} {e : SchemaError} (isCheck : (name, Option.none) ∈ checks)
      (surplus : Surplus v e) : Problem (.table origin [(name, v)]) e
  /-- A table with the name of one that takes a value, and another value than is wanted. -/
  | misses {origin : Origin} {name : String} {wanted : Wanted} {v : Value} {e : SchemaError}
      (isCheck : (name, some wanted) ∈ checks) (misses : wanted.Misses v e) : Problem (.table origin [(name, v)]) e
  /-- Neither a text nor a table. -/
  | other {v : Value} (noText : ∀ name, v ≠ .text name) (noTable : ∀ origin entries, v ≠ .table origin entries) :
      Problem v .notACheck

/-- A value shows a readiness check. -/
inductive Shows : ServerReady → Value → Prop where
  /-- The UDP port is bound. -/
  | udpBound {v : Value} (names : Names "udp_bound" v) : Shows .udpBound v
  /-- TCP connections are accepted. -/
  | tcp {v : Value} (names : Names "tcp" v) : Shows .tcp v
  /-- A line matches. -/
  | log {origin : Origin} {name pattern : String} {v : Value} (isName : name = "log") (isPattern : IsWritten .text pattern v) :
      Shows (.log pattern) (.table origin [(name, v)])
  /-- A time has passed. -/
  | delay {origin : Origin} {name : String} {ms : UInt64} {v : Value} (isName : name = "delay")
      (isNumber : IsWritten .word64 ms v) : Shows (.delay ms) (.table origin [(name, v)])

theorem nodup_checks : (checks.map Prod.fst).Nodup := by decide

theorem mem_checkNames {name : String} {wanted : Option Wanted} (h : (name, wanted) ∈ checks) : name ∈ checkNames := by
  have hmem : name ∈ checks.map Prod.fst := List.mem_map_of_mem h
  exact hmem

/-- What is wanted of a check. -/
theorem wanted_unique {name : String} {wanted wanted' : Option Wanted} (h : (name, wanted) ∈ checks)
    (h' : (name, wanted') ∈ checks) : wanted = wanted' :=
  congrArg Prod.snd (List.inj_on_of_nodup_map nodup_checks h h' rfl)

theorem exclusive_nothing (v : Value) : Exclusive (IsNothing v) (Surplus v) where
  unique := by
    intro e e' h h'
    cases h with
    | plain isPlain =>
      cases h' with
      | plain => rfl
      | array | table | tables => cases isPlain
    | array | table | tables =>
      cases h' with
      | plain isPlain => cases isPlain
      | _ => rfl
  apart := by
    intro e hnothing h
    cases hnothing with
    | array | table | tables =>
      cases h with
      | plain isPlain => cases isPlain

theorem judged_readNothing (v : Value) : Judged (IsNothing v) (Surplus v) (readNothing v) := by
  cases v with
  | array items =>
    cases items with
    | nil => exact (exclusive_nothing _).accepted () .array
    | cons first rest => exact (exclusive_nothing _).refused .array
  | table origin entries =>
    cases entries with
    | nil => exact (exclusive_nothing _).accepted () .table
    | cons first rest => exact (exclusive_nothing _).refused .table
  | tables items =>
    cases items with
    | nil => exact (exclusive_nothing _).accepted () .tables
    | cons first rest => exact (exclusive_nothing _).refused .tables
  | text | integer | real | truth | moment => exact (exclusive_nothing _).refused (.plain rfl)

theorem exclusive_fits (v : Value) : Exclusive (Fits v) (Problem v) where
  unique := by
    intro e e' h h'
    cases h with
    | needsValue isCheck =>
      cases h' with
      | needsValue => rfl
      | unknown isUnknown => exact absurd (mem_checkNames isCheck) isUnknown
      | other noText => exact absurd rfl (noText _)
    | unknown isUnknown =>
      cases h' with
      | needsValue isCheck => exact absurd (mem_checkNames isCheck) isUnknown
      | unknown => rfl
      | other noText => exact absurd rfl (noText _)
    | none =>
      cases h' with
      | none => rfl
      | other noText noTable => exact absurd rfl (noTable _ _)
    | many =>
      cases h' with
      | many => rfl
      | other noText noTable => exact absurd rfl (noTable _ _)
    | unknownName isUnknown =>
      cases h' with
      | unknownName => rfl
      | surplus isCheck | misses isCheck => exact absurd (mem_checkNames isCheck) isUnknown
      | other noText noTable => exact absurd rfl (noTable _ _)
    | surplus isCheck surplus =>
      cases h' with
      | unknownName isUnknown => exact absurd (mem_checkNames isCheck) isUnknown
      | surplus isCheck' surplus' => exact (exclusive_nothing _).unique surplus surplus'
      | misses isCheck' => cases wanted_unique isCheck isCheck'
      | other noText noTable => exact absurd rfl (noTable _ _)
    | misses isCheck misses =>
      cases h' with
      | unknownName isUnknown => exact absurd (mem_checkNames isCheck) isUnknown
      | surplus isCheck' => cases wanted_unique isCheck isCheck'
      | misses isCheck' misses' =>
        cases wanted_unique isCheck isCheck'
        exact (exclusive_meets ..).unique misses misses'
      | other noText noTable => exact absurd rfl (noTable _ _)
    | other noText noTable =>
      cases h' with
      | needsValue | unknown => exact absurd rfl (noText _)
      | none | many | unknownName | surplus | misses => exact absurd rfl (noTable _ _)
      | other => rfl
  apart := by
    intro e hfits h
    cases hfits with
    | bare isCheck names =>
      cases names with
      | name =>
        cases h with
        | needsValue isCheck' => cases wanted_unique isCheck isCheck'
        | unknown isUnknown => exact isUnknown (mem_checkNames isCheck)
        | other noText => exact noText _ rfl
      | table nothing =>
        cases h with
        | unknownName isUnknown => exact isUnknown (mem_checkNames isCheck)
        | surplus isCheck' surplus => exact (exclusive_nothing _).apart nothing surplus
        | misses isCheck' => cases wanted_unique isCheck isCheck'
        | other noText noTable => exact noTable _ _ rfl
    | valued isCheck meets =>
      cases h with
      | unknownName isUnknown => exact isUnknown (mem_checkNames isCheck)
      | surplus isCheck' => cases wanted_unique isCheck isCheck'
      | misses isCheck' misses =>
        cases wanted_unique isCheck isCheck'
        exact (exclusive_meets ..).apart meets misses
      | other noText noTable => exact noTable _ _ rfl

theorem judged_readServerReady {v : Value} (hproper : v.Proper) : Judged (Fits v) (Problem v) (readServerReady v) := by
  have hexclusive := exclusive_fits v
  unfold readServerReady
  split
  · -- a text
    split
    · exact hexclusive.accepted _ (.bare (by decide) .name)
    · exact hexclusive.accepted _ (.bare (by decide) .name)
    · exact hexclusive.refused (@Problem.needsValue _ .text (by decide))
    · exact hexclusive.refused (@Problem.needsValue _ .word64 (by decide))
    · rename_i hbound htcp hlog hdelay
      refine hexclusive.refused (.unknown ?_)
      simp only [checkNames, List.mem_cons, List.not_mem_nil, or_false, not_or]
      exact ⟨hbound, htcp, hlog, hdelay⟩
  · exact hexclusive.refused .none
  · -- a table with one name
    have hvalue := hproper.values _ (List.mem_singleton_self _)
    split
    · exact hexclusive.lift ((judged_readNothing _).map _) (fun h => .bare (by decide) (.table h)) (.surplus (by decide))
    · exact hexclusive.lift ((judged_readNothing _).map _) (fun h => .bare (by decide) (.table h)) (.surplus (by decide))
    · exact hexclusive.lift ((judged_readString _).map _) (.valued (by decide)) (.misses (by decide))
    · exact hexclusive.lift ((judged_readWord64 hvalue).map _) (.valued (by decide)) (.misses (by decide))
    · rename_i hbound htcp hlog hdelay
      refine hexclusive.refused (.unknownName ?_)
      simp only [checkNames, List.mem_cons, List.not_mem_nil, or_false, not_or]
      exact ⟨hbound, htcp, hlog, hdelay⟩
  · -- a table with several names
    rename_i origin entries hnone hone
    match entries with
    | [] => exact absurd rfl hnone
    | [(name, v)] => exact absurd rfl (hone name v)
    | entry :: entry' :: rest => exact hexclusive.refused .many
  · rename_i v htext hnone hone htable
    exact hexclusive.refused (.other htext htable)

theorem readServerReady_shows {v : Value} {ready : ServerReady} (h : readServerReady v = .ok ready) : Shows ready v := by
  have hnothing {v : Value} (h : readNothing v = .ok ()) : IsNothing v := (judged_readNothing v).ok_iff.1 ⟨(), h⟩
  unfold readServerReady at h
  split at h
  · split at h
    · cases h
      exact .udpBound .name
    · cases h
      exact .tcp .name
    · cases h
    · cases h
    · cases h
  · cases h
  · split at h
    · obtain ⟨⟨⟩, hread, rfl⟩ := map_eq_ok h
      exact .udpBound (.table (hnothing hread))
    · obtain ⟨⟨⟩, hread, rfl⟩ := map_eq_ok h
      exact .tcp (.table (hnothing hread))
    · obtain ⟨pattern, hread, rfl⟩ := map_eq_ok h
      exact .log rfl (readString_shows hread)
    · obtain ⟨ms, hread, rfl⟩ := map_eq_ok h
      exact .delay rfl (readWord64_shows hread)
    · cases h
  · cases h
  · cases h

section Shows

variable {v v' : Value} {ready ready' : ServerReady} {origin : Origin} {name name' : String} {entries : Entries}

theorem Names.unique (h : Names name v) (h' : Names name' v) : name = name' := by
  cases h with
  | name =>
    cases h' with
    | name => rfl
  | table nothing =>
    cases h' with
    | table nothing' => rfl

theorem Names.eq_of_table (h : Names name (.table origin [(name', v)])) : name = name' := by
  cases h with
  | table nothing => rfl

theorem Shows.unique (h : Shows ready v) (h' : Shows ready' v) : ready = ready' := by
  cases h with
  | udpBound names =>
    cases h' with
    | udpBound => rfl
    | tcp names' => exact absurd (names.unique names') (by decide)
    | log isName | delay isName => exact absurd (names.eq_of_table.trans isName) (by decide)
  | tcp names =>
    cases h' with
    | tcp => rfl
    | udpBound names' => exact absurd (names.unique names') (by decide)
    | log isName | delay isName => exact absurd (names.eq_of_table.trans isName) (by decide)
  | log isName isPattern =>
    cases h' with
    | udpBound names | tcp names => exact absurd (names.eq_of_table.trans isName) (by decide)
    | log isName' isPattern' => rw [isPattern.unique injective_text isPattern']
    | delay isName' => exact absurd (isName.symm.trans isName') (by decide)
  | delay isName isNumber =>
    cases h' with
    | udpBound names | tcp names => exact absurd (names.eq_of_table.trans isName) (by decide)
    | log isName' => exact absurd (isName.symm.trans isName') (by decide)
    | delay isName' isNumber' => rw [isNumber.unique injective_word64 isNumber']

theorem IsNothing.reordered (h : IsNothing v) (hsame : v.Reordered v') : IsNothing v' := by
  cases h with
  | array =>
    rw [hsame.array_nil]
    exact .array
  | table =>
    rw [hsame.table_nil]
    exact .table
  | tables =>
    obtain ⟨items, rfl, hlength⟩ := hsame.tables
    rw [List.eq_nil_of_length_eq_zero hlength]
    exact .tables

theorem Names.reordered (h : Names name v) (hsame : v.Reordered v') : Names name v' := by
  cases h with
  | name =>
    rw [hsame.eq_of_plain rfl]
    exact .name
  | table nothing =>
    obtain ⟨w, rfl, hvalue⟩ := hsame.single
    exact .table (nothing.reordered hvalue)

theorem Shows.reordered (h : Shows ready v) (hsame : v.Reordered v') : Shows ready v' := by
  cases h with
  | udpBound names => exact .udpBound (names.reordered hsame)
  | tcp names => exact .tcp (names.reordered hsame)
  | log isName isPattern =>
    obtain ⟨w, rfl, hvalue⟩ := hsame.single
    exact .log isName (isPattern.reordered (fun _ => rfl) hvalue)
  | delay isName isNumber =>
    obtain ⟨w, rfl, hvalue⟩ := hsame.single
    exact .delay isName (isNumber.reordered (fun _ => rfl) hvalue)

theorem Fits.reordered (h : Fits v) (hsame : v.Reordered v') : Fits v' := by
  cases h with
  | bare isCheck names => exact .bare isCheck (names.reordered hsame)
  | valued isCheck meets =>
    obtain ⟨w, rfl, hvalue⟩ := hsame.single
    exact .valued isCheck (meets.reordered hvalue)

/-- A table that shows a readiness check has one name, and there is no name to lose in its value. -/
theorem Shows.single (h : Shows ready (.table origin entries)) : ∃ name w, entries = [(name, w)] ∧ ∀ w', ¬w.Loses w' := by
  have hplain {w : Value} (hplain : w.isPlain = true) (w' : Value) : ¬w.Loses w' := fun hloses => by
    rw [hloses.not_plain] at hplain
    cases hplain
  have hnothing {w : Value} (hnothing : IsNothing w) (w' : Value) : ¬w.Loses w' := fun hloses => by
    cases hnothing with
    | array | tables => cases hloses
    | table =>
      generalize hw : Value.table _ [] = w at hloses
      cases hloses <;> simp at hw
  cases h with
  | udpBound names | tcp names =>
    cases names with
    | table nothing => exact ⟨_, _, rfl, hnothing nothing⟩
  | log isName isPattern =>
    subst isPattern
    exact ⟨_, _, rfl, hplain rfl⟩
  | delay isName isNumber =>
    subst isNumber
    exact ⟨_, _, rfl, hplain rfl⟩

/-- Without its name a table shows no readiness check. -/
theorem Shows.lost (h : Shows ready v) (hloses : v.Loses v') : ¬Shows ready v' := by
  cases hloses with
  | name =>
    obtain ⟨name, w, heq, -⟩ := h.single
    have hnone := congrArg List.length heq
    intro h'
    obtain ⟨name', w', heq', -⟩ := h'.single
    have hone := congrArg List.length heq'
    simp only [List.length_append, List.length_cons, List.length_nil] at hnone hone
    omega
  | within hloses =>
    obtain ⟨name, w, heq, hno⟩ := h.single
    rcases List.append_eq_singleton_iff.1 heq with ⟨-, hentry⟩ | ⟨-, hnil⟩
    · cases hentry
      exact absurd hloses (hno _)
    · cases hnil

end Shows

end ServerReady

end StagedLaunch
