import StagedLaunch.Proofs.Document.Reading
import StagedLaunch.Proofs.Settings.Values

/-!
# What a configuration document may say

Every name of the document must be a setting, and every value must be what its setting wants (`Config.Fits`). Then the
configuration has just these values (`Config.Says`), whatever the order of the names, and without one of them it would be another.
Else the problem that is reported is that of the first name in the order of the document (`Config.Problem`,
`Config.ofEntries_checksExactly`).
-/

namespace StagedLaunch

open Document

/-! ## Build settings -/

namespace BuildConfig

/-- The build settings. -/
def settings : Wants := [("configure", .text), ("compile", .text), ("skip", .truth)]

/-- Values by position begin with those that are wanted. -/
inductive ItemsFit : List Wanted → List Value → Prop where
  /-- Nothing more is wanted. -/
  | done {items : List Value} : ItemsFit [] items
  /-- The next value is what is wanted. -/
  | next {wanted : Wanted} {rest : List Wanted} {v : Value} {items : List Value} (meets : wanted.Meets v)
      (others : ItemsFit rest items) : ItemsFit (wanted :: rest) (v :: items)

/-- What is wrong with values by position, after a number of values that are what is wanted. -/
inductive ItemsProblem : Nat → List Wanted → List Value → SchemaError → Prop where
  /-- There is no next value. -/
  | short {position : Nat} {wanted : Wanted} {rest : List Wanted} : ItemsProblem position (wanted :: rest) [] (.tooShort position)
  /-- The next value is not what is wanted. -/
  | misses {position : Nat} {wanted : Wanted} {rest : List Wanted} {v : Value} {items : List Value} {e : SchemaError}
      (misses : wanted.Misses v e) : ItemsProblem position (wanted :: rest) (v :: items) e
  /-- Something is wrong with those after it. -/
  | later {position : Nat} {wanted : Wanted} {rest : List Wanted} {v : Value} {items : List Value} {e : SchemaError}
      (meets : wanted.Meets v) (others : ItemsProblem (position + 1) rest items e) :
      ItemsProblem position (wanted :: rest) (v :: items) e

/-- A value gives build settings: a table with no other names, or an array that begins with their values. -/
inductive Fits : Value → Prop where
  /-- A table. -/
  | table {origin : Origin} {entries : Entries} (each : ∀ entry ∈ entries, settings.Fits entry) : Fits (.table origin entries)
  /-- An array. -/
  | items {items : List Value} (fit : ItemsFit (settings.map Prod.snd) items) : Fits (.array items)

/-- What is wrong with a value that gives no build settings. -/
inductive Problem : Value → SchemaError → Prop where
  /-- A name in a table, the first with a problem. -/
  | table {origin : Origin} {entries : Entries} {e : SchemaError}
      (first : FirstProblem settings.Fits (settings.Problem buildNames) entries e) : Problem (.table origin entries) e
  /-- A value in an array, the first with a problem. -/
  | items {items : List Value} {e : SchemaError} (first : ItemsProblem 0 (settings.map Prod.snd) items e) :
      Problem (.array items) e
  /-- Tables, which are values by position. -/
  | tables {items : List Entries} {e : SchemaError}
      (first : ItemsProblem 0 (settings.map Prod.snd) (items.map (.table .header)) e) : Problem (.tables items) e
  /-- A date or a time, which is read as a table with a name of its own. -/
  | moment : Problem .moment (.unknownField "$__toml_private_datetime" buildNames)
  /-- Another value. -/
  | other {v : Value} (isPlain : v.isPlain = true) (noMoment : v ≠ .moment) : Problem v (.wrongType v.found .build)

/-- The build settings are what a table says, and absent if it does not say them. -/
structure Says (b : BuildConfig) (entries : Entries) : Prop where
  /-- The command that configures. -/
  configure : Sets entries "configure" (IsWritten .text) b.configure
  /-- The command that compiles. -/
  compile : Sets entries "compile" (IsWritten .text) b.compile
  /-- Whether to leave the build out. -/
  skip : Sets entries "skip" (IsWritten .truth) b.skip

/-- A value shows build settings. -/
inductive Shows : BuildConfig → Value → Prop where
  /-- A table. -/
  | table {b : BuildConfig} {origin : Origin} {entries : Entries} (isSaid : b.Says entries) : Shows b (.table origin entries)
  /-- An array. -/
  | items {configure compile : String} {skip : Bool} {rest : List Value} :
      Shows ⟨some configure, some compile, some skip⟩ (.array (.text configure :: .text compile :: .truth skip :: rest))

theorem exclusive_entry (entry : String × Value) : Exclusive (settings.Fits entry) (settings.Problem buildNames entry) :=
  Wants.exclusive_fits (by decide) (by decide) entry

theorem judged_takeBuildEntry (b : BuildConfig) (entry : String × Value) :
    Judged (settings.Fits entry) (settings.Problem buildNames entry) (takeBuildEntry b entry) := by
  have hexclusive := exclusive_entry entry
  unfold takeBuildEntry
  split
  · exact hexclusive.lift ((judged_readString _).map _) (.meets (by decide)) (.misses (by decide))
  · exact hexclusive.lift ((judged_readString _).map _) (.meets (by decide)) (.misses (by decide))
  · exact hexclusive.lift ((judged_readTruth _).map _) (.meets (by decide)) (.misses (by decide))
  · rename_i name v hconfigure hcompile hskip
    refine hexclusive.refused (.unknown ?_)
    simp only [buildNames, List.mem_cons, List.not_mem_nil, or_false, not_or]
    exact ⟨hconfigure, hcompile, hskip⟩

section Items

variable {α β : Type} {position : Nat} {wanted : Wanted} {rest : List Wanted} {v : Value} {items : List Value}

theorem judged_done (a : α) : Judged (ItemsFit [] items) (ItemsProblem position [] items) (.ok a : Except SchemaError α) :=
  .accepted a .done fun _ h => nomatch h

theorem judged_short : Judged (ItemsFit (wanted :: rest) []) (ItemsProblem position (wanted :: rest) [])
    (.error (.tooShort position) : Except SchemaError α) := by
  refine .refused _ (fun h => nomatch h) fun e => ⟨fun h => ?_, ?_⟩
  · cases h with
    | short => rfl
  · rintro rfl
    exact .short

theorem judged_next {outcome : Except SchemaError α} {f : α → Except SchemaError β}
    (h : Judged (wanted.Meets v) (wanted.Misses v) outcome)
    (hrest : ∀ a, Judged (ItemsFit rest items) (ItemsProblem (position + 1) rest items) (f a)) :
    Judged (ItemsFit (wanted :: rest) (v :: items)) (ItemsProblem position (wanted :: rest) (v :: items)) (outcome >>= f) := by
  refine (h.bind hrest).congr ⟨fun ⟨hmeets, hothers⟩ => .next hmeets hothers, fun hfit => ?_⟩ fun e => ⟨?_, fun hproblem => ?_⟩
  · cases hfit with
    | next meets others => exact ⟨meets, others⟩
  · rintro (hmisses | ⟨hmeets, hothers⟩)
    · exact .misses hmisses
    · exact .later hmeets hothers
  · cases hproblem with
    | misses misses => exact .inl misses
    | later meets others => exact .inr ⟨meets, others⟩

end Items

theorem judged_readBuildItems (items : List Value) :
    Judged (ItemsFit (settings.map Prod.snd) items) (ItemsProblem 0 (settings.map Prod.snd) items) (readBuildItems items) := by
  cases items with
  | nil => exact judged_short
  | cons v items =>
    refine judged_next (judged_readString v) fun configure => ?_
    cases items with
    | nil => exact judged_short
    | cons v items =>
      refine judged_next (judged_readString v) fun compile => ?_
      cases items with
      | nil => exact judged_short
      | cons v items => exact judged_next (judged_readTruth v) fun skip => judged_done _

/-- The elements of tables are never what is wanted. -/
theorem not_itemsFit_tables (items : List Entries) : ¬ItemsFit (settings.map Prod.snd) (items.map (.table .header)) := by
  intro h
  cases items with
  | nil => cases h
  | cons t items =>
    cases h with
    | next meets others => cases meets

theorem judged_readBuild (v : Value) : Judged (Fits v) (Problem v) (readBuild v) := by
  have hplain {v : Value} (hplain : v.isPlain = true) (hmoment : v ≠ .moment) :
      Judged (Fits v) (Problem v) (.error (.wrongType v.found .build) : Except SchemaError BuildConfig) := by
    refine .refused _ (fun h => ?_) fun e => ⟨fun h => ?_, ?_⟩
    · cases h <;> cases hplain
    · cases h with
      | other => rfl
      | moment => exact absurd rfl hmoment
      | table | items | tables => cases hplain
    · rintro rfl
      exact .other hplain hmoment
  cases v with
  | table origin entries =>
    refine (judged_foldlM (fun b entry _ => judged_takeBuildEntry b entry) ⟨none, none, none⟩).congr
      ⟨.table, fun h => ?_⟩ fun e => ⟨.table, fun h => ?_⟩
    · cases h with
      | table each => exact each
    · cases h with
      | table first => exact first
      | other isPlain => cases isPlain
  | array items =>
    refine (judged_readBuildItems items).congr ⟨.items, fun h => ?_⟩ fun e => ⟨.items, fun h => ?_⟩
    · cases h with
      | items fit => exact fit
    · cases h with
      | items first => exact first
      | other isPlain => cases isPlain
  | tables items =>
    refine (judged_readBuildItems (items.map (.table .header))).congr ⟨fun h => ?_, fun h => nomatch h⟩ fun e =>
      ⟨.tables, fun h => ?_⟩
    · exact absurd h (not_itemsFit_tables items)
    · cases h with
      | tables first => exact first
      | other isPlain => cases isPlain
  | moment =>
    refine .refused _ (fun h => nomatch h) fun e => ⟨fun h => ?_, ?_⟩
    · cases h with
      | moment => rfl
      | other isPlain noMoment => exact absurd rfl noMoment
    · rintro rfl
      exact .moment
  | text | integer | real | truth => exact hplain rfl (by simp)

/-- An entry changes only what its name stands for. -/
theorem takeBuildEntry_keeps {b b' : BuildConfig} {name : String} {v : Value} (h : takeBuildEntry b (name, v) = .ok b') :
    (name ≠ "configure" → b'.configure = b.configure) ∧ (name ≠ "compile" → b'.compile = b.compile) ∧
      (name ≠ "skip" → b'.skip = b.skip) := by
  unfold takeBuildEntry at h
  split at h
  · rename_i heq
    cases heq
    obtain ⟨s, -, rfl⟩ := map_eq_ok h
    exact ⟨fun hne => absurd rfl hne, fun _ => rfl, fun _ => rfl⟩
  · rename_i heq
    cases heq
    obtain ⟨s, -, rfl⟩ := map_eq_ok h
    exact ⟨fun _ => rfl, fun hne => absurd rfl hne, fun _ => rfl⟩
  · rename_i heq
    cases heq
    obtain ⟨s, -, rfl⟩ := map_eq_ok h
    exact ⟨fun _ => rfl, fun _ => rfl, fun hne => absurd rfl hne⟩
  · cases h

theorem slot_configure : Slot takeBuildEntry "configure" (IsWritten .text) BuildConfig.configure :=
  slot_of_read (fun _ _ => rfl) (fun _ _ => rfl) (fun _ _ => readString_shows) fun h hne => (takeBuildEntry_keeps h).1 hne

theorem slot_compile : Slot takeBuildEntry "compile" (IsWritten .text) BuildConfig.compile :=
  slot_of_read (fun _ _ => rfl) (fun _ _ => rfl) (fun _ _ => readString_shows) fun h hne => (takeBuildEntry_keeps h).2.1 hne

theorem slot_skip : Slot takeBuildEntry "skip" (IsWritten .truth) BuildConfig.skip :=
  slot_of_read (fun _ _ => rfl) (fun _ _ => rfl) (fun _ _ => readTruth_shows) fun h hne => (takeBuildEntry_keeps h).2.2 hne

/-- What is read from a table is what the table says. -/
theorem says_of_foldlM {entries : Entries} {b : BuildConfig} (hnames : (entries.map Prod.fst).Nodup)
    (h : entries.foldlM takeBuildEntry ⟨none, none, none⟩ = .ok b) : b.Says entries :=
  ⟨slot_configure.sets hnames rfl h, slot_compile.sets hnames rfl h, slot_skip.sets hnames rfl h⟩

theorem readBuild_shows {v : Value} {b : BuildConfig} (hproper : v.Proper) (h : readBuild v = .ok b) : Shows b v := by
  cases v with
  | table origin entries => exact .table (says_of_foldlM hproper.names h)
  | array items =>
    have hfit := (judged_readBuildItems items).ok_iff.1 ⟨b, h⟩
    cases hfit with
    | next meets others =>
      cases meets with
      | text configure =>
        cases others with
        | next meets others =>
          cases meets with
          | text compile =>
            cases others with
            | next meets others =>
              cases meets with
              | truth skip =>
                cases h
                exact .items
  | tables items => exact absurd ((judged_readBuildItems _).ok_iff.1 ⟨b, h⟩) (not_itemsFit_tables items)
  | text | integer | real | truth | moment => cases h

section Shows

variable {b b' : BuildConfig} {entries entries' : Entries} {v v' : Value}

theorem Says.unique (h : b.Says entries) (h' : b'.Says entries) : b = b' := by
  have hconfigure := h.configure.unique h'.configure fun _ _ _ => IsWritten.unique injective_text
  have hcompile := h.compile.unique h'.compile fun _ _ _ => IsWritten.unique injective_text
  have hskip := h.skip.unique h'.skip fun _ _ _ => IsWritten.unique injective_truth
  cases b
  cases b'
  simp only [mk.injEq]
  exact ⟨hconfigure, hcompile, hskip⟩

theorem Shows.unique (h : Shows b v) (h' : Shows b' v) : b = b' := by
  cases h with
  | table isSaid =>
    cases h' with
    | table isSaid' => exact isSaid.unique isSaid'
  | items =>
    cases h' with
    | items => rfl

theorem Says.reorders (h : b.Says entries) (hfrom : Value.Reorders entries' entries) : b.Says entries' where
  configure := h.configure.reorders hfrom fun _ _ _ => IsWritten.reordered fun _ => rfl
  compile := h.compile.reorders hfrom fun _ _ _ => IsWritten.reordered fun _ => rfl
  skip := h.skip.reorders hfrom fun _ _ _ => IsWritten.reordered fun _ => rfl

theorem ItemsFit.reordered {wanted : List Wanted} {items items' : List Value} (h : ItemsFit wanted items)
    (hsame : (Value.array items).Reordered (.array items')) : ItemsFit wanted items' := by
  induction h generalizing items' with
  | done => exact .done
  | next meets others ih =>
    obtain ⟨w, rest, heq, hvalue, hrest⟩ := hsame.array_cons
    cases heq
    exact .next (meets.reordered hvalue) (ih hrest)

theorem Fits.reordered (h : Fits v) (hsame : v.Reordered v') : Fits v' := by
  cases h with
  | table each =>
    obtain ⟨entries', rfl, -⟩ := hsame.table
    obtain ⟨_, heq, hfrom⟩ := hsame.symm.table
    cases heq
    exact .table (hfrom.forall (fun _ _ _ => Wants.Fits.reordered) each)
  | @items items fit =>
    cases items with
    | nil => cases fit
    | cons first rest =>
      have hsame' := hsame
      obtain ⟨w, rest', rfl, -, -⟩ := hsame.array_cons
      exact .items (fit.reordered hsame')

theorem Shows.reordered (h : Shows b v) (hsame : v.Reordered v') : Shows b v' := by
  cases h with
  | table isSaid =>
    obtain ⟨entries', rfl, -⟩ := hsame.table
    obtain ⟨_, heq, hfrom⟩ := hsame.symm.table
    cases heq
    exact .table (isSaid.reorders hfrom)
  | items =>
    obtain ⟨w, rest, rfl, hconfigure, hrest⟩ := hsame.array_cons
    obtain ⟨w', rest', heq, hcompile, hrest'⟩ := hrest.array_cons
    obtain ⟨w'', rest'', heq', hskip, -⟩ := hrest'.array_cons
    cases heq
    cases heq'
    cases hconfigure.eq_of_plain rfl
    cases hcompile.eq_of_plain rfl
    cases hskip.eq_of_plain rfl
    exact .items

/-- Without one of its names a table shows other build settings. -/
theorem Shows.lost (h : Shows b v) (hfits : Fits v) (hproper : v.Proper) (hloses : v.Loses v') : ¬Shows b v' := by
  cases h with
  | items => cases hloses
  | table isSaid =>
    cases hfits with
    | table each =>
      cases hloses with
      | @name _ before after entry =>
        obtain ⟨name, v⟩ := entry
        intro h'
        cases h' with
        | table isSaid' =>
          cases each (name, v) List.mem_append_cons_self with
          | meets isSetting meets =>
            simp only [settings, List.mem_cons, Prod.mk.injEq, List.not_mem_nil, or_false] at isSetting
            rcases isSetting with ⟨rfl, -⟩ | ⟨rfl, -⟩ | ⟨rfl, -⟩
            · exact isSaid.configure.lost hproper.names isSaid'.configure
            · exact isSaid.compile.lost hproper.names isSaid'.compile
            · exact isSaid.skip.lost hproper.names isSaid'.skip
      | within hvalue => exact absurd hvalue (each _ List.mem_append_cons_self).not_loses

end Shows

end BuildConfig

/-! ## Configurations -/

namespace Config

/-- The settings with a single value. -/
def settings : Wants :=
  [("build_dir", .text), ("project_root", .text), ("log_dir", .text), ("host", .text), ("port", .word16), ("run_secs", .word64),
   ("settle_ms", .word64), ("ready_timeout_ms", .word64), ("readiness", .truth), ("shutdown_sigint_ms", .word64),
   ("shutdown_sigterm_ms", .word64)]

/-- An entry of a document is a setting, and its value is what is wanted. -/
inductive Fits (entry : String × Value) : Prop where
  /-- A setting with a single value. -/
  | setting (fits : settings.Fits entry)
  /-- The readiness check. -/
  | serverReady (isName : entry.1 = "server_ready") (fits : ServerReady.Fits entry.2)
  /-- The build settings. -/
  | build (isName : entry.1 = "build") (fits : BuildConfig.Fits entry.2)

/-- What is wrong with an entry of a document. -/
inductive Problem (entry : String × Value) (e : SchemaError) : Prop where
  /-- The name is not known, or the value of a setting is not what is wanted. -/
  | setting (problem : settings.Problem fieldNames entry e)
  /-- The value is no readiness check. -/
  | serverReady (isName : entry.1 = "server_ready") (problem : ServerReady.Problem entry.2 e)
  /-- The value gives no build settings. -/
  | build (isName : entry.1 = "build") (problem : BuildConfig.Problem entry.2 e)

/-- Each part of the configuration is what a document says, and absent if it does not say it. -/
structure Says (k : Config) (entries : Entries) : Prop where
  /-- The build directory. -/
  buildDir : Sets entries "build_dir" (IsWritten .text) k.buildDir
  /-- The directory of the sources. -/
  projectRoot : Sets entries "project_root" (IsWritten .text) k.projectRoot
  /-- The directory of output files. -/
  logDir : Sets entries "log_dir" (IsWritten .text) k.logDir
  /-- The host. -/
  host : Sets entries "host" (IsWritten .text) k.host
  /-- The port. -/
  port : Sets entries "port" (IsWritten .word16) k.port
  /-- The length of the run window. -/
  runSecs : Sets entries "run_secs" (IsWritten .word64) k.runSecs
  /-- How long groups settle. -/
  settleMs : Sets entries "settle_ms" (IsWritten .word64) k.settleMs
  /-- How long to wait for readiness. -/
  readyTimeoutMs : Sets entries "ready_timeout_ms" (IsWritten .word64) k.readyTimeoutMs
  /-- Whether to wait for readiness. -/
  readiness : Sets entries "readiness" (IsWritten .truth) k.readiness
  /-- The readiness check. -/
  serverReady : Sets entries "server_ready" ServerReady.Shows k.serverReady
  /-- The time to react to an interrupt. -/
  interruptMs : Sets entries "shutdown_sigint_ms" (IsWritten .word64) k.interruptMs
  /-- The time to react to the signal to terminate. -/
  terminateMs : Sets entries "shutdown_sigterm_ms" (IsWritten .word64) k.terminateMs
  /-- The build settings. -/
  build : Sets entries "build" BuildConfig.Shows k.build

/-! ### Judging entries -/

/-- A name whose value is a table of its own is no setting with a single value. -/
theorem apart_of_table {entry : String × Value} (h : entry.1 = "server_ready" ∨ entry.1 = "build") :
    ¬settings.Fits entry ∧ ∀ e, ¬settings.Problem fieldNames entry e := by
  have hname : entry.1 ∉ settings.map Prod.fst ∧ entry.1 ∈ fieldNames := by
    rcases h with h | h
    · rw [h]
      decide
    · rw [h]
      decide
  refine ⟨fun hfits => ?_, fun e hproblem => ?_⟩
  · cases hfits with
    | meets isSetting meets => exact hname.1 (List.mem_map_of_mem isSetting)
  · cases hproblem with
    | misses isSetting misses => exact hname.1 (List.mem_map_of_mem isSetting)
    | unknown isUnknown => exact isUnknown hname.2

theorem exclusive_entry (entry : String × Value) : Exclusive (Fits entry) (Problem entry) := by
  have hsettings : Exclusive (settings.Fits entry) (settings.Problem fieldNames entry) :=
    Wants.exclusive_fits (by decide) (by decide) entry
  have hbuild := (BuildConfig.judged_readBuild entry.2).exclusive
  have hready := ServerReady.exclusive_fits entry.2
  have hone (h : entry.1 = "server_ready") (h' : entry.1 = "build") : False := absurd (h.symm.trans h') (by decide)
  constructor
  · intro e e' h h'
    cases h with
    | setting problem =>
      cases h' with
      | setting problem' => exact hsettings.unique problem problem'
      | serverReady isName => exact absurd problem ((apart_of_table (.inl isName)).2 e)
      | build isName => exact absurd problem ((apart_of_table (.inr isName)).2 e)
    | serverReady isName problem =>
      cases h' with
      | setting problem' => exact absurd problem' ((apart_of_table (.inl isName)).2 e')
      | serverReady isName' problem' => exact hready.unique problem problem'
      | build isName' => exact (hone isName isName').elim
    | build isName problem =>
      cases h' with
      | setting problem' => exact absurd problem' ((apart_of_table (.inr isName)).2 e')
      | serverReady isName' => exact (hone isName' isName).elim
      | build isName' problem' => exact hbuild.unique problem problem'
  · intro e hfits h
    cases hfits with
    | setting fits =>
      cases h with
      | setting problem => exact hsettings.apart fits problem
      | serverReady isName => exact (apart_of_table (.inl isName)).1 fits
      | build isName => exact (apart_of_table (.inr isName)).1 fits
    | serverReady isName fits =>
      cases h with
      | setting problem => exact (apart_of_table (.inl isName)).2 e problem
      | serverReady isName' problem => exact hready.apart fits problem
      | build isName' => exact hone isName isName'
    | build isName fits =>
      cases h with
      | setting problem => exact (apart_of_table (.inr isName)).2 e problem
      | serverReady isName' => exact hone isName' isName
      | build isName' problem => exact hbuild.apart fits problem

/-- The entry of a setting with a single value is judged by what is wanted of it. -/
theorem judged_setting {α : Type} {name : String} {wanted : Wanted} {v : Value} {outcome : Except SchemaError α}
    (hsetting : (name, wanted) ∈ settings) (h : Judged (wanted.Meets v) (wanted.Misses v) outcome) :
    Judged (Fits (name, v)) (Problem (name, v)) outcome :=
  (exclusive_entry (name, v)).lift h (fun hmeets => .setting (.meets hsetting hmeets)) fun hmisses =>
    .setting (.misses hsetting hmisses)

theorem judged_takeEntry (k : Config) {entry : String × Value} (hproper : entry.2.Proper) :
    Judged (Fits entry) (Problem entry) (k.takeEntry entry) := by
  unfold takeEntry
  split
  · exact judged_setting (by decide) ((judged_readString _).map _)
  · exact judged_setting (by decide) ((judged_readString _).map _)
  · exact judged_setting (by decide) ((judged_readString _).map _)
  · exact judged_setting (by decide) ((judged_readString _).map _)
  · exact judged_setting (by decide) ((judged_readWord16 _).map _)
  · exact judged_setting (by decide) ((judged_readWord64 hproper).map _)
  · exact judged_setting (by decide) ((judged_readWord64 hproper).map _)
  · exact judged_setting (by decide) ((judged_readWord64 hproper).map _)
  · exact judged_setting (by decide) ((judged_readTruth _).map _)
  · exact (exclusive_entry _).lift ((ServerReady.judged_readServerReady hproper).map _) (.serverReady rfl) (.serverReady rfl)
  · exact judged_setting (by decide) ((judged_readWord64 hproper).map _)
  · exact judged_setting (by decide) ((judged_readWord64 hproper).map _)
  · exact (exclusive_entry _).lift ((BuildConfig.judged_readBuild _).map _) (fun h => .build rfl h) fun h =>
      .build rfl h
  · rename_i name v h1 h2 h3 h4 h5 h6 h7 h8 h9 h10 h11 h12 h13
    refine (exclusive_entry _).refused (.setting (.unknown ?_))
    simp only [fieldNames, List.mem_cons, List.not_mem_nil, or_false, not_or]
    exact ⟨h1, h2, h3, h4, h5, h6, h7, h8, h9, h10, h11, h12, h13⟩

theorem judged_ofEntries {entries : Entries} (hproper : Proper entries) :
    Judged (∀ entry ∈ entries, Fits entry) (FirstProblem Fits Problem entries) (ofEntries entries) :=
  judged_foldlM (fun k entry hentry => k.judged_takeEntry (hproper.values entry hentry)) Config.empty

/-! ### What a document says -/

/-- Every part of a configuration that a name does not stand for is the same in another. -/
structure Keeps (name : String) (k k' : Config) : Prop where
  /-- The build directory. -/
  buildDir : name ≠ "build_dir" → k'.buildDir = k.buildDir
  /-- The directory of the sources. -/
  projectRoot : name ≠ "project_root" → k'.projectRoot = k.projectRoot
  /-- The directory of output files. -/
  logDir : name ≠ "log_dir" → k'.logDir = k.logDir
  /-- The host. -/
  host : name ≠ "host" → k'.host = k.host
  /-- The port. -/
  port : name ≠ "port" → k'.port = k.port
  /-- The length of the run window. -/
  runSecs : name ≠ "run_secs" → k'.runSecs = k.runSecs
  /-- How long groups settle. -/
  settleMs : name ≠ "settle_ms" → k'.settleMs = k.settleMs
  /-- How long to wait for readiness. -/
  readyTimeoutMs : name ≠ "ready_timeout_ms" → k'.readyTimeoutMs = k.readyTimeoutMs
  /-- Whether to wait for readiness. -/
  readiness : name ≠ "readiness" → k'.readiness = k.readiness
  /-- The readiness check. -/
  serverReady : name ≠ "server_ready" → k'.serverReady = k.serverReady
  /-- The time to react to an interrupt. -/
  interruptMs : name ≠ "shutdown_sigint_ms" → k'.interruptMs = k.interruptMs
  /-- The time to react to the signal to terminate. -/
  terminateMs : name ≠ "shutdown_sigterm_ms" → k'.terminateMs = k.terminateMs
  /-- The build settings. -/
  build : name ≠ "build" → k'.build = k.build

/-- An entry changes only what its name stands for. -/
theorem takeEntry_keeps {k k' : Config} {name : String} {v : Value} (h : k.takeEntry (name, v) = .ok k') : Keeps name k k' := by
  unfold takeEntry at h
  split at h
  case h_14 => cases h
  all_goals
    rename_i heq
    cases heq
    obtain ⟨a, -, rfl⟩ := map_eq_ok h
    constructor
    all_goals
      intro hne
      first
      | rfl
      | exact absurd rfl hne

theorem slot_buildDir : Slot takeEntry "build_dir" (IsWritten .text) buildDir :=
  slot_of_read (fun _ _ => rfl) (fun _ _ => rfl) (fun _ _ => readString_shows) fun h => (takeEntry_keeps h).buildDir

theorem slot_projectRoot : Slot takeEntry "project_root" (IsWritten .text) projectRoot :=
  slot_of_read (fun _ _ => rfl) (fun _ _ => rfl) (fun _ _ => readString_shows) fun h => (takeEntry_keeps h).projectRoot

theorem slot_logDir : Slot takeEntry "log_dir" (IsWritten .text) logDir :=
  slot_of_read (fun _ _ => rfl) (fun _ _ => rfl) (fun _ _ => readString_shows) fun h => (takeEntry_keeps h).logDir

theorem slot_host : Slot takeEntry "host" (IsWritten .text) host :=
  slot_of_read (fun _ _ => rfl) (fun _ _ => rfl) (fun _ _ => readString_shows) fun h => (takeEntry_keeps h).host

theorem slot_port : Slot takeEntry "port" (IsWritten .word16) port :=
  slot_of_read (fun _ _ => rfl) (fun _ _ => rfl) (fun _ _ => readWord16_shows) fun h => (takeEntry_keeps h).port

theorem slot_runSecs : Slot takeEntry "run_secs" (IsWritten .word64) runSecs :=
  slot_of_read (fun _ _ => rfl) (fun _ _ => rfl) (fun _ _ => readWord64_shows) fun h => (takeEntry_keeps h).runSecs

theorem slot_settleMs : Slot takeEntry "settle_ms" (IsWritten .word64) settleMs :=
  slot_of_read (fun _ _ => rfl) (fun _ _ => rfl) (fun _ _ => readWord64_shows) fun h => (takeEntry_keeps h).settleMs

theorem slot_readyTimeoutMs : Slot takeEntry "ready_timeout_ms" (IsWritten .word64) readyTimeoutMs :=
  slot_of_read (fun _ _ => rfl) (fun _ _ => rfl) (fun _ _ => readWord64_shows) fun h => (takeEntry_keeps h).readyTimeoutMs

theorem slot_readiness : Slot takeEntry "readiness" (IsWritten .truth) readiness :=
  slot_of_read (fun _ _ => rfl) (fun _ _ => rfl) (fun _ _ => readTruth_shows) fun h => (takeEntry_keeps h).readiness

theorem slot_serverReady : Slot takeEntry "server_ready" ServerReady.Shows serverReady :=
  slot_of_read (fun _ _ => rfl) (fun _ _ => rfl) (fun _ _ => ServerReady.readServerReady_shows) fun h =>
    (takeEntry_keeps h).serverReady

theorem slot_interruptMs : Slot takeEntry "shutdown_sigint_ms" (IsWritten .word64) interruptMs :=
  slot_of_read (fun _ _ => rfl) (fun _ _ => rfl) (fun _ _ => readWord64_shows) fun h => (takeEntry_keeps h).interruptMs

theorem slot_terminateMs : Slot takeEntry "shutdown_sigterm_ms" (IsWritten .word64) terminateMs :=
  slot_of_read (fun _ _ => rfl) (fun _ _ => rfl) (fun _ _ => readWord64_shows) fun h => (takeEntry_keeps h).terminateMs

theorem slot_build : Slot takeEntry "build" (fun b v => v.Proper → BuildConfig.Shows b v) build :=
  slot_of_read (fun _ _ => rfl) (fun _ _ => rfl) (fun _ _ h hproper => BuildConfig.readBuild_shows hproper h) fun h =>
    (takeEntry_keeps h).build

section Says

variable {k k' : Config} {entries entries' : Entries}

/-- A configuration that is read is what the document says. -/
theorem says_of_ofEntries (hproper : Proper entries) (h : ofEntries entries = .ok k) : k.Says entries where
  buildDir := slot_buildDir.sets hproper.names rfl h
  projectRoot := slot_projectRoot.sets hproper.names rfl h
  logDir := slot_logDir.sets hproper.names rfl h
  host := slot_host.sets hproper.names rfl h
  port := slot_port.sets hproper.names rfl h
  runSecs := slot_runSecs.sets hproper.names rfl h
  settleMs := slot_settleMs.sets hproper.names rfl h
  readyTimeoutMs := slot_readyTimeoutMs.sets hproper.names rfl h
  readiness := slot_readiness.sets hproper.names rfl h
  serverReady := slot_serverReady.sets hproper.names rfl h
  interruptMs := slot_interruptMs.sets hproper.names rfl h
  terminateMs := slot_terminateMs.sets hproper.names rfl h
  build := by
    have hsets := slot_build.sets hproper.names rfl h
    refine ⟨fun v hv => ?_, hsets.absent⟩
    obtain ⟨b, hb, hshows⟩ := hsets.given v hv
    exact ⟨b, hb, hshows (hproper.values _ hv)⟩

theorem Says.unique (h : k.Says entries) (h' : k'.Says entries) : k = k' := by
  have hbuildDir := h.buildDir.unique h'.buildDir fun _ _ _ => IsWritten.unique injective_text
  have hprojectRoot := h.projectRoot.unique h'.projectRoot fun _ _ _ => IsWritten.unique injective_text
  have hlogDir := h.logDir.unique h'.logDir fun _ _ _ => IsWritten.unique injective_text
  have hhost := h.host.unique h'.host fun _ _ _ => IsWritten.unique injective_text
  have hport := h.port.unique h'.port fun _ _ _ => IsWritten.unique injective_word16
  have hrunSecs := h.runSecs.unique h'.runSecs fun _ _ _ => IsWritten.unique injective_word64
  have hsettleMs := h.settleMs.unique h'.settleMs fun _ _ _ => IsWritten.unique injective_word64
  have hreadyTimeoutMs := h.readyTimeoutMs.unique h'.readyTimeoutMs fun _ _ _ => IsWritten.unique injective_word64
  have hreadiness := h.readiness.unique h'.readiness fun _ _ _ => IsWritten.unique injective_truth
  have hserverReady := h.serverReady.unique h'.serverReady fun _ _ _ => ServerReady.Shows.unique
  have hinterruptMs := h.interruptMs.unique h'.interruptMs fun _ _ _ => IsWritten.unique injective_word64
  have hterminateMs := h.terminateMs.unique h'.terminateMs fun _ _ _ => IsWritten.unique injective_word64
  have hbuild := h.build.unique h'.build fun _ _ _ => BuildConfig.Shows.unique
  cases k
  cases k'
  simp only [mk.injEq]
  exact ⟨hbuildDir, hprojectRoot, hlogDir, hhost, hport, hrunSecs, hsettleMs, hreadyTimeoutMs, hreadiness, hserverReady,
    hinterruptMs, hterminateMs, hbuild⟩

theorem Says.reorders (h : k.Says entries) (hfrom : Value.Reorders entries' entries) : k.Says entries' where
  buildDir := h.buildDir.reorders hfrom fun _ _ _ => IsWritten.reordered fun _ => rfl
  projectRoot := h.projectRoot.reorders hfrom fun _ _ _ => IsWritten.reordered fun _ => rfl
  logDir := h.logDir.reorders hfrom fun _ _ _ => IsWritten.reordered fun _ => rfl
  host := h.host.reorders hfrom fun _ _ _ => IsWritten.reordered fun _ => rfl
  port := h.port.reorders hfrom fun _ _ _ => IsWritten.reordered fun _ => rfl
  runSecs := h.runSecs.reorders hfrom fun _ _ _ => IsWritten.reordered fun _ => rfl
  settleMs := h.settleMs.reorders hfrom fun _ _ _ => IsWritten.reordered fun _ => rfl
  readyTimeoutMs := h.readyTimeoutMs.reorders hfrom fun _ _ _ => IsWritten.reordered fun _ => rfl
  readiness := h.readiness.reorders hfrom fun _ _ _ => IsWritten.reordered fun _ => rfl
  serverReady := h.serverReady.reorders hfrom fun _ _ _ => ServerReady.Shows.reordered
  interruptMs := h.interruptMs.reorders hfrom fun _ _ _ => IsWritten.reordered fun _ => rfl
  terminateMs := h.terminateMs.reorders hfrom fun _ _ _ => IsWritten.reordered fun _ => rfl
  build := h.build.reorders hfrom fun _ _ _ => BuildConfig.Shows.reordered

theorem Fits.reordered {name : String} {v v' : Value} (h : Fits (name, v)) (hsame : v.Reordered v') : Fits (name, v') := by
  cases h with
  | setting fits => exact .setting (fits.reordered hsame)
  | serverReady isName fits => exact .serverReady isName (fits.reordered hsame)
  | build isName fits => exact .build isName (fits.reordered hsame)

/-- Without one of its names a document says another configuration. -/
theorem Says.lost_name {before after : Entries} {entry : String × Value} (h : k.Says (before ++ entry :: after))
    (hfits : Fits entry) (hnames : ((before ++ entry :: after).map Prod.fst).Nodup) : ¬k.Says (before ++ after) := by
  obtain ⟨name, v⟩ := entry
  intro h'
  cases hfits with
  | setting fits =>
    cases fits with
    | meets isSetting meets =>
      simp only [settings, List.mem_cons, Prod.mk.injEq, List.not_mem_nil, or_false] at isSetting
      rcases isSetting with ⟨rfl, -⟩ | ⟨rfl, -⟩ | ⟨rfl, -⟩ | ⟨rfl, -⟩ | ⟨rfl, -⟩ | ⟨rfl, -⟩ | ⟨rfl, -⟩ | ⟨rfl, -⟩ | ⟨rfl, -⟩ |
        ⟨rfl, -⟩ | ⟨rfl, -⟩
      · exact h.buildDir.lost hnames h'.buildDir
      · exact h.projectRoot.lost hnames h'.projectRoot
      · exact h.logDir.lost hnames h'.logDir
      · exact h.host.lost hnames h'.host
      · exact h.port.lost hnames h'.port
      · exact h.runSecs.lost hnames h'.runSecs
      · exact h.settleMs.lost hnames h'.settleMs
      · exact h.readyTimeoutMs.lost hnames h'.readyTimeoutMs
      · exact h.readiness.lost hnames h'.readiness
      · exact h.interruptMs.lost hnames h'.interruptMs
      · exact h.terminateMs.lost hnames h'.terminateMs
  | serverReady isName fits =>
    cases isName
    exact h.serverReady.lost hnames h'.serverReady
  | build isName fits =>
    cases isName
    exact h.build.lost hnames h'.build

/-- Without a name in one of its tables a document says another configuration. -/
theorem Says.lost_within {before after : Entries} {name : String} {v v' : Value} (h : k.Says (before ++ (name, v) :: after))
    (hfits : Fits (name, v)) (hproper : v.Proper) (hloses : v.Loses v') : ¬k.Says (before ++ (name, v') :: after) := by
  have hmem : (name, v) ∈ before ++ (name, v) :: after := List.mem_append_cons_self
  have hmem' : (name, v') ∈ before ++ (name, v') :: after := List.mem_append_cons_self
  intro h'
  cases hfits with
  | setting fits => exact fits.not_loses hloses
  | serverReady isName fits =>
    cases isName
    obtain ⟨ready, hready, hshows⟩ := h.serverReady.given v hmem
    obtain ⟨ready', hready', hshows'⟩ := h'.serverReady.given v' hmem'
    cases hready.symm.trans hready'
    exact hshows.lost hloses hshows'
  | build isName fits =>
    cases isName
    obtain ⟨b, hb, hshows⟩ := h.build.given v hmem
    obtain ⟨b', hb', hshows'⟩ := h'.build.given v' hmem'
    cases hb.symm.trans hb'
    exact hshows.lost fits hproper hloses hshows'

theorem ofEntries_eq_ok_iff (hproper : Proper entries) :
    ofEntries entries = .ok k ↔ (∀ entry ∈ entries, Fits entry) ∧ k.Says entries := by
  have hjudged := judged_ofEntries hproper
  constructor
  · intro h
    exact ⟨hjudged.ok_iff.1 ⟨k, h⟩, says_of_ofEntries hproper h⟩
  · rintro ⟨hfits, hsays⟩
    obtain ⟨k', hk'⟩ := hjudged.ok_iff.2 hfits
    rw [hk', (says_of_ofEntries hproper hk').unique hsays]

end Says

/-- The schema of configurations is checked exactly. -/
structure ChecksExactly (entries : Entries) : Prop where
  /-- There is a configuration just when every name is a setting and every value is what is wanted of it. -/
  accepts_iff : (∃ k, ofEntries entries = .ok k) ↔ ∀ entry ∈ entries, Fits entry
  /-- It has just the values that the document gives. -/
  isSaid : ∀ k, ofEntries entries = .ok k → k.Says entries
  /-- The order of the names makes no difference to it. -/
  anyOrder : ∀ entries', (Value.table .header entries).Reordered (.table .header entries') →
    ∀ k, ofEntries entries' = .ok k ↔ ofEntries entries = .ok k
  /-- No name is ignored: without it there is another configuration or none. -/
  everyName : ∀ entries', (Value.table .header entries).Loses (.table .header entries') →
    ∀ k, ofEntries entries = .ok k → ofEntries entries' ≠ .ok k
  /-- The problem is that of the first name that has one. -/
  firstProblem : ∀ e, ofEntries entries = .error e ↔ FirstProblem Fits Problem entries e

/-- The schema is checked exactly on every document that can have been read (`Document.parse?_proper`). -/
theorem ofEntries_checksExactly {entries : Entries} (hproper : Proper entries) : ChecksExactly entries where
  accepts_iff := (judged_ofEntries hproper).ok_iff
  isSaid k h := says_of_ofEntries hproper h
  anyOrder := by
    intro entries' hsame k
    obtain ⟨_, heq, hto⟩ := hsame.table
    cases heq
    obtain ⟨_, heq, hfrom⟩ := hsame.symm.table
    cases heq
    rw [ofEntries_eq_ok_iff hproper, ofEntries_eq_ok_iff (hsame.proper hproper)]
    constructor
    · rintro ⟨hfits, hsays⟩
      exact ⟨hto.forall (fun _ _ _ => Fits.reordered) hfits, hsays.reorders hto⟩
    · rintro ⟨hfits, hsays⟩
      exact ⟨hfrom.forall (fun _ _ _ => Fits.reordered) hfits, hsays.reorders hfrom⟩
  everyName := by
    intro entries' hloses k h h'
    have hfits := (judged_ofEntries hproper).ok_iff.1 ⟨k, h⟩
    have hsays := says_of_ofEntries hproper h
    have hsays' := says_of_ofEntries (hloses.proper hproper) h'
    cases hloses with
    | name => exact hsays.lost_name (hfits _ List.mem_append_cons_self) hproper.names hsays'
    | within hvalue => exact hsays.lost_within (hfits _ List.mem_append_cons_self) (hproper.values _ List.mem_append_cons_self) hvalue hsays'
  firstProblem := (judged_ofEntries hproper).error_iff

theorem ofEntries_checksExactly_delay :
    ∃ entries, parse? "port = 8080\n[server_ready]\ndelay = 250\n" = some entries ∧ ChecksExactly entries ∧
      ofEntries entries = .ok { Config.empty with port := some 8080, serverReady := some (.delay 250) } := by
  have hread : (parse? "port = 8080\n[server_ready]\ndelay = 250\n").map ofEntries =
      some (.ok { Config.empty with port := some 8080, serverReady := some (.delay 250) }) := by
    decide +kernel
  obtain ⟨entries, hparse, hconfig⟩ := Option.map_eq_some_iff.1 hread
  exact ⟨entries, hparse, ofEntries_checksExactly (parse?_proper hparse), hconfig⟩

end Config

end StagedLaunch
