import Mathlib.Data.List.Nodup
import StagedLaunch.Proofs.Text.Decimals
import StagedLaunch.Settings.CommandLine

/-!
# Writing command lines

A command line is written as arguments in any order (`CommandLine.Expresses`): the case as its name, a flag as one of its names, and
an option as one of its names with its value, after an equals sign or, if the value does not start with a hyphen, as a word of its
own. The arguments are read back as the command line that was written; one more argument that repeats another, gives another case or
is not known is refused (`CommandLine.parse_readsBack`).

While arguments are read, the settings so far are those that have been written (`CommandLine.Holds`), though the value of the latest
may still wait.
-/

namespace StagedLaunch.CommandLine

/-! ## How settings are written -/

/-- The setting of an argument, if it has one. -/
def setting? (c : CommandLine) : Key → Option Setting
  | .runCase => some (.case c.case)
  | .port => c.port.map .port
  | .config => c.config.map .text
  | .noConfig => if c.noConfig then some .given else none
  | .host => c.host.map .text
  | .buildDir => c.buildDir.map .text
  | .projectRoot => c.projectRoot.map .text
  | .logDir => c.logDir.map .text
  | .runSecs => c.runSecs.map .number
  | .settleMs => c.settleMs.map .number
  | .readyTimeoutMs => c.readyTimeoutMs.map .number
  | .noReadiness => if c.noReadiness then some .given else none
  | .skipBuild => if c.skipBuild then some .given else none
  | .interruptMs => c.interruptMs.map .number
  | .terminateMs => c.terminateMs.map .number
  | .dryRun => if c.dryRun then some .given else none
  | .logLevel => c.logLevel.map .level
  | .help | .version => none

/-- The text of a setting; a flag has none. -/
def Setting.written : Setting → String
  | .given => ""
  | .case c => c.name
  | .port n => toString n.toNat
  | .text s => s
  | .number n => toString n.toNat
  | .level l => l.name

/-- A name of an argument, with its hyphens. -/
inductive Names : Key → String → Prop where
  /-- Its long name. -/
  | long {name : String} {key : Key} (isLong : (name, key) ∈ longNames) : Names key ("--" ++ name)
  /-- Its short name. -/
  | short {c : Char} {key : Key} (isShort : (c, key) ∈ shortNames) : Names key ("-" ++ String.singleton c)

/-- The words for an argument with a text. -/
inductive Spells : Key → String → List String → Prop where
  /-- The case is the text alone. -/
  | runCase {text : String} : Spells .runCase text [text]
  /-- A flag is one of its names. -/
  | flag {key : Key} {option : String} (names : Names key option) (isFlag : key.takesValue = false) : Spells key "" [option]
  /-- The text stands after an equals sign. -/
  | attached {key : Key} {option text : String} (names : Names key option) (isOption : key.takesValue = true) :
      Spells key text [option ++ "=" ++ text]
  /-- The text is a word of its own, which does not start with a hyphen. -/
  | separate {key : Key} {option text : String} (names : Names key option) (isOption : key.takesValue = true)
      (noHyphen : text.toList.head? ≠ some '-') : Spells key text [option, text]

/-- The arguments for settings in their order. -/
inductive Spelled : List (Key × Setting) → List String → Prop where
  /-- There are none. -/
  | nil : Spelled [] []
  /-- The first of them and the others. -/
  | cons {key : Key} {v : Setting} {settings : List (Key × Setting)} {words args : List String}
      (first : Spells key v.written words) (rest : Spelled settings args) : Spelled ((key, v) :: settings) (words ++ args)

/-- The settings of a command line, in some order. -/
structure Lists (c : CommandLine) (settings : List (Key × Setting)) : Prop where
  /-- No argument has two. -/
  nodup : (settings.map Prod.fst).Nodup
  /-- They are those of the command line. -/
  mem_iff : ∀ key v, (key, v) ∈ settings ↔ c.setting? key = some v

/-- The settings of a command line are written as arguments, in some order. -/
def Expresses (c : CommandLine) (args : List String) : Prop := ∃ settings, Lists c settings ∧ Spelled settings args

/-- No path of the command line is empty. -/
def HasPaths (c : CommandLine) : Prop := ∀ path ∈ [c.config, c.buildDir, c.projectRoot, c.logDir], path ≠ some ""

instance (c : CommandLine) : Decidable c.HasPaths := inferInstanceAs (Decidable (∀ _ ∈ _, _))

/-- Arguments that cannot follow those of a command line. -/
inductive Surplus (c : CommandLine) : List String → Rejection → Prop where
  /-- An option or a flag again, with any text. -/
  | again {key : Key} {text : String} {words : List String} (isNamed : key ≠ .runCase) (isGiven : (c.setting? key).isSome = true)
      (spells : Spells key text words) : Surplus c words .repeated
  /-- A word. -/
  | word {text : String} (isWord : text.toList.head? ≠ some '-' ∨ text = "-") : Surplus c [text] .unknownArgument
  /-- Any word after two hyphens alone. -/
  | trailing {text : String} : Surplus c ["--", text] .unknownArgument
  /-- A long name that is not known, with a value after an equals sign or without one. -/
  | long {name value : String} (isUnknown : name ∉ longNames.map Prod.fst) (noEquals : '=' ∉ name.toList)
      (isEnd : value = "" ∧ name ≠ "" ∨ value.toList.head? = some '=') : Surplus c ["--" ++ name ++ value] .unknownArgument
  /-- A short name that is not known, whatever follows it. -/
  | short {letter : Char} {rest : String} (isUnknown : letter ∉ shortNames.map Prod.fst) (noHyphen : letter ≠ '-') :
      Surplus c ["-" ++ String.singleton letter ++ rest] .unknownArgument

/-! ## Reading values -/

theorem ofName?_name (k : RunCase) : RunCase.ofName? k.name false = some k := by
  cases k <;> decide

theorem level_ofName?_name (l : Level) : Level.ofName? l.name = some l := by
  cases l <;> decide

/-- The text of a setting is read as that setting. -/
theorem readValue_written {c : CommandLine} {key : Key} {v : Setting} (hpaths : c.HasPaths) (h : c.setting? key = some v)
    (htakes : key.takesValue = true) : readValue key v.written = .ok v := by
  have hnumber (n : UInt64) : readNatural 10 UInt64.size (toString n.toNat).toList = some n.toNat :=
    readNatural_toString n.toNat_lt
  have hport (n : UInt16) : readInteger 0 65535 (toString n.toNat).toList = some (n.toNat : Int) := by
    have hlt := n.toNat_lt
    exact readInteger_toString (by omega) (by omega)
  have hpath {s : String} (hmem : some s ∈ [c.config, c.buildDir, c.projectRoot, c.logDir]) : s.isEmpty = false := by
    rw [Bool.eq_false_iff]
    intro hempty
    exact hpaths _ hmem (by rw [String.isEmpty_iff.1 hempty])
  cases key with
  | noConfig | noReadiness | skipBuild | dryRun | help | version => cases htakes
  | runCase =>
    cases h
    simp [readValue, Setting.written, ofName?_name]
  | port =>
    obtain ⟨n, -, rfl⟩ := Option.map_eq_some_iff.1 h
    simp only [readValue, Setting.written, hport, Int.toNat_natCast, Nat.toUInt16_eq, UInt16.ofNat_toNat]
  | host =>
    obtain ⟨s, -, rfl⟩ := Option.map_eq_some_iff.1 h
    rfl
  | config | buildDir | projectRoot | logDir =>
    obtain ⟨s, hs, rfl⟩ := Option.map_eq_some_iff.1 h
    simp [readValue, Setting.written, hpath (s := s) (by simp [hs])]
  | runSecs | settleMs | readyTimeoutMs | interruptMs | terminateMs =>
    obtain ⟨n, -, rfl⟩ := Option.map_eq_some_iff.1 h
    simp only [readValue, Setting.written, hnumber, Nat.toUInt64_eq, UInt64.ofNat_toNat]
  | logLevel =>
    obtain ⟨l, -, rfl⟩ := Option.map_eq_some_iff.1 h
    simp [readValue, Setting.written, level_ofName?_name]

/-! ## Reading words -/

section Words

variable {p : Progress} {key : Key} {name text arg : String} {rest : List String} {body : List Char} {c : Char}

theorem take_long (harg : arg.toList = '-' :: '-' :: body) (hbody : body ≠ []) :
    take p false (arg :: rest) = takeLong p body >>= fun p => take p false rest := by
  rw [take, if_neg Bool.false_ne_true, harg]
  cases body with
  | nil => exact absurd rfl hbody
  | cons c body => rfl

theorem take_short (harg : arg.toList = '-' :: c :: body) (hc : c ≠ '-') :
    take p false (arg :: rest) = takeShort p (c :: body) >>= fun p => take p false rest := by
  rw [take, if_neg Bool.false_ne_true, harg]
  split
  · rename_i heq
    cases heq
    exact absurd rfl hc
  · rename_i heq
    cases heq
    exact absurd rfl hc
  · rename_i heq
    cases heq
  · rename_i heq
    cases heq
    rfl
  · rename_i hnone
    exact absurd rfl (hnone _)

theorem take_word (harg : arg.toList.head? ≠ some '-' ∨ arg = "-") :
    take p false (arg :: rest) = takeWord p arg >>= fun p => take p false rest := by
  rw [take, if_neg Bool.false_ne_true]
  rcases harg with harg | rfl
  · generalize hcs : arg.toList = cs at harg
    split
    · exact absurd rfl harg
    · exact absurd rfl harg
    · exact absurd rfl harg
    · exact absurd rfl harg
    · rfl
  · rfl

theorem take_trailing : take p false ["--", text] = takeWord.placeCase p text >>= fun p => settle p := by
  rfl

theorem lookup_longNames : ∀ entry ∈ longNames, longNames.lookup entry.1 = some entry.2 ∧ '=' ∉ entry.1.toList ∧ entry.1 ≠ "" := by
  decide

theorem lookup_shortNames : ∀ entry ∈ shortNames, shortNames.lookup entry.1 = some entry.2 ∧ entry.1 ≠ '-' := by
  decide

/-- What stands before an equals sign and what stands after it. -/
theorem takeWhile_equals {name : List Char} (h : '=' ∉ name) (text : List Char) :
    (name ++ '=' :: text).takeWhile (· != '=') = name ∧ (name ++ '=' :: text).dropWhile (· != '=') = '=' :: text := by
  have hname : ∀ c ∈ name, (c != '=') = true := fun c hc => by
    have hne : c ≠ '=' := fun heq => h (heq ▸ hc)
    simpa using hne
  constructor
  · rw [List.takeWhile_append_of_pos hname]
    simp
  · rw [List.dropWhile_append_of_pos hname]
    simp

theorem takeWhile_bare {name : List Char} (h : '=' ∉ name) : name.takeWhile (· != '=') = name := by
  have hname : ∀ c ∈ name, (c != '=') = true := fun c hc => by
    have hne : c ≠ '=' := fun heq => h (heq ▸ hc)
    simpa using hne
  rw [← List.append_nil name, List.takeWhile_append_of_pos hname]
  simp

theorem takeLong_attached (h : (name, key) ∈ longNames) (htakes : key.takesValue = true) :
    takeLong p (name.toList ++ '=' :: text.toList) = react p key [text] := by
  obtain ⟨hlookup, hequals, -⟩ := lookup_longNames _ h
  obtain ⟨hname, hvalue⟩ := takeWhile_equals hequals text.toList
  unfold takeLong
  dsimp only
  rw [hname, hvalue, String.ofList_toList, hlookup]
  simp [htakes]

theorem takeLong_bare (h : (name, key) ∈ longNames) :
    takeLong p name.toList =
      if key.takesValue then (settle p).map fun p => ⟨p.settings, some (key, [])⟩ else react p key [] := by
  obtain ⟨hlookup, hequals, -⟩ := lookup_longNames _ h
  unfold takeLong
  dsimp only
  rw [takeWhile_bare hequals, String.ofList_toList, hlookup]
  simp [hequals]

theorem takeShort_attached (h : (c, key) ∈ shortNames) (htakes : key.takesValue = true) :
    takeShort p (c :: '=' :: text.toList) = react p key [text] := by
  obtain ⟨hlookup, -⟩ := lookup_shortNames _ h
  rw [takeShort, hlookup]
  simp [htakes]

theorem takeShort_bare (h : (c, key) ∈ shortNames) :
    takeShort p [c] =
      if key.takesValue then (settle p).map fun p => ⟨p.settings, some (key, [])⟩ else react p key [] := by
  obtain ⟨hlookup, -⟩ := lookup_shortNames _ h
  rw [takeShort, hlookup]
  dsimp only
  split
  · rfl
  · simp only [takeShort]
    exact bind_pure _

end Words

/-! ## Reading arguments -/

section Arguments

variable {c : CommandLine} {p q : Progress} {key : Key} {v : Setting} {text : String} {words args : List String}
  {settings done : List (Key × Setting)}

theorem enter_option (htakes : key.takesValue = true) :
    enter p key [text] =
      if (p.settings.lookup key).isSome then .error .repeated
      else (readValue key text).map fun v => ⟨(key, v) :: p.settings, none⟩ := by
  cases key with
  | noConfig | noReadiness | skipBuild | dryRun | help | version => cases htakes
  | _ => rfl

theorem enter_flag (hflag : key.takesValue = false) (hrun : key ≠ .help ∧ key ≠ .version) :
    enter p key [] =
      if (p.settings.lookup key).isSome then .error .repeated else .ok ⟨(key, .given) :: p.settings, none⟩ := by
  cases key with
  | noConfig | noReadiness | skipBuild | dryRun => rfl
  | help => exact absurd rfl hrun.1
  | version => exact absurd rfl hrun.2
  | _ => cases hflag

/-- What the words for an option or a flag do when what waited before them is entered. -/
inductive Reading (p q : Progress) (key : Key) (text : String) (words : List String) : Prop where
  /-- A flag is entered. -/
  | flag (isFlag : key.takesValue = false)
      (reads : ∀ rest, take p false (words ++ rest) = enter q key [] >>= fun p => take p false rest)
  /-- An option is entered with its value. -/
  | attached (isOption : key.takesValue = true)
      (reads : ∀ rest, take p false (words ++ rest) = enter q key [text] >>= fun p => take p false rest)
  /-- An option waits with its value. -/
  | separate (isOption : key.takesValue = true)
      (reads : ∀ rest, take p false (words ++ rest) = take ⟨q.settings, some (key, [text])⟩ false rest)

/-- The case has no name. -/
theorem Names.ne_runCase {option : String} (h : Names key option) : key ≠ .runCase := by
  have hlong : ∀ entry ∈ longNames, entry.2 ≠ .runCase := by decide
  have hshort : ∀ entry ∈ shortNames, entry.2 ≠ .runCase := by decide
  cases h with
  | long isLong => exact hlong _ isLong
  | short isShort => exact hshort _ isShort

theorem Spells.eq_of_runCase (h : Spells .runCase text words) : words = [text] := by
  cases h with
  | runCase => rfl
  | flag names | attached names | separate names => exact absurd rfl names.ne_runCase

/-- An option that waits takes a word as its value. -/
theorem takeWord_waiting (htakes : key.takesValue = true) (hnamed : key ≠ .runCase) :
    takeWord ⟨settings, some (key, [])⟩ text = .ok ⟨settings, some (key, [text])⟩ := by
  simp [takeWord, htakes, hnamed]

theorem Spells.reading (h : Spells key text words) (hnamed : key ≠ .runCase) (hq : settle p = .ok q) :
    Reading p q key text words := by
  have hreact (words : List String) : react p key words = enter q key words := by
    rw [react, hq]
    rfl
  cases h with
  | runCase => exact absurd rfl hnamed
  | flag names isFlag =>
    refine .flag isFlag fun rest => ?_
    cases names with
    | @long name _ isLong =>
      have harg : ("--" ++ name).toList = '-' :: '-' :: name.toList := by simp
      have hbody : name.toList ≠ [] := by simpa using (lookup_longNames _ isLong).2.2
      rw [List.singleton_append, take_long harg hbody, takeLong_bare isLong, isFlag, if_neg Bool.false_ne_true, hreact]
    | @short letter _ isShort =>
      have harg : ("-" ++ String.singleton letter).toList = '-' :: [letter] := by simp
      rw [List.singleton_append, take_short harg (lookup_shortNames _ isShort).2, takeShort_bare isShort, isFlag,
        if_neg Bool.false_ne_true, hreact]
  | @attached _ option _ names isOption =>
    refine .attached isOption fun rest => ?_
    cases names with
    | @long name _ isLong =>
      have harg : ("--" ++ name ++ "=" ++ text).toList = '-' :: '-' :: (name.toList ++ '=' :: text.toList) := by simp
      rw [List.singleton_append, take_long harg (by simp), takeLong_attached isLong isOption, hreact]
    | @short letter _ isShort =>
      have harg : ("-" ++ String.singleton letter ++ "=" ++ text).toList = '-' :: letter :: '=' :: text.toList := by simp
      rw [List.singleton_append, take_short harg (lookup_shortNames _ isShort).2, takeShort_attached isShort isOption, hreact]
  | separate names isOption noHyphen =>
    refine .separate isOption fun rest => ?_
    have hword : takeWord ⟨q.settings, some (key, [])⟩ text = .ok ⟨q.settings, some (key, [text])⟩ :=
      takeWord_waiting isOption hnamed
    cases names with
    | @long name _ isLong =>
      have harg : ("--" ++ name).toList = '-' :: '-' :: name.toList := by simp
      have hbody : name.toList ≠ [] := by simpa using (lookup_longNames _ isLong).2.2
      rw [List.cons_append, List.singleton_append, take_long harg hbody, takeLong_bare isLong, isOption, if_pos rfl, hq]
      exact (take_word (.inl noHyphen)).trans (by rw [hword]; rfl)
    | @short letter _ isShort =>
      have harg : ("-" ++ String.singleton letter).toList = '-' :: [letter] := by simp
      rw [List.cons_append, List.singleton_append, take_short harg (lookup_shortNames _ isShort).2, takeShort_bare isShort,
        isOption, if_pos rfl, hq]
      exact (take_word (.inl noHyphen)).trans (by rw [hword]; rfl)

/-- The settings that have been read, the latest first; the value of the latest may still wait. -/
structure Holds (p : Progress) (done : List (Key × Setting)) : Prop where
  /-- When what waits is entered, these are the settings. -/
  settled : settle p = .ok ⟨done, none⟩
  /-- What waits has a value. -/
  waiting : ∀ key words, p.pending = some (key, words) → words ≠ []
  /-- The case has been read or waits just when it is among the settings. -/
  case_eq : ((p.settings.lookup .runCase).isSome || p.pending.map (·.1) == some .runCase) = (done.lookup .runCase).isSome

theorem holds_settled (done : List (Key × Setting)) : Holds ⟨done, none⟩ done where
  settled := rfl
  waiting := by
    intro key words h
    cases h
  case_eq := by
    rw [Option.map_none]
    exact Bool.or_false _

/-- A value that waits counts as read if it can be. -/
theorem holds_waiting (htakes : key.takesValue = true) (hnew : done.lookup key = none) (hread : readValue key text = .ok v) :
    Holds ⟨done, some (key, [text])⟩ ((key, v) :: done) where
  settled := by
    rw [settle]
    dsimp only
    rw [enter_option htakes, hnew, if_neg (by simp), hread]
    rfl
  waiting := by
    intro key' words h
    cases h
    simp
  case_eq := by
    rw [List.lookup_cons]
    by_cases hkey : key = .runCase
    · subst hkey
      simp
    · have hne : (Key.runCase == key) = false := by simpa using Ne.symm hkey
      simp [hne, hkey]

theorem Holds.placeCase_eq (h : Holds p done) (word : String) :
    takeWord.placeCase p word =
      if (done.lookup .runCase).isSome then .error .unknownArgument else .ok ⟨done, some (.runCase, [word])⟩ := by
  rw [takeWord.placeCase, h.case_eq, h.settled]
  rfl

/-- No option waits for a word, so a word can only be the case. -/
theorem Holds.takeWord_eq (h : Holds p done) (word : String) : takeWord p word = takeWord.placeCase p word := by
  unfold takeWord
  split
  · rename_i key hpending
    exact absurd rfl (h.waiting key [] hpending)
  · rfl

/-- A flag of a command line is given, and asks for a run. -/
theorem given_of_flag (hsetting : c.setting? key = some v) (hflag : key.takesValue = false) :
    v = .given ∧ key ≠ .help ∧ key ≠ .version := by
  cases key with
  | noConfig | noReadiness | skipBuild | dryRun =>
    simp only [setting?] at hsetting
    split at hsetting
    · cases hsetting
      exact ⟨rfl, by decide, by decide⟩
    · cases hsetting
  | help | version => cases hsetting
  | _ => cases hflag

/-- One setting is read. -/
theorem Holds.step (h : Holds p done) (hpaths : c.HasPaths) (hspells : Spells key v.written words)
    (hsetting : c.setting? key = some v) (hnew : done.lookup key = none) :
    ∃ p', Holds p' ((key, v) :: done) ∧ ∀ rest, take p false (words ++ rest) = take p' false rest := by
  by_cases hnamed : key = .runCase
  · subst hnamed
    have hread := readValue_written hpaths hsetting rfl
    refine ⟨⟨done, some (.runCase, [v.written])⟩, holds_waiting rfl hnew hread, fun rest => ?_⟩
    have hword : v.written.toList.head? ≠ some '-' := by
      cases hsetting
      cases c.case <;> decide
    rw [hspells.eq_of_runCase, List.singleton_append, take_word (.inl hword), h.takeWord_eq, h.placeCase_eq, hnew]
    rfl
  · cases hspells.reading hnamed h.settled with
    | flag isFlag reads =>
      obtain ⟨hgiven, hrun⟩ := given_of_flag hsetting isFlag
      subst hgiven
      refine ⟨_, holds_settled _, fun rest => ?_⟩
      rw [reads, enter_flag isFlag hrun, hnew]
      rfl
    | attached isOption reads =>
      refine ⟨_, holds_settled _, fun rest => ?_⟩
      rw [reads, enter_option isOption, hnew, readValue_written hpaths hsetting isOption]
      rfl
    | separate isOption reads =>
      exact ⟨_, holds_waiting isOption hnew (readValue_written hpaths hsetting isOption), reads⟩

/-- All settings are read, in the order in which they are written. The induction is on the settings, and what holds of the progress
is that it stands for those read so far. -/
theorem Holds.run (h : Holds p done) (hpaths : c.HasPaths) (hspelled : Spelled settings args)
    (hsettings : ∀ key v, (key, v) ∈ settings → c.setting? key = some v) (hnodup : (settings.map Prod.fst).Nodup)
    (hnew : ∀ key ∈ settings.map Prod.fst, done.lookup key = none) :
    ∃ p', Holds p' (settings.reverse ++ done) ∧ ∀ rest, take p false (args ++ rest) = take p' false rest := by
  induction hspelled generalizing p done with
  | nil => exact ⟨p, h, fun rest => rfl⟩
  | @cons key v settings words args first rest ih =>
    rw [List.map_cons, List.nodup_cons] at hnodup
    rw [List.map_cons, List.forall_mem_cons] at hnew
    obtain ⟨p₁, h₁, htake₁⟩ := h.step hpaths first (hsettings key v (List.mem_cons_self ..)) hnew.1
    have hnew' : ∀ other ∈ settings.map Prod.fst, ((key, v) :: done).lookup other = none := by
      intro other hother
      have hne : (other == key) = false := by
        rw [beq_eq_false_iff_ne]
        rintro rfl
        exact hnodup.1 hother
      rw [List.lookup_cons, hne]
      exact hnew.2 other hother
    obtain ⟨p₂, h₂, htake₂⟩ := ih h₁ (fun other w hw => hsettings other w (List.mem_cons_of_mem _ hw)) hnodup.2 hnew'
    refine ⟨p₂, ?_, fun more => ?_⟩
    · rw [List.reverse_cons, List.append_assoc, List.singleton_append]
      exact h₂
    · rw [List.append_assoc, htake₁, htake₂]

end Arguments

/-! ## Reading command lines -/

section ReadsBack

variable {c : CommandLine} {settings : List (Key × Setting)} {args : List String}

/-- However they are ordered, the settings give each argument its own. -/
theorem Lists.lookup_eq (h : Lists c settings) (key : Key) : settings.reverse.lookup key = c.setting? key := by
  cases hsetting : c.setting? key with
  | none =>
    refine List.lookup_eq_none_iff.2 fun entry hentry => ?_
    obtain ⟨other, v⟩ := entry
    have hother := (h.mem_iff other v).1 (List.mem_reverse.1 hentry)
    rw [bne_iff_ne]
    rintro rfl
    rw [hsetting] at hother
    cases hother
  | some v =>
    have hmem := List.mem_reverse.2 ((h.mem_iff key v).2 hsetting)
    obtain ⟨before, after, heq⟩ := List.append_of_mem hmem
    refine List.lookup_eq_some_iff.2 ⟨before, after, heq, fun entry hentry => ?_⟩
    have hnodup : (settings.reverse.map Prod.fst).Nodup := by
      rw [List.map_reverse]
      exact List.nodup_reverse.2 h.nodup
    rw [heq, List.map_append, List.map_cons, List.nodup_append] at hnodup
    rw [bne_iff_ne]
    exact (hnodup.2.2 entry.1 (List.mem_map_of_mem hentry) key (List.mem_cons_self ..)).symm

theorem text?_eq {settings : List (Key × Setting)} {key : Key} {text : Option String}
    (h : settings.lookup key = text.map .text) : text? settings key = text := by
  rw [text?, h]
  cases text <;> rfl

theorem number?_eq {settings : List (Key × Setting)} {key : Key} {number : Option UInt64}
    (h : settings.lookup key = number.map .number) : number? settings key = number := by
  rw [number?, h]
  cases number <;> rfl

theorem flag_eq {settings : List (Key × Setting)} {key : Key} {flag : Bool}
    (h : settings.lookup key = if flag then some .given else none) : (settings.lookup key).isSome = flag := by
  rw [h]
  cases flag <;> rfl

/-- The settings of a command line give that command line. -/
theorem ofSettings_eq (h : ∀ key, settings.lookup key = c.setting? key) : ofSettings settings = .ok c := by
  have hport : settings.lookup .port = c.port.map .port := h .port
  have hlevel : settings.lookup .logLevel = c.logLevel.map .level := h .logLevel
  obtain ⟨case, port, config, noConfig, host, buildDir, projectRoot, logDir, runSecs, settleMs, readyTimeoutMs, noReadiness,
    skipBuild, interruptMs, terminateMs, dryRun, logLevel⟩ := c
  rw [ofSettings, h .runCase, hport, hlevel]
  simp only [setting?, text?_eq (h .config), flag_eq (h .noConfig), text?_eq (h .host), text?_eq (h .buildDir),
    text?_eq (h .projectRoot), text?_eq (h .logDir), number?_eq (h .runSecs), number?_eq (h .settleMs),
    number?_eq (h .readyTimeoutMs), flag_eq (h .noReadiness), flag_eq (h .skipBuild), number?_eq (h .interruptMs),
    number?_eq (h .terminateMs), flag_eq (h .dryRun), Except.ok.injEq, mk.injEq, true_and]
  constructor
  · cases port <;> rfl
  · cases logLevel <;> rfl

/-- When all settings of a command line have been read, what follows is read after them. -/
theorem Expresses.take_eq (hpaths : c.HasPaths) (h : Expresses c args) :
    ∃ p done, Holds p done ∧ (∀ key, done.lookup key = c.setting? key) ∧
      ∀ rest, take ⟨[], none⟩ false (args ++ rest) = take p false rest := by
  obtain ⟨settings, hlists, hspelled⟩ := h
  obtain ⟨p, hholds, htake⟩ := (holds_settled []).run hpaths hspelled (fun key v => (hlists.mem_iff key v).1) hlists.nodup
    fun key _ => rfl
  rw [List.append_nil] at hholds
  exact ⟨p, settings.reverse, hholds, hlists.lookup_eq, htake⟩

theorem takeLong_unknown {p : Progress} {name value : String} (h : name ∉ longNames.map Prod.fst) (hequals : '=' ∉ name.toList)
    (hend : value = "" ∨ value.toList.head? = some '=') : takeLong p (name.toList ++ value.toList) = .error .unknownArgument := by
  have hname : (name.toList ++ value.toList).takeWhile (· != '=') = name.toList := by
    rcases hend with rfl | hvalue
    · rw [String.toList_empty, List.append_nil, takeWhile_bare hequals]
    · obtain ⟨rest, hrest⟩ := List.head?_eq_some_iff.1 hvalue
      rw [hrest, (takeWhile_equals hequals rest).1]
  have hlookup : longNames.lookup name = none := by
    refine List.lookup_eq_none_iff.2 fun entry hentry => ?_
    rw [bne_iff_ne]
    rintro rfl
    exact h (List.mem_map_of_mem hentry)
  unfold takeLong
  dsimp only
  rw [hname, String.ofList_toList, hlookup]

theorem takeShort_unknown {p : Progress} {letter : Char} {rest : List Char} (h : letter ∉ shortNames.map Prod.fst) :
    takeShort p (letter :: rest) = .error .unknownArgument := by
  have hlookup : shortNames.lookup letter = none := by
    refine List.lookup_eq_none_iff.2 fun entry hentry => ?_
    rw [bne_iff_ne]
    rintro rfl
    exact h (List.mem_map_of_mem hentry)
  rw [takeShort, hlookup]

/-- Arguments that cannot follow are refused. -/
theorem Surplus.take_eq {extra : List String} {e : Rejection} {p : Progress} {done : List (Key × Setting)}
    (h : Surplus c extra e) (hholds : Holds p done) (hdone : ∀ key, done.lookup key = c.setting? key) :
    take p false extra = .error e := by
  have hcase : (done.lookup .runCase).isSome = true := by rw [hdone]; rfl
  cases h with
  | @again key text _ isNamed isGiven spells =>
    have hgiven : (done.lookup key).isSome = true := by rw [hdone, isGiven]
    obtain ⟨v, hv⟩ := Option.isSome_iff_exists.1 isGiven
    rw [← List.append_nil extra]
    cases spells.reading isNamed hholds.settled with
    | flag isFlag reads =>
      rw [reads, enter_flag isFlag (given_of_flag hv isFlag).2, if_pos hgiven]
      rfl
    | attached isOption reads =>
      rw [reads, enter_option isOption, if_pos hgiven]
      rfl
    | separate isOption reads =>
      have hsettle : settle ⟨done, some (key, [text])⟩ = enter ⟨done, none⟩ key [text] := rfl
      rw [reads, take, hsettle, enter_option isOption, if_pos hgiven]
  | word isWord =>
    rw [take_word isWord, hholds.takeWord_eq, hholds.placeCase_eq, if_pos hcase]
    rfl
  | trailing =>
    rw [take_trailing, hholds.placeCase_eq, if_pos hcase]
    rfl
  | @long name value isUnknown noEquals isEnd =>
    have harg : ("--" ++ name ++ value).toList = '-' :: '-' :: (name.toList ++ value.toList) := by simp
    have hbody : name.toList ++ value.toList ≠ [] := by
      rcases isEnd with ⟨-, hname⟩ | hvalue
      · simp [hname]
      · intro hnil
        rw [(List.append_eq_nil_iff.1 hnil).2] at hvalue
        cases hvalue
    rw [take_long harg hbody, takeLong_unknown isUnknown noEquals (isEnd.imp_left And.left)]
    rfl
  | @short letter rest isUnknown noHyphen =>
    have harg : ("-" ++ String.singleton letter ++ rest).toList = '-' :: letter :: rest.toList := by simp
    rw [take_short harg noHyphen, takeShort_unknown isUnknown]
    rfl

/-! ### Every command line can be written -/

/-- All arguments. -/
def Key.all : List Key :=
  [.runCase, .port, .config, .noConfig, .host, .buildDir, .projectRoot, .logDir, .runSecs, .settleMs, .readyTimeoutMs, .noReadiness,
   .skipBuild, .interruptMs, .terminateMs, .dryRun, .logLevel, .help, .version]

theorem Key.mem_all (key : Key) : key ∈ Key.all := by
  cases key <;> decide

theorem exists_lists (c : CommandLine) : ∃ settings, Lists c settings := by
  refine ⟨Key.all.filterMap fun key => (c.setting? key).map fun v => (key, v), ?_, fun key v => ?_⟩
  · have hnames : (Key.all.filterMap fun key => (c.setting? key).map fun v => (key, v)).map Prod.fst =
        Key.all.filter fun key => (c.setting? key).isSome := by
      rw [List.map_filterMap, ← List.filterMap_eq_filter]
      refine List.filterMap_congr fun key _ => ?_
      cases hsetting : c.setting? key <;> simp [Option.guard, hsetting]
    rw [hnames]
    exact List.Nodup.filter _ (by decide)
  · rw [List.mem_filterMap]
    constructor
    · rintro ⟨other, -, heq⟩
      obtain ⟨w, hw, heq⟩ := Option.map_eq_some_iff.1 heq
      cases heq
      exact hw
    · intro h
      exact ⟨key, key.mem_all, by rw [h]; rfl⟩

/-- Every argument but the case has a name. -/
theorem exists_names {key : Key} (h : key ≠ .runCase) : ∃ option, Names key option := by
  have hlong : ∀ key ∈ Key.all, key ≠ .runCase → key ∈ longNames.map Prod.snd := by decide
  obtain ⟨⟨name, _⟩, hname, rfl⟩ := List.mem_map.1 (hlong key key.mem_all h)
  exact ⟨_, .long hname⟩

/-- In any order the settings of a command line can be written. -/
theorem exists_spelled (h : ∀ key v, (key, v) ∈ settings → c.setting? key = some v) : ∃ args, Spelled settings args := by
  induction settings with
  | nil => exact ⟨[], .nil⟩
  | cons entry settings ih =>
    obtain ⟨key, v⟩ := entry
    obtain ⟨args, hargs⟩ := ih fun other w hw => h other w (List.mem_cons_of_mem _ hw)
    have hsetting := h key v (List.mem_cons_self ..)
    by_cases hnamed : key = .runCase
    · subst hnamed
      exact ⟨_, .cons .runCase hargs⟩
    · obtain ⟨option, hoption⟩ := exists_names hnamed
      by_cases htakes : key.takesValue = true
      · exact ⟨_, .cons (.attached hoption htakes) hargs⟩
      · rw [Bool.not_eq_true] at htakes
        obtain ⟨rfl, -⟩ := given_of_flag hsetting htakes
        exact ⟨_, .cons (.flag hoption htakes) hargs⟩

end ReadsBack

/-- A command line is read back from its arguments. -/
structure ReadsBack (c : CommandLine) : Prop where
  /-- It can be written in any order of its settings. -/
  expressible : (∃ settings, Lists c settings) ∧ ∀ settings, Lists c settings → ∃ args, Spelled settings args
  /-- However it is written, it is read back. -/
  reads : ∀ args, Expresses c args → parse args = .ok c
  /-- A repetition, another case and an argument that is not known are refused after it. -/
  refuses : ∀ args extra e, Expresses c args → Surplus c extra e → parse (args ++ extra) = .error e

/-- Every command line without empty paths is read back from its arguments, in any order and spelling. -/
theorem parse_readsBack {c : CommandLine} (hpaths : c.HasPaths) : ReadsBack c where
  expressible := ⟨exists_lists c, fun settings h => exists_spelled fun key v => (h.mem_iff key v).1⟩
  reads := by
    intro args h
    obtain ⟨p, done, hholds, hdone, htake⟩ := h.take_eq hpaths
    have hall := htake []
    rw [List.append_nil, take, hholds.settled] at hall
    rw [parse, hall]
    exact ofSettings_eq hdone
  refuses := by
    intro args extra e h hsurplus
    obtain ⟨p, done, hholds, hdone, htake⟩ := h.take_eq hpaths
    rw [parse, htake, hsurplus.take_eq hholds hdone]
    rfl

theorem parse_readsBack_hyphen :
    ∃ c : CommandLine, c.HasPaths ∧ ReadsBack c ∧ parse ["--host=-x", "8", "-p", "8080", "--no-config"] = .ok c := by
  refine ⟨⟨.eight, some 8080, none, true, some "-x", none, none, none, none, none, none, false, false, none, none, false, none⟩,
    by decide, parse_readsBack (by decide), by decide +kernel⟩

end StagedLaunch.CommandLine
