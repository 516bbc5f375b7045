import StagedLaunch.Proofs.Machine.Directories

/-!
# What opening output files changes

The two output files of a process are in one directory. They are opened just when that directory can be made and neither of them
is one of the directories that are made, or a directory that was there, or locked, or named by a path that the system does not
take. Then the directories on the way are there, both files are empty, and nothing else is different. Otherwise the directory is
named, or the first file that cannot be opened; what is different then are directories on the way and, if it was opened, the file
for the standard output (`OutputFiles.ofName_opensExactly`).
-/

namespace StagedLaunch

open FileTree

/-! ## Opening one file -/

namespace FileTree

variable {t t' t'' : FileTree} {path parent name : String} {p : Place} {places opened : List Place}

/-- A file in a directory can be written once the directory is there. -/
structure CanWrite (t : FileTree) (parent path : String) : Prop where
  /-- The system takes the path. -/
  usable : Path.Usable path
  /-- The name is not too long. -/
  short : ∀ name ∈ (Path.place t.cwd path).getLast?, isLong name = false
  /-- It is not one of the directories on the way. -/
  apart : Path.place t.cwd path ∉ Path.way t.cwd parent
  /-- It is no directory. -/
  free : t.at? (Path.place t.cwd path) ≠ some .directory
  /-- It can be written to or, where nothing is, the directory around it takes new names. -/
  allowed : t.isLocked (Path.place t.cwd path) = false

/-- Directories were put where nothing stood at some places, files were opened at others, and nothing else is different. -/
structure Becomes (t t' : FileTree) (places opened : List Place) : Prop where
  /-- The working directory is the same. -/
  cwd_eq : t'.cwd = t.cwd
  /-- The same places are locked. -/
  locked_eq : t'.locked = t.locked
  /-- What stands where. -/
  at?_eq : ∀ p, t'.at? p =
    if p ∈ opened then some (FileNode.opened (t.at? p))
    else if p ∈ places ∧ t.at? p = none then some .directory
    else t.at? p

theorem PutsDirectories.becomes (h : PutsDirectories places t t') : t.Becomes t' places [] where
  cwd_eq := h.cwd_eq
  locked_eq := h.locked_eq
  at?_eq p := by
    rw [h.at?_eq, if_neg List.not_mem_nil]

/-- One more file is opened, apart from the others and from the directories. -/
theorem Becomes.open (h : t.Becomes t' places opened) (hp : p ≠ []) (hopened : p ∉ opened) (hplaces : p ∉ places) :
    t.Becomes (t'.set p (FileNode.opened (t'.at? p))) places (opened ++ [p]) where
  cwd_eq := (cwd_set ..).trans h.cwd_eq
  locked_eq := (locked_set ..).trans h.locked_eq
  at?_eq q := by
    rw [at?_set t' _ hp]
    by_cases hq : q = p
    · subst hq
      rw [if_pos rfl, h.at?_eq, if_neg hopened, if_neg fun hput => hplaces hput.1, if_pos (by simp)]
    · rw [if_neg hq, h.at?_eq]
      simp only [List.mem_append, List.mem_singleton, hq, or_false]

/-- A place that is neither on the way nor opened is as it was. -/
theorem Becomes.elsewhere (h : t.Becomes t' places opened) (hplaces : p ∉ places) (hopened : p ∉ opened) :
    t'.at? p = t.at? p := by
  rw [h.at?_eq, if_neg hopened, if_neg fun hput => hplaces hput.1]

theorem Becomes.isLocked_eq (h : t.Becomes t' places opened) (hplaces : p ∉ places) (hopened : p ∉ opened) :
    t'.isLocked p = t.isLocked p := by
  rw [isLocked, isLocked, h.elsewhere hplaces hopened, h.locked_eq]

theorem Becomes.keptAt (h : t.Becomes t' places opened) (hopened : p ∉ opened) : KeptAt p t t' := by
  unfold KeptAt
  rw [h.at?_eq, if_neg hopened]
  by_cases hput : p ∈ places ∧ t.at? p = none
  · exact .inr ⟨hput.2, if_pos hput⟩
  · exact .inl (if_neg hput)

/-- A directory on the way is there, unless a file was opened in its place. -/
theorem Becomes.directory (h : t.Becomes t' places opened) (hp : p ∈ places) (hopened : p ∉ opened) (hcan : t.CanHold p) :
    t'.at? p = some .directory := by
  rw [h.at?_eq, if_neg hopened]
  rcases hcan.free with hnone | hdirectory
  · rw [if_pos ⟨hp, hnone⟩]
  · rw [if_neg (by simp [hdirectory]), hdirectory]

/-- When a directory can be made, and its way is there, the files in it are reached. -/
theorem Becomes.target_eq (h : t.Becomes t' (Path.way t.cwd parent) opened) (hcan : t.CanMake parent)
    (hopened : ∀ p ∈ Path.way t.cwd parent, p ∉ opened) (hin : Path.IsIn path parent name) (husable : Path.Usable path) :
    t'.target path =
      if isLong name then .error .nameTooLong else .ok (.entry (Path.place t.cwd parent) name false) := by
  have hstart : Path.start t'.cwd path = Path.start t.cwd path := by rw [h.cwd_eq]
  have hreach : t'.reach (Path.start t'.cwd path) (Path.moves parent) = .ok (Path.place t.cwd parent) := by
    refine reach_eq_ok_iff.2 ⟨?_, fun p hp => ?_⟩
    · rw [hstart, hin.isParent.place_eq hin.moves_eq]
    · rw [hstart, ← hin.isParent.way_eq_passed hin.moves_eq] at hp
      have hdirectory := h.directory hp (hopened p hp) (hcan.canHold p hp)
      exact ⟨hdirectory, canHold_of_directory hdirectory (hcan.canHold p hp).short⟩
  rw [target_of_move husable hin.endsInMove hin.moves_eq, hreach]
  dsimp only
  rw [if_neg (by simpa using hin.name_ne)]

/-- What comes of opening a file in a directory that is there. -/
inductive OpensFile (t t' : FileTree) (path parent : String) (opened : List Place) : Except OsError (Place × FileTree) → Prop where
  /-- It is opened. -/
  | opened {t'' : FileTree} (can : t.CanWrite parent path)
      (becomes : t.Becomes t'' (Path.way t.cwd parent) (opened ++ [Path.place t.cwd path])) :
      OpensFile t t' path parent opened (.ok (Path.place t.cwd path, t''))
  /-- It cannot be opened. -/
  | refused {e : OsError} (cannot : ¬t.CanWrite parent path) : OpensFile t t' path parent opened (.error e)

theorem Becomes.opensFile (h : t.Becomes t' (Path.way t.cwd parent) opened) (hcan : t.CanMake parent)
    (hopened : ∀ p ∈ Path.way t.cwd parent, p ∉ opened) (hin : Path.IsIn path parent name)
    (hnew : Path.place t.cwd path ∉ opened) : OpensFile t t' path parent opened (t'.create path) := by
  by_cases husable : Path.Usable path
  · have htarget := h.target_eq hcan hopened hin husable
    have hplace := hin.place_eq t.cwd
    by_cases hlong : isLong name = true
    · rw [if_pos hlong] at htarget
      rw [create, htarget]
      refine .refused fun hwrite => ?_
      have hshort := hwrite.short name (by simp [hplace])
      rw [hlong] at hshort
      cases hshort
    · rw [if_neg hlong] at htarget
      rw [create, htarget]
      dsimp only
      rw [← hplace]
      by_cases hway : Path.place t.cwd path ∈ Path.way t.cwd parent
      · -- the file would have to stand where a directory was made
        rw [h.directory hway (hopened _ hway) (hcan.canHold _ hway)]
        exact .refused fun hwrite => hwrite.apart hway
      · have hat := h.elsewhere hway hnew
        have hlocked := h.isLocked_eq hway hnew
        by_cases hdirectory : t.at? (Path.place t.cwd path) = some .directory
        · rw [hat, hdirectory]
          exact .refused fun hwrite => hwrite.free hdirectory
        · rw [if_neg (by simpa [hat] using hdirectory), hlocked]
          by_cases hallowed : t.isLocked (Path.place t.cwd path) = false
          · rw [hallowed, if_neg Bool.false_ne_true]
            have hshort : ∀ name' ∈ (Path.place t.cwd path).getLast?, isLong name' = false := by
              rw [hplace]
              simpa using hlong
            exact .opened ⟨husable, hshort, hway, hdirectory, hallowed⟩ (h.open (by rw [hplace]; simp) hnew hway)
          · rw [if_pos (by simpa using hallowed)]
            exact .refused fun hwrite => hallowed hwrite.allowed
  · have hsome : Path.moves path = Path.moves parent ++ [name] := hin.moves_eq
    obtain ⟨e, htarget, -⟩ := target_of_unusable (t := t') (Path.ne_empty_of_moves hsome) husable
    rw [create, htarget]
    exact .refused fun hwrite => husable hwrite.usable

/-- A file that was opened holds nothing. -/
theorem Becomes.read_eq (h : t.Becomes t' (Path.way t.cwd parent) opened) (hcan : t.CanMake parent)
    (hopened : ∀ p ∈ Path.way t.cwd parent, p ∉ opened) (hin : Path.IsIn path parent name)
    (hwrite : t.CanWrite parent path) (hmem : Path.place t.cwd path ∈ opened) : t'.read path = .ok [] := by
  have hplace := hin.place_eq t.cwd
  have hshort : isLong name = false := hwrite.short name (by simp [hplace])
  have htarget := h.target_eq hcan hopened hin hwrite.usable
  rw [if_neg (by simp [hshort])] at htarget
  have hat : t'.at? (Path.place t.cwd path) = some (FileNode.opened (t.at? (Path.place t.cwd path))) := by
    rw [h.at?_eq, if_pos hmem]
  have hfree := hwrite.free
  rw [read, find, htarget]
  dsimp only
  rw [← hplace, hat]
  rcases hnode : t.at? (Path.place t.cwd path) with _ | _ | ⟨bytes, executable⟩ | _ | _
  · rfl
  · exact absurd hnode hfree
  · rfl
  · rfl
  · rfl

end FileTree

/-! ## Opening both -/

/-- What comes of making the directories above a file. -/
theorem makeParent_makesWay (t : FileTree) {path parent name : String} (hin : Path.IsIn path parent name) :
    (∃ t', t.CanMake parent ∧ makeParent t path = (.ok (), t') ∧ PutsDirectories (Path.way t.cwd parent) t t') ∨
      ∃ e t', ¬t.CanMake parent ∧ makeParent t path = (.error (.outputFile parent e), t') ∧
        PutsSome (Path.way t.cwd parent) t t' := by
  have hmakes := makeDirectories_makesWay t hin.isParent.endsInMove
  unfold makeParent
  rw [hin.parent?_eq]
  dsimp only
  by_cases hparent : parent = ""
  · -- the empty path has no directories to make
    subst hparent
    have hway : Path.way t.cwd "" = [] := rfl
    exact .inl ⟨t, ⟨by decide, by simp [hway]⟩, rfl, .refl (by simp [hway])⟩
  · rw [if_neg (by simpa using hparent)]
    rcases hresult : t.makeDirectories parent with ⟨e | u, t'⟩
    · rw [hresult] at hmakes
      cases hmakes with
      | refused cannot puts => exact .inr ⟨e, t', cannot, rfl, puts⟩
    · rw [hresult] at hmakes
      cases hmakes with
      | made can puts => exact .inl ⟨t', can, rfl, puts⟩

theorem openOutput_of_unmade {t t' : FileTree} {path : String} {e : LaunchError} (h : makeParent t path = (.error e, t')) :
    openOutput t path = (.error e, t') := by
  rw [openOutput, h]

theorem openOutput_of_created {t t' t'' : FileTree} {path : String} {p : Place} (h : makeParent t path = (.ok (), t'))
    (hcreate : t'.create path = .ok (p, t'')) : openOutput t path = (.ok p, t'') := by
  rw [openOutput, h]
  dsimp only
  rw [hcreate]

theorem openOutput_of_uncreated {t t' : FileTree} {path : String} {e : OsError} (h : makeParent t path = (.ok (), t'))
    (hcreate : t'.create path = .error e) : openOutput t path = (.error (.outputFile path e), t') := by
  rw [openOutput, h]
  dsimp only
  rw [hcreate]

section There

variable {t t' t'' : FileTree} {path parent name : String} {opened : List Place}

/-- Directories that are there are not made again. -/
theorem FileTree.Becomes.makeParent (h : t.Becomes t' (Path.way t.cwd parent) opened) (hcan : t.CanMake parent)
    (hopened : ∀ p ∈ Path.way t.cwd parent, p ∉ opened) (hin : Path.IsIn path parent name) :
    ∃ t'', makeParent t' path = (.ok (), t'') ∧ t.Becomes t'' (Path.way t.cwd parent) opened := by
  have hdirectory (p : Place) (hp : p ∈ Path.way t.cwd parent) : t'.at? p = some .directory :=
    h.directory hp (hopened p hp) (hcan.canHold p hp)
  rcases makeParent_makesWay t' hin with ⟨t'', -, hmake, hputs⟩ | ⟨e, t'', hcannot, -, -⟩
  · rw [h.cwd_eq] at hputs
    refine ⟨t'', hmake, hputs.cwd_eq.trans h.cwd_eq, hputs.locked_eq.trans h.locked_eq, fun p => ?_⟩
    rw [hputs.at?_eq, if_neg, h.at?_eq]
    rintro ⟨hp, hnone⟩
    rw [hdirectory p hp] at hnone
    cases hnone
  · refine absurd ⟨hcan.usable, fun p hp => ?_⟩ hcannot
    rw [h.cwd_eq] at hp
    exact canHold_of_directory (hdirectory p hp) (hcan.canHold p hp).short

/-- What comes of opening a file when the directories above are there. -/
theorem FileTree.Becomes.openOutput (h : t.Becomes t'' (Path.way t.cwd parent) opened)
    (hmake : StagedLaunch.makeParent t' path = (.ok (), t'')) (hcan : t.CanMake parent)
    (hopened : ∀ p ∈ Path.way t.cwd parent, p ∉ opened) (hin : Path.IsIn path parent name)
    (hnew : Path.place t.cwd path ∉ opened) :
    (∃ t₃, t.CanWrite parent path ∧ openOutput t' path = (.ok (Path.place t.cwd path), t₃) ∧
        t.Becomes t₃ (Path.way t.cwd parent) (opened ++ [Path.place t.cwd path])) ∨
      ∃ e, ¬t.CanWrite parent path ∧ openOutput t' path = (.error (.outputFile path e), t'') := by
  have hopens := h.opensFile hcan hopened hin hnew
  generalize hcreate : t''.create path = outcome at hopens
  cases hopens with
  | opened can becomes => exact .inl ⟨_, can, openOutput_of_created hmake hcreate, becomes⟩
  | refused cannot => exact .inr ⟨_, cannot, openOutput_of_uncreated hmake hcreate⟩

end There

namespace OutputFiles

/-- What comes of opening output files, by what can be made and written. -/
inductive Opening (files : OutputFiles) (parent : String) (t : FileTree) :
    Except LaunchError (Place × Place) × FileTree → Prop where
  /-- The directory cannot be made. -/
  | unmade {e : OsError} {t' : FileTree} (cannot : ¬t.CanMake parent) (puts : PutsSome (Path.way t.cwd parent) t t') :
      Opening files parent t (.error (.outputFile parent e), t')
  /-- The file for the standard output cannot be written. -/
  | unopened {e : OsError} {t' : FileTree} (can : t.CanMake parent) (cannot : ¬t.CanWrite parent files.stdout)
      (becomes : t.Becomes t' (Path.way t.cwd parent) []) : Opening files parent t (.error (.outputFile files.stdout e), t')
  /-- The file for the standard error cannot be written. -/
  | halfOpened {e : OsError} {t' : FileTree} (can : t.CanMake parent) (canOut : t.CanWrite parent files.stdout)
      (cannot : ¬t.CanWrite parent files.stderr)
      (becomes : t.Becomes t' (Path.way t.cwd parent) [files.place t.cwd .out]) :
      Opening files parent t (.error (.outputFile files.stderr e), t')
  /-- Both are opened. -/
  | opened {t' : FileTree} (can : t.CanMake parent) (canOut : t.CanWrite parent files.stdout)
      (canErr : t.CanWrite parent files.stderr)
      (becomes : t.Becomes t' (Path.way t.cwd parent) [files.place t.cwd .out, files.place t.cwd .err]) :
      Opening files parent t (.ok (files.place t.cwd .out, files.place t.cwd .err), t')

/-- What opening output files in a directory needs and does, read off the result and the tree after it. -/
structure OpensExactly (files : OutputFiles) (parent : String) (t : FileTree)
    (outcome : Except LaunchError (Place × Place) × FileTree) : Prop where
  /-- The directory is the one above both files. -/
  parents : Path.parent? files.stdout = some parent ∧ Path.parent? files.stderr = some parent
  /-- Both are opened just when the directory can be made and both can be written. -/
  opens_iff : (∃ places, outcome.1 = .ok places) ↔
    t.CanMake parent ∧ t.CanWrite parent files.stdout ∧ t.CanWrite parent files.stderr
  /-- Then the directories on the way are there and both files are empty, and nothing else is different. -/
  opened : ∀ places, outcome.1 = .ok places → places = (files.place t.cwd .out, files.place t.cwd .err) ∧
    t.Becomes outcome.2 (Path.way t.cwd parent) [files.place t.cwd .out, files.place t.cwd .err] ∧
      outcome.2.read files.stdout = .ok [] ∧ outcome.2.read files.stderr = .ok []
  /-- A directory that cannot be made is named, and some of those on the way may have been made. -/
  unmade : ¬t.CanMake parent → ∃ e, outcome.1 = .error (.outputFile parent e) ∧
    PutsSome (Path.way t.cwd parent) t outcome.2
  /-- Else the file for the standard output is named if it cannot be written, and the directories on the way are there. -/
  unopened : t.CanMake parent → ¬t.CanWrite parent files.stdout → ∃ e, outcome.1 = .error (.outputFile files.stdout e) ∧
    t.Becomes outcome.2 (Path.way t.cwd parent) []
  /-- Else the file for the standard error is named if it cannot be written, and the other one was opened. -/
  halfOpened : t.CanMake parent → t.CanWrite parent files.stdout → ¬t.CanWrite parent files.stderr →
    ∃ e, outcome.1 = .error (.outputFile files.stderr e) ∧
      t.Becomes outcome.2 (Path.way t.cwd parent) [files.place t.cwd .out]
  /-- Whatever is wrong, only places on the way and the file for the standard output can be different. -/
  elsewhere : ∀ e, outcome.1 = .error e → ∀ p, p ∉ Path.way t.cwd parent → p ≠ files.place t.cwd .out →
    outcome.2.at? p = t.at? p
  /-- The file for the standard error keeps what it held, and so does the one for the standard output if it was not opened. -/
  kept : ∀ path e, outcome.1 = .error (.outputFile path e) → KeptAt (files.place t.cwd .err) t outcome.2 ∧
    (path ≠ files.stderr → KeptAt (files.place t.cwd .out) t outcome.2)

section InOneDirectory

variable {files : OutputFiles} {parent out err : String}

/-- Two files of one directory have different places. -/
theorem place_ne (hout : Path.IsIn files.stdout parent out) (herr : Path.IsIn files.stderr parent err) (hne : out ≠ err)
    (cwd : Place) : files.place cwd .err ≠ files.place cwd .out := by
  have houtPlace : files.place cwd .out = Path.place cwd parent ++ [out] := hout.place_eq cwd
  have herrPlace : files.place cwd .err = Path.place cwd parent ++ [err] := herr.place_eq cwd
  rw [houtPlace, herrPlace]
  intro heq
  exact hne (List.singleton_inj.1 (List.append_cancel_left heq)).symm

theorem open_opening (hout : Path.IsIn files.stdout parent out) (herr : Path.IsIn files.stderr parent err) (hne : out ≠ err)
    (t : FileTree) : Opening files parent t (files.open t) := by
  have hplaces := place_ne hout herr hne t.cwd
  unfold OutputFiles.open
  rcases makeParent_makesWay t hout with ⟨t₁, hcan, hmake, hputs⟩ | ⟨e, t₁, hcannot, hmake, hputs⟩
  · rcases hputs.becomes.openOutput hmake hcan (by simp) hout (by simp) with ⟨t₂, hwrite, hopen, hbecomes⟩ | ⟨e, hcannot, hopen⟩
    · rw [hopen]
      dsimp only
      -- the first file is in the place of no directory that the second one needs
      have hopened : ∀ p ∈ Path.way t.cwd parent, p ∉ [] ++ [files.place t.cwd .out] := by
        intro p hp hmem
        rw [List.nil_append, List.mem_singleton] at hmem
        subst hmem
        exact hwrite.apart hp
      obtain ⟨t₃, hmake', hbecomes'⟩ := hbecomes.makeParent hcan hopened herr
      have hnew : files.place t.cwd .err ∉ [] ++ [files.place t.cwd .out] := by simpa using hplaces
      rcases hbecomes'.openOutput hmake' hcan hopened herr hnew with ⟨t₄, hwrite', hopen', hbecomes''⟩ | ⟨e, hcannot, hopen'⟩
      · rw [hopen']
        exact .opened hcan hwrite hwrite' hbecomes''
      · rw [hopen']
        exact .halfOpened hcan hwrite hcannot hbecomes'
    · rw [hopen]
      exact .unopened hcan hcannot hputs.becomes
  · rw [openOutput_of_unmade hmake]
    exact .unmade hcannot hputs

theorem Opening.opensExactly {t : FileTree} {outcome : Except LaunchError (Place × Place) × FileTree}
    (h : Opening files parent t outcome) (hout : Path.IsIn files.stdout parent out)
    (herr : Path.IsIn files.stderr parent err) (hne : out ≠ err) : files.OpensExactly parent t outcome where
  parents := ⟨hout.parent?_eq, herr.parent?_eq⟩
  opens_iff := by
    cases h with
    | unmade cannot puts => simp [cannot]
    | unopened can cannot becomes => simp [cannot]
    | halfOpened can canOut cannot becomes => simp [cannot]
    | opened can canOut canErr becomes => simp [can, canOut, canErr]
  opened := by
    intro places hplaces
    cases h with
    | unmade | unopened | halfOpened => cases hplaces
    | opened can canOut canErr becomes =>
      cases hplaces
      have hway : ∀ p ∈ Path.way t.cwd parent, p ∉ [files.place t.cwd .out, files.place t.cwd .err] := by
        intro p hp hmem
        rw [List.mem_cons, List.mem_singleton] at hmem
        rcases hmem with rfl | rfl
        · exact canOut.apart hp
        · exact canErr.apart hp
      refine ⟨rfl, becomes, ?_, ?_⟩
      · exact becomes.read_eq can hway hout canOut (List.mem_cons_self ..)
      · exact becomes.read_eq can hway herr canErr (List.mem_cons_of_mem _ (List.mem_singleton_self _))
  unmade := by
    intro hcannot
    cases h with
    | unmade cannot puts => exact ⟨_, rfl, puts⟩
    | unopened can | halfOpened can | opened can => exact absurd can hcannot
  unopened := by
    intro hcan hcannot
    cases h with
    | unmade cannot puts => exact absurd hcan cannot
    | unopened can cannot becomes => exact ⟨_, rfl, becomes⟩
    | halfOpened can canOut | opened can canOut => exact absurd canOut hcannot
  halfOpened := by
    intro hcan hcanOut hcannot
    cases h with
    | unmade cannot puts => exact absurd hcan cannot
    | unopened can cannot becomes => exact absurd hcanOut cannot
    | halfOpened can canOut cannot becomes => exact ⟨_, rfl, becomes⟩
    | opened can canOut canErr => exact absurd canErr hcannot
  elsewhere := by
    intro e he p hway hp
    cases h with
    | unmade cannot puts => exact puts.elsewhere p hway
    | unopened can cannot becomes => exact becomes.elsewhere hway List.not_mem_nil
    | halfOpened can canOut cannot becomes => exact becomes.elsewhere hway (by simpa using hp)
    | opened => cases he
  kept := by
    intro path e he
    have hplaces := place_ne hout herr hne t.cwd
    cases h with
    | unmade cannot puts => exact ⟨puts.kept _, fun _ => puts.kept _⟩
    | unopened can cannot becomes => exact ⟨becomes.keptAt List.not_mem_nil, fun _ => becomes.keptAt List.not_mem_nil⟩
    | halfOpened can canOut cannot becomes =>
      cases he
      exact ⟨becomes.keptAt (by simpa using hplaces), fun hpath => absurd rfl hpath⟩
    | opened => cases he

end InOneDirectory

/-- Opening the output files of a process changes only what it must: the files are in one directory, and what can be made and
written there decides what is opened, which error there is, and what is different after that. A file that has the place of a
directory on its own way counts as a directory, which it is once the way was made. -/
theorem ofName_opensExactly (logDir name : String) (t : FileTree) :
    ∃ parent, (ofName logDir name).OpensExactly parent t ((ofName logDir name).open t) := by
  have hout : Path.IsEnding ".out" := ⟨by decide, by decide⟩
  have herr : Path.IsEnding ".err" := ⟨by decide, by decide⟩
  obtain ⟨parent, word, hin⟩ := Path.exists_isIn (Path.join logDir name)
  have hstdout : (ofName logDir name).stdout = Path.join logDir name ++ ".out" := Path.join_ending hout logDir name
  have hstderr : (ofName logDir name).stderr = Path.join logDir name ++ ".err" := Path.join_ending herr logDir name
  have hne : word ++ ".out" ≠ word ++ ".err" := by
    rw [ne_eq, ← String.toList_inj, String.toList_append, String.toList_append, List.append_right_inj]
    decide
  have hinOut : Path.IsIn (ofName logDir name).stdout parent (word ++ ".out") := hstdout ▸ hin _ hout
  have hinErr : Path.IsIn (ofName logDir name).stderr parent (word ++ ".err") := hstderr ▸ hin _ herr
  exact ⟨parent, (open_opening hinOut hinErr hne t).opensExactly hinOut hinErr hne⟩

/-- A file for the standard error that is locked keeps what it holds, though the other one is empty by then. -/
example :
    ((ofName "log" "server").open ⟨[], [(["log"], .directory), (["log", "server.out"], .file [1] false),
        (["log", "server.err"], .file [2] false)], [["log", "server.err"]]⟩).2 =
      ⟨[], [(["log"], .directory), (["log", "server.out"], .file [] false), (["log", "server.err"], .file [2] false)],
        [["log", "server.err"]]⟩ := by decide +kernel

end OutputFiles

end StagedLaunch
