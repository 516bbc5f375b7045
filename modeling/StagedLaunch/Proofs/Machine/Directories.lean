import StagedLaunch.Proofs.Machine.Opening

/-!
# Making the directories on the way of a path

A path passes places on its way, one for each name in it (`Path.way`). To make a directory and those above it succeeds just when
a directory can be at each of these places (`FileTree.CanMake`); then there is one at each, and nothing else is different.
Otherwise some of them may have been made (`FileTree.makeDirectories_makesWay`).
-/

namespace StagedLaunch

/-! ## The way of a path -/

namespace Path

/-- The places that the parts of a path pass from a directory, one for each name. -/
def passed (dir : Place) : List String → List Place
  | [] => []
  | name :: rest =>
    if name == "" || name == "." then passed dir rest
    else if name == ".." then passed dir.dropLast rest
    else (dir ++ [name]) :: passed (dir ++ [name]) rest

/-- The places that a path passes from a working directory; the last is its own if it ends in a name. -/
def way (cwd : Place) (path : String) : List Place := passed (start cwd path) (parts path)

/-- A path that the system takes: it does not hold the character zero, and it is not too long. -/
def Usable (path : String) : Prop := '\x00' ∉ path.toList ∧ byteSize path < 4096

instance (path : String) : Decidable (Usable path) := inferInstanceAs (Decidable (_ ∧ _))

theorem passed_append (dir : Place) (front back : List String) :
    passed dir (front ++ back) = passed dir front ++ passed (follow dir front) back := by
  fun_induction follow dir front with
  | case1 dir => rfl
  | case2 dir name rest hskip ih => rw [List.cons_append, passed, if_pos hskip, ih, passed, if_pos hskip]
  | case3 dir name rest hskip hup ih =>
    rw [List.cons_append, passed, if_neg hskip, if_pos hup, ih, passed, if_neg hskip, if_pos hup]
  | case4 dir name rest hskip hup ih =>
    rw [List.cons_append, passed, if_neg hskip, if_neg hup, ih, passed, if_neg hskip, if_neg hup, List.cons_append]

/-- Parts that do not move on pass no place. -/
theorem passed_filter (dir : Place) (names : List String) : passed dir (names.filter isMove) = passed dir names := by
  fun_induction passed dir names with
  | case1 dir => rfl
  | case2 dir name rest hskip ih =>
    rw [List.filter_cons_of_neg (by rw [isMove_eq_false_iff.2 hskip]; simp), ih]
  | case3 dir name rest hskip hup ih =>
    rw [List.filter_cons_of_pos (isMove_eq_true_iff.2 hskip), passed, if_neg hskip, if_pos hup, ih]
  | case4 dir name rest hskip hup ih =>
    rw [List.filter_cons_of_pos (isMove_eq_true_iff.2 hskip), passed, if_neg hskip, if_neg hup, ih]

theorem way_eq_passed_moves (cwd : Place) (path : String) : way cwd path = passed (start cwd path) (moves path) :=
  (passed_filter ..).symm

section Parent

variable {q path : String} {names : List String} {name : String}

theorem IsParent.way_eq_passed (h : IsParent q path) (hmoves : moves path = names ++ [name]) (cwd : Place) :
    way cwd q = passed (start cwd path) names := by
  rw [way_eq_passed_moves, h.moves_dropLast hmoves, h.start_eq]

/-- The way of a path is that of the path above it and then the place of its last move, if that is a name. -/
theorem IsParent.way_eq (h : IsParent q path) (hmoves : moves path = names ++ [name]) (cwd : Place) :
    way cwd path = way cwd q ++ passed (place cwd q) [name] := by
  rw [way_eq_passed_moves cwd path, hmoves, passed_append, ← h.way_eq_passed hmoves, ← h.place_eq hmoves]

end Parent

theorem byteSize_append (p q : String) : byteSize (p ++ q) = byteSize p + byteSize q := by
  simp [byteSize, bytes]

/-- The path above one that the system takes is one too. -/
theorem IsParent.usable {q path : String} (h : IsParent q path) (husable : Usable path) : Usable q := by
  obtain ⟨rest, hrest⟩ := h.beginning
  have hpath : path = q ++ String.ofList rest := by
    rw [← String.toList_inj, String.toList_append, String.toList_ofList, hrest]
  obtain ⟨hzero, hsize⟩ := husable
  rw [hpath, byteSize_append] at hsize
  refine ⟨fun hmem => hzero (h.beginning.subset hmem), ?_⟩
  omega

end Path

namespace FileTree

variable {t t' t'' : FileTree} {dir : Place} {path name : String} {names : List String} {places : List Place}

/-! ## Walking through directories -/

/-- Goes through the directories that parts of a path name. -/
def reach (t : FileTree) (dir : Place) : List String → Except OsError Place
  | [] => .ok dir
  | name :: rest =>
    if name == "" || name == "." then reach t dir rest
    else if name == ".." then reach t dir.dropLast rest
    else
      match t.enter dir name with
      | .ok dir => reach t dir rest
      | .error e => .error e

theorem reach_filter (t : FileTree) (dir : Place) (names : List String) :
    t.reach dir (names.filter Path.isMove) = t.reach dir names := by
  fun_induction reach t dir names with
  | case1 dir => rfl
  | case2 dir name rest hskip ih =>
    rw [List.filter_cons_of_neg (by rw [Path.isMove_eq_false_iff.2 hskip]; simp), ih]
  | case3 dir name rest hskip hup ih =>
    rw [List.filter_cons_of_pos (Path.isMove_eq_true_iff.2 hskip), reach, if_neg hskip, if_pos hup, ih]
  | case4 dir name rest hskip hup dir' henter ih =>
    rw [List.filter_cons_of_pos (Path.isMove_eq_true_iff.2 hskip), reach, if_neg hskip, if_neg hup, henter]
    exact ih
  | case5 dir name rest hskip hup e henter =>
    rw [List.filter_cons_of_pos (Path.isMove_eq_true_iff.2 hskip), reach, if_neg hskip, if_neg hup, henter]

/-- A path is walked through the directories before its last part, and what that part adds is known without the tree. -/
theorem walk_concat (t : FileTree) (dir : Place) (front : List String) (hname : Path.isMove name = true) :
    t.walk dir (front ++ [name]) =
      match t.reach dir front with
      | .error e => .error e
      | .ok d =>
        if name == ".." then .ok (.directory d.dropLast)
        else if isLong name then .error .nameTooLong
        else .ok (.entry d name false) := by
  have hskip := Path.isMove_eq_true_iff.1 hname
  have hempty : (name == "") = false := by
    rw [Bool.eq_false_iff]
    intro h
    exact hskip (by rw [h, Bool.true_or])
  fun_induction reach t dir front with
  | case1 dir =>
    rw [List.nil_append, walk, if_neg hskip]
    split
    · rfl
    · rfl
  | case2 dir other rest hother ih => rw [List.cons_append, walk, if_pos hother, ih]
  | case3 dir other rest hother hup ih => rw [List.cons_append, walk, if_neg hother, if_pos hup, ih]
  | case4 dir other rest hother hup dir' henter ih =>
    rw [List.cons_append, walk, if_neg hother, if_neg hup, if_neg (by simp [hempty]), henter]
    exact ih
  | case5 dir other rest hother hup e henter =>
    rw [List.cons_append, walk, if_neg hother, if_neg hup, if_neg (by simp [hempty]), henter]

/-- Parts that do not move on lead to the directory itself. -/
theorem walk_of_no_move (t : FileTree) (dir : Place) (h : names.filter Path.isMove = []) :
    t.walk dir names = .ok (.directory dir) := by
  induction names with
  | nil => rfl
  | cons other rest ih =>
    by_cases hother : Path.isMove other = true
    · rw [List.filter_cons_of_pos hother] at h
      cases h
    · rw [List.filter_cons_of_neg hother] at h
      rw [walk, if_pos (Path.isMove_eq_false_iff.1 (Bool.eq_false_iff.2 hother)), ih h]

/-- A directory can be at a place: one is there or can be put there, and its name is not too long. -/
structure CanHold (t : FileTree) (p : Place) : Prop where
  /-- Nothing is there, or a directory. -/
  free : t.at? p = none ∨ t.at? p = some .directory
  /-- Where nothing is, the directory around it takes new names. -/
  allowed : t.at? p = none → t.isLocked p = false
  /-- Its name is not too long. -/
  short : ∀ name ∈ p.getLast?, isLong name = false

theorem canHold_of_directory {p : Place} (hat : t.at? p = some .directory)
    (hshort : ∀ name ∈ p.getLast?, isLong name = false) : t.CanHold p :=
  ⟨.inr hat, by simp [hat], hshort⟩

theorem enter_eq_ok_iff {d : Place} :
    t.enter dir name = .ok d ↔ d = dir ++ [name] ∧ t.at? (dir ++ [name]) = some .directory ∧ isLong name = false := by
  unfold enter
  split
  · rename_i hlong
    simp [hlong]
  · rename_i hshort
    rw [Bool.not_eq_true] at hshort
    split
    · rename_i hat
      simp [hshort, hat, eq_comm]
    · rename_i node hnode hat
      have hne : node ≠ .directory := fun heq => hnode heq
      simp [hat, hne]
    · rename_i hat
      simp [hat]

theorem enter_eq_error {e : OsError} (h : t.enter dir name = .error e) : e = .notFound ∨ ¬t.CanHold (dir ++ [name]) := by
  unfold enter at h
  split at h
  · rename_i hlong
    refine .inr fun hcan => ?_
    have hshort := hcan.short name (by simp)
    rw [hlong] at hshort
    cases hshort
  · split at h
    · cases h
    · rename_i node hnode hat
      refine .inr fun hcan => ?_
      rcases hcan.free with hnone | hdirectory
      · rw [hnone] at hat
        cases hat
      · rw [hdirectory] at hat
        cases hat
        exact hnode rfl
    · cases h
      exact .inl rfl

/-- Directories are gone through just when there is one at each place that is passed. -/
theorem reach_eq_ok_iff {d : Place} :
    t.reach dir names = .ok d ↔
      d = Path.follow dir names ∧ ∀ p ∈ Path.passed dir names, t.at? p = some .directory ∧ t.CanHold p := by
  fun_induction reach t dir names with
  | case1 dir => simp [Path.follow, Path.passed, eq_comm]
  | case2 dir name rest hskip ih => rw [ih, Path.follow, if_pos hskip, Path.passed, if_pos hskip]
  | case3 dir name rest hskip hup ih =>
    rw [ih, Path.follow, if_neg hskip, if_pos hup, Path.passed, if_neg hskip, if_pos hup]
  | case4 dir name rest hskip hup dir' henter ih =>
    obtain ⟨rfl, hat, hshort⟩ := enter_eq_ok_iff.1 henter
    have hcan : t.CanHold (dir ++ [name]) := canHold_of_directory hat (by simpa using hshort)
    rw [ih, Path.follow, if_neg hskip, if_neg hup, Path.passed, if_neg hskip, if_neg hup, List.forall_mem_cons]
    simp [hat, hcan]
  | case5 dir name rest hskip hup e henter =>
    rw [Path.passed, if_neg hskip, if_neg hup, List.forall_mem_cons]
    constructor
    · intro h
      cases h
    · rintro ⟨-, ⟨hat, hcan⟩, -⟩
      have hok := enter_eq_ok_iff.2 ⟨rfl, hat, hcan.short name (by simp)⟩
      rw [henter] at hok
      cases hok

/-- Where directories are not gone through, something is missing or no directory can be at a place that is passed. -/
theorem reach_eq_error {e : OsError} (h : t.reach dir names = .error e) :
    e = .notFound ∨ ∃ p ∈ Path.passed dir names, ¬t.CanHold p := by
  fun_induction reach t dir names with
  | case1 dir => cases h
  | case2 dir name rest hskip ih =>
    rw [Path.passed, if_pos hskip]
    exact ih h
  | case3 dir name rest hskip hup ih =>
    rw [Path.passed, if_neg hskip, if_pos hup]
    exact ih h
  | case4 dir name rest hskip hup dir' henter ih =>
    obtain ⟨rfl, -⟩ := enter_eq_ok_iff.1 henter
    rw [Path.passed, if_neg hskip, if_neg hup]
    rcases ih h with hmissing | ⟨p, hp, hcannot⟩
    · exact .inl hmissing
    · exact .inr ⟨p, List.mem_cons_of_mem _ hp, hcannot⟩
  | case5 dir name rest hskip hup e' henter =>
    cases h
    rw [Path.passed, if_neg hskip, if_neg hup]
    rcases enter_eq_error henter with hmissing | hcannot
    · exact .inl hmissing
    · exact .inr ⟨_, List.mem_cons_self .., hcannot⟩

/-! ## Targets -/

/-- A path that the system does not take leads nowhere, though nothing is missing. -/
theorem target_of_unusable (hpath : path ≠ "") (h : ¬Path.Usable path) : ∃ e, t.target path = .error e ∧ e ≠ .notFound := by
  unfold target
  split
  · exact ⟨_, rfl, by decide⟩
  · rename_i hzero
    rw [if_neg (by simpa using hpath)]
    split
    · exact ⟨_, rfl, by decide⟩
    · rename_i hsize
      exact absurd ⟨by simpa using hzero, by simpa using hsize⟩ h

theorem target_of_usable (hpath : path ≠ "") (h : Path.Usable path) :
    t.target path = t.walk (Path.start t.cwd path) (Path.parts path) := by
  unfold target
  rw [if_neg (by simpa using h.1), if_neg (by simpa using hpath), if_neg (by simpa using h.2)]
  rfl

/-- A path without moves leads to where it starts. -/
theorem target_of_no_move (hpath : path ≠ "") (h : Path.Usable path) (hmoves : Path.moves path = []) :
    t.target path = .ok (.directory (Path.start t.cwd path)) := by
  rw [target_of_usable hpath h, walk_of_no_move _ _ hmoves]

/-- A path that ends in a move leads through the directories of the others. -/
theorem target_of_move (h : Path.Usable path) (hends : Path.EndsInMove path) (hmoves : Path.moves path = names ++ [name]) :
    t.target path =
      match t.reach (Path.start t.cwd path) names with
      | .error e => .error e
      | .ok d =>
        if name == ".." then .ok (.directory d.dropLast)
        else if isLong name then .error .nameTooLong
        else .ok (.entry d name false) := by
  obtain ⟨front, hparts, hfront, hname⟩ := Path.exists_parts hends hmoves
  rw [target_of_usable (Path.ne_empty_of_moves hmoves) h, hparts, walk_concat _ _ _ hname, ← hfront, reach_filter]

/-! ## Making directories -/

/-- Directories are put where nothing stood at some places and could be put there, and nothing else is different. -/
structure PutsDirectories (places : List Place) (t t' : FileTree) : Prop where
  /-- The working directory is the same. -/
  cwd_eq : t'.cwd = t.cwd
  /-- The same places are locked. -/
  locked_eq : t'.locked = t.locked
  /-- Where nothing stood, the directory around took new names. -/
  allowed : ∀ p ∈ places, t.at? p = none → t.isLocked p = false
  /-- What stands where. -/
  at?_eq : ∀ p, t'.at? p = if p ∈ places ∧ t.at? p = none then some .directory else t.at? p

/-- Directories may be put where nothing stood at some places, and nothing else is different. -/
structure PutsSome (places : List Place) (t t' : FileTree) : Prop where
  /-- The working directory is the same. -/
  cwd_eq : t'.cwd = t.cwd
  /-- The same places are locked. -/
  locked_eq : t'.locked = t.locked
  /-- A place keeps what stands there, or gets a directory where nothing stood. -/
  kept : ∀ p, KeptAt p t t'
  /-- Other places keep what stands there. -/
  elsewhere : ∀ p, p ∉ places → t'.at? p = t.at? p

namespace PutsDirectories

theorem refl (h : ∀ p ∈ places, t.at? p = some .directory) : PutsDirectories places t t where
  cwd_eq := rfl
  locked_eq := rfl
  allowed p hp hnone := by
    rw [h p hp] at hnone
    cases hnone
  at?_eq p := by
    rw [if_neg]
    rintro ⟨hp, hnone⟩
    rw [h p hp] at hnone
    cases hnone

/-- One directory is put where nothing stood. -/
theorem set {p : Place} (hp : p ≠ []) (hnone : t.at? p = none) (hallowed : t.isLocked p = false) :
    PutsDirectories [p] t (t.set p .directory) where
  cwd_eq := cwd_set ..
  locked_eq := locked_set ..
  allowed q hq _ := by
    obtain rfl := List.mem_singleton.1 hq
    exact hallowed
  at?_eq q := by
    rw [at?_set t _ hp]
    by_cases hq : q = p
    · subst hq
      rw [if_pos rfl, if_pos ⟨List.mem_singleton_self _, hnone⟩]
    · rw [if_neg hq, if_neg fun hput => hq (List.mem_singleton.1 hput.1)]

theorem none_of_none (h : PutsDirectories places t t') {p : Place} (hnone : t'.at? p = none) : t.at? p = none := by
  rw [h.at?_eq] at hnone
  split at hnone
  · cases hnone
  · exact hnone

/-- Where nothing stands still, the same is locked. -/
theorem isLocked_eq (h : PutsDirectories places t t') {p : Place} (hnone : t'.at? p = none) : t'.isLocked p = t.isLocked p := by
  rw [isLocked, isLocked, hnone, h.none_of_none hnone, h.locked_eq]

theorem append {before after : List Place} (h : PutsDirectories before t t') (h' : PutsDirectories after t' t'') :
    PutsDirectories (before ++ after) t t'' where
  cwd_eq := h'.cwd_eq.trans h.cwd_eq
  locked_eq := h'.locked_eq.trans h.locked_eq
  allowed p hp hnone := by
    by_cases hbefore : p ∈ before
    · exact h.allowed p hbefore hnone
    · have hafter : p ∈ after := (List.mem_append.1 hp).resolve_left hbefore
      have hnone' : t'.at? p = none := by rw [h.at?_eq, if_neg fun hput => hbefore hput.1, hnone]
      rw [← h.isLocked_eq hnone']
      exact h'.allowed p hafter hnone'
  at?_eq p := by
    rw [h'.at?_eq, h.at?_eq]
    by_cases hnone : t.at? p = none
    · by_cases hbefore : p ∈ before
      · simp [hnone, hbefore]
      · simp [hnone, hbefore]
    · simp [hnone]

/-- What stands at a place was there before, or is a directory. -/
theorem canHold_iff (h : PutsDirectories places t t') {p : Place} : t'.CanHold p ↔ t.CanHold p := by
  have hfree : (t'.at? p = none ∨ t'.at? p = some .directory) ↔ t.at? p = none ∨ t.at? p = some .directory := by
    rw [h.at?_eq]
    by_cases hput : p ∈ places ∧ t.at? p = none
    · simp [hput.1, hput.2]
    · rw [if_neg hput]
  constructor
  · intro hcan
    refine ⟨hfree.1 hcan.free, fun hnone => ?_, hcan.short⟩
    by_cases hp : p ∈ places
    · exact h.allowed p hp hnone
    · have hnone' : t'.at? p = none := by rw [h.at?_eq, if_neg fun hput => hp hput.1, hnone]
      rw [← h.isLocked_eq hnone']
      exact hcan.allowed hnone'
  · intro hcan
    refine ⟨hfree.2 hcan.free, fun hnone => ?_, hcan.short⟩
    rw [h.isLocked_eq hnone]
    exact hcan.allowed (h.none_of_none hnone)

/-- There is a directory at each place. -/
theorem directory (h : PutsDirectories places t t') {p : Place} (hp : p ∈ places) (hcan : t.CanHold p) :
    t'.at? p = some .directory := by
  rw [h.at?_eq]
  rcases hcan.free with hnone | hdirectory
  · rw [if_pos ⟨hp, hnone⟩]
  · rw [if_neg (by simp [hdirectory]), hdirectory]

theorem some (h : PutsDirectories places t t') {more : List Place} (hmore : places ⊆ more) : PutsSome more t t' where
  cwd_eq := h.cwd_eq
  locked_eq := h.locked_eq
  kept p := by
    unfold KeptAt
    rw [h.at?_eq]
    by_cases hput : p ∈ places ∧ t.at? p = none
    · exact .inr ⟨hput.2, if_pos hput⟩
    · exact .inl (if_neg hput)
  elsewhere p hp := by
    rw [h.at?_eq, if_neg fun hput => hp (hmore hput.1)]

end PutsDirectories

theorem PutsSome.refl (places : List Place) (t : FileTree) : PutsSome places t t :=
  ⟨rfl, rfl, fun _ => .inl rfl, fun _ _ => rfl⟩

theorem PutsSome.mono (h : PutsSome places t t') {more : List Place} (hmore : places ⊆ more) : PutsSome more t t' :=
  ⟨h.cwd_eq, h.locked_eq, h.kept, fun p hp => h.elsewhere p fun hmem => hp (hmore hmem)⟩

/-- What comes of making the directory of a path, when there are places that it may add to the directories above. -/
inductive MakesLast (t : FileTree) (path : String) (places : List Place) : Prop where
  /-- It is made. -/
  | made {t' : FileTree} (result : t.makeDirectory path = .ok t') (can : ∀ p ∈ places, t.CanHold p)
      (puts : PutsDirectories places t t')
  /-- It was there. -/
  | there {e : OsError} (result : t.makeDirectory path = .error e) (named : e ≠ .notFound) (isThere : t.isDirectory path = true)
      (can : ∀ p ∈ places, t.CanHold p) (puts : PutsDirectories places t t)
  /-- It cannot be made. -/
  | refused {e : OsError} (result : t.makeDirectory path = .error e) (named : e ≠ .notFound)
      (isMissing : t.isDirectory path = false) (cannot : ¬∀ p ∈ places, t.CanHold p)

section Entry

variable {d : Place} (htarget : t.target path = .ok (.entry d name false)) (hshort : isLong name = false)
include htarget hshort

/-- Where nothing stands, a directory is made unless the one around it is locked. -/
theorem makesLast_of_none (hat : t.at? (d ++ [name]) = none) : MakesLast t path [d ++ [name]] := by
  by_cases hlocked : t.isLocked (d ++ [name]) = true
  · refine .refused (e := .denied) ?_ (by decide) ?_ ?_
    · rw [makeDirectory, htarget]
      dsimp only
      rw [hat, if_neg (by simp), if_pos hlocked]
    · rw [isDirectory, find, htarget]
      dsimp only
      rw [hat]
    · intro hcan
      have hallowed := (hcan _ (List.mem_singleton_self _)).allowed hat
      rw [hlocked] at hallowed
      cases hallowed
  · have hunlocked : t.isLocked (d ++ [name]) = false := Bool.eq_false_iff.2 hlocked
    have hresult : t.makeDirectory path = .ok (t.set (d ++ [name]) .directory) := by
      rw [makeDirectory, htarget]
      dsimp only
      rw [hat, if_neg (by simp), if_neg hlocked]
    refine .made hresult ?_ (PutsDirectories.set (by simp) hat hunlocked)
    intro p hp
    obtain rfl := List.mem_singleton.1 hp
    exact ⟨.inl hat, fun _ => hunlocked, by simpa using hshort⟩

/-- Where something stands, nothing is made. -/
theorem makesLast_of_some {node : FileNode} (hat : t.at? (d ++ [name]) = some node) : MakesLast t path [d ++ [name]] := by
  have hresult : t.makeDirectory path = .error .fileExists := by
    rw [makeDirectory, htarget]
    dsimp only
    rw [hat]
    rfl
  by_cases hdirectory : node = .directory
  · subst hdirectory
    refine .there hresult (by decide) ?_ ?_ (.refl ?_)
    · rw [isDirectory, find, htarget]
      dsimp only
      rw [hat]
    · intro p hp
      obtain rfl := List.mem_singleton.1 hp
      exact canHold_of_directory hat (by simpa using hshort)
    · intro p hp
      obtain rfl := List.mem_singleton.1 hp
      exact hat
  · refine .refused hresult (by decide) ?_ ?_
    · rw [isDirectory, find, htarget]
      dsimp only
      rw [hat]
      cases node with
      | directory => exact absurd rfl hdirectory
      | file bytes executable => rfl
      | sink => rfl
      | program => rfl
    · intro hcan
      rcases (hcan _ (List.mem_singleton_self _)).free with hnone | hsome
      · rw [hnone] at hat
        cases hat
      · rw [hsome] at hat
        cases hat
        exact hdirectory rfl

end Entry

theorem makesLast (h : Path.Usable path) (hends : Path.EndsInMove path) (hmoves : Path.moves path = names ++ [name]) {d : Place}
    (hreach : t.reach (Path.start t.cwd path) names = .ok d) : MakesLast t path (Path.passed d [name]) := by
  obtain ⟨-, -, -, hname⟩ := Path.exists_parts hends hmoves
  have hskip := Path.isMove_eq_true_iff.1 hname
  have htarget := target_of_move (t := t) h hends hmoves
  rw [hreach] at htarget
  dsimp only at htarget
  rw [Path.passed, if_neg hskip, Path.passed]
  by_cases hup : (name == "..") = true
  · rw [if_pos hup] at htarget ⊢
    refine .there (e := .fileExists) ?_ (by decide) ?_ (by simp) (.refl (by simp))
    · rw [makeDirectory, htarget]
    · rw [isDirectory, find, htarget]
  · rw [if_neg hup] at htarget ⊢
    by_cases hlong : isLong name = true
    · rw [if_pos hlong] at htarget
      refine .refused (e := .nameTooLong) ?_ (by decide) ?_ ?_
      · rw [makeDirectory, htarget]
      · rw [isDirectory, find, htarget]
      · intro hcan
        have hshort := (hcan _ (List.mem_singleton_self _)).short name (by simp)
        rw [hlong] at hshort
        cases hshort
    · rw [if_neg hlong] at htarget
      have hshort : isLong name = false := Bool.eq_false_iff.2 hlong
      cases hat : t.at? (d ++ [name]) with
      | none => exact makesLast_of_none htarget hshort hat
      | some node => exact makesLast_of_some htarget hshort hat

/-- A directory and those above it can be made: the system takes the path, and a directory can be at each place on its way. -/
structure CanMake (t : FileTree) (path : String) : Prop where
  /-- The system takes the path. -/
  usable : Path.Usable path
  /-- A directory can be at each place on its way. -/
  canHold : ∀ p ∈ Path.way t.cwd path, t.CanHold p

/-- What comes of making a directory and those above it. -/
inductive MakesWay (t : FileTree) (path : String) : Except OsError Unit × FileTree → Prop where
  /-- All of them are there. -/
  | made {t' : FileTree} (can : t.CanMake path) (puts : PutsDirectories (Path.way t.cwd path) t t') : MakesWay t path (.ok (), t')
  /-- One of them cannot be made. -/
  | refused {e : OsError} {t' : FileTree} (cannot : ¬t.CanMake path) (puts : PutsSome (Path.way t.cwd path) t t') :
      MakesWay t path (.error e, t')

theorem CanMake.parent (h : t.CanMake path) {q : String} (hq : Path.IsParent q path)
    (hmoves : Path.moves path = names ++ [name]) : t.CanMake q where
  usable := hq.usable h.usable
  canHold p hp := h.canHold p (by rw [hq.way_eq hmoves]; exact List.mem_append_left _ hp)

/-- There is no way to go to a path without moves. -/
theorem makesWay_of_no_move (h : Path.Usable path) (hmoves : Path.moves path = []) (above : List String) :
    MakesWay t path (t.makeAll (path :: above)) := by
  have hway : Path.way t.cwd path = [] := by
    rw [Path.way_eq_passed_moves, hmoves]
    rfl
  have hmade : MakesWay t path (.ok (), t) := .made ⟨h, by simp [hway]⟩ (.refl (by simp [hway]))
  by_cases hpath : path = ""
  · subst hpath
    exact hmade
  · have htarget := target_of_no_move (t := t) hpath h hmoves
    have hresult : t.makeDirectory path = .error .fileExists := by rw [makeDirectory, htarget]
    have hthere : t.isDirectory path = true := by rw [isDirectory, find, htarget]
    rw [makeAll, if_neg (by simpa using hpath), hresult]
    dsimp only
    rw [if_neg (by decide), hthere]
    exact hmade

/-- Nothing is made for a path that the system does not take. -/
theorem makesWay_of_unusable (h : ¬Path.Usable path) (above : List String) : MakesWay t path (t.makeAll (path :: above)) := by
  have hpath : path ≠ "" := by
    rintro rfl
    exact h (by decide)
  obtain ⟨e, htarget, hnamed⟩ := target_of_unusable (t := t) hpath h
  have hresult : t.makeDirectory path = .error e := by rw [makeDirectory, htarget]
  have hmissing : t.isDirectory path = false := by rw [isDirectory, find, htarget]
  rw [makeAll, if_neg (by simpa using hpath), hresult]
  dsimp only
  rw [if_neg (by simpa using hnamed), hmissing]
  exact .refused (fun hcan => h hcan.usable) (.refl ..)

/-- What the last directory adds to those above it, which are there. -/
theorem MakesLast.makesWay {q : String} (hq : Path.IsParent q path) (hmoves : Path.moves path = names ++ [name])
    (husable : Path.Usable path) (hcan : t.CanMake q) (hputs : PutsDirectories (Path.way t.cwd q) t t')
    (h : MakesLast t' path (Path.passed (Path.place t.cwd q) [name])) :
    MakesWay t path
      (match t'.makeDirectory path with
      | .ok t => (.ok (), t)
      | .error e => if t'.isDirectory path then (.ok (), t') else (.error e, t')) := by
  have hway := hq.way_eq hmoves t.cwd
  have hall (hlast : ∀ p ∈ Path.passed (Path.place t.cwd q) [name], t'.CanHold p) : t.CanMake path := by
    refine ⟨husable, fun p hp => ?_⟩
    rw [hway, List.mem_append] at hp
    rcases hp with hp | hp
    · exact hcan.canHold p hp
    · exact hputs.canHold_iff.1 (hlast p hp)
  cases h with
  | made result can puts =>
    rw [result]
    exact .made (hall can) (hway ▸ hputs.append puts)
  | there result named isThere can puts =>
    rw [result]
    dsimp only
    rw [isThere, if_pos rfl]
    exact .made (hall can) (hway ▸ hputs.append puts)
  | refused result named isMissing cannot =>
    rw [result]
    dsimp only
    rw [isMissing, if_neg Bool.false_ne_true]
    refine .refused (fun hmake => cannot fun p hp => ?_) (hputs.some ?_)
    · exact hputs.canHold_iff.2 (hmake.canHold p (by rw [hway]; exact List.mem_append_right _ hp))
    · rw [hway]
      exact List.subset_append_left ..

/-- When the directories above are there, the last one is made or refused at once. -/
theorem makesWay_of_reached {q : String} (hq : Path.IsParent q path) (hmoves : Path.moves path = names ++ [name])
    (husable : Path.Usable path) (hends : Path.EndsInMove path) {d : Place}
    (hreach : t.reach (Path.start t.cwd path) names = .ok d) (above : List String) :
    MakesWay t path (t.makeAll (path :: above)) := by
  have hpath : path ≠ "" := Path.ne_empty_of_moves hmoves
  obtain ⟨hd, hthere⟩ := reach_eq_ok_iff.1 hreach
  rw [← hq.place_eq hmoves] at hd
  rw [← hq.way_eq_passed hmoves] at hthere
  subst hd
  have hcan : t.CanMake q := ⟨hq.usable husable, fun p hp => (hthere p hp).2⟩
  have hputs : PutsDirectories (Path.way t.cwd q) t t := .refl fun p hp => (hthere p hp).1
  have hlast := makesLast husable hends hmoves hreach
  have hmakes := hlast.makesWay hq hmoves husable hcan hputs
  rw [makeAll, if_neg (by simpa using hpath)]
  cases hlast with
  | made result can puts =>
    rw [result] at hmakes ⊢
    exact hmakes
  | there result named isThere can puts =>
    rw [result] at hmakes ⊢
    dsimp only at hmakes ⊢
    rw [if_neg (by simpa using named)]
    exact hmakes
  | refused result named isMissing cannot =>
    rw [result] at hmakes ⊢
    dsimp only at hmakes ⊢
    rw [if_neg (by simpa using named)]
    exact hmakes

/-- When a directory above is missing, those above are made first; when there is something else, nothing is made. -/
theorem makesWay_of_unreached {q : String} (hq : Path.IsParent q path) (hmoves : Path.moves path = names ++ [name])
    (husable : Path.Usable path) (hends : Path.EndsInMove path) {e : OsError}
    (hreach : t.reach (Path.start t.cwd path) names = .error e) {above : List String}
    (habove : MakesWay t q (t.makeAll above)) : MakesWay t path (t.makeAll (path :: above)) := by
  have hpath : path ≠ "" := Path.ne_empty_of_moves hmoves
  have htarget := target_of_move (t := t) husable hends hmoves
  rw [hreach] at htarget
  have hresult : t.makeDirectory path = .error e := by rw [makeDirectory, htarget]
  have hmissing : t.isDirectory path = false := by rw [isDirectory, find, htarget]
  rw [makeAll, if_neg (by simpa using hpath), hresult]
  dsimp only
  by_cases hnamed : e = .notFound
  · rw [if_pos (by simpa using hnamed)]
    generalize t.makeAll above = outcome at habove
    cases habove with
    | refused cannot puts =>
      refine .refused (fun hcan => cannot (hcan.parent hq hmoves)) (puts.mono ?_)
      rw [hq.way_eq hmoves]
      exact List.subset_append_left ..
    | @made t' can puts =>
      have hstart : Path.start t'.cwd path = Path.start t.cwd path := by rw [puts.cwd_eq]
      have hreach' : t'.reach (Path.start t'.cwd path) names = .ok (Path.place t.cwd q) := by
        refine reach_eq_ok_iff.2 ⟨by rw [hstart, hq.place_eq hmoves], fun p hp => ?_⟩
        rw [hstart, ← hq.way_eq_passed hmoves] at hp
        exact ⟨puts.directory hp (can.canHold p hp), puts.canHold_iff.2 (can.canHold p hp)⟩
      exact (makesLast husable hends hmoves hreach').makesWay hq hmoves husable can puts
  · rw [if_neg (by simpa using hnamed), hmissing]
    refine .refused (fun hcan => ?_) (.refl ..)
    rcases reach_eq_error hreach with hnotFound | ⟨p, hp, hcannot⟩
    · exact hnamed hnotFound
    · rw [← hq.way_eq_passed hmoves] at hp
      exact hcannot ((hcan.parent hq hmoves).canHold p hp)

/-- A directory and those above it are made if that can be done. The induction is on the number of directories above. -/
theorem makeAll_makesWay (t : FileTree) {fuel : Nat} {path : String} (hfuel : (Path.moves path).length ≤ fuel)
    (hends : Path.EndsInMove path) : MakesWay t path (t.makeAll (ancestors fuel path)) := by
  induction fuel generalizing path with
  | zero =>
    have hmoves : Path.moves path = [] := List.eq_nil_of_length_eq_zero (Nat.le_zero.1 hfuel)
    rw [ancestors]
    by_cases husable : Path.Usable path
    · exact makesWay_of_no_move husable hmoves []
    · exact makesWay_of_unusable husable []
  | succ fuel ih =>
    obtain ⟨above, habove⟩ : ∃ above, ancestors (fuel + 1) path = path :: above := by
      rw [ancestors]
      split
      · exact ⟨_, rfl⟩
      · exact ⟨_, rfl⟩
    by_cases husable : Path.Usable path
    · rcases List.eq_nil_or_concat (Path.moves path) with hmoves | ⟨names, name, hmoves⟩
      · rw [habove]
        exact makesWay_of_no_move husable hmoves above
      · rw [List.concat_eq_append] at hmoves
        have hsome : Path.moves path ≠ [] := by simp [hmoves]
        obtain ⟨q, hparent, hq⟩ := Path.exists_isParent hsome
        rcases hreach : t.reach (Path.start t.cwd path) names with e | d
        · have hlength : (Path.moves q).length ≤ fuel := by
            rw [hq.moves_dropLast hmoves]
            simpa [hmoves] using hfuel
          rw [ancestors, hparent]
          exact makesWay_of_unreached hq hmoves husable hends hreach (ih hlength hq.endsInMove)
        · rw [habove]
          exact makesWay_of_reached hq hmoves husable hends hreach above
    · rw [habove]
      exact makesWay_of_unusable husable above

theorem makeDirectories_makesWay (t : FileTree) {path : String} (hends : Path.EndsInMove path) :
    MakesWay t path (t.makeDirectories path) :=
  makeAll_makesWay t (Path.length_moves_le path) hends

end FileTree

end StagedLaunch
