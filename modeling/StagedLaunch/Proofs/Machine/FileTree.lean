import StagedLaunch.Machine.Build
import StagedLaunch.Machine.Output
import StagedLaunch.Proofs.Machine.Paths

/-!
# Places and contents in a file tree

A path leads to a place that can be read off the path (`FileTree.place_of_target`). What regular files hold makes no difference
to paths, directories and the opening of output files (`FileTree.emptied`, `OutputFiles.open_emptied`). An output file that was
opened is empty, and what other regular files hold is as before (`Opens`).
-/

namespace StagedLaunch

/-! ## Places -/

namespace FileTree

variable {t t' : FileTree} {path : String} {p q : Place}

/-- The place of a target. -/
def Target.place : Target → Place
  | .directory p => p
  | .entry dir name _ => dir ++ [name]

/-- Nothing but slashes at the end of a path leads on. -/
theorem follow_of_slashes {dir : Place} {rest : List String} (h : rest.all (· == "") = true) : Path.follow dir rest = dir := by
  induction rest with
  | nil => rfl
  | cons name rest ih =>
    rw [List.all_cons, Bool.and_eq_true] at h
    rw [Path.follow, h.1, Bool.true_or, if_pos rfl, ih h.2]

theorem place_of_walk {dir : Place} {parts : List String} {target : Target} (h : t.walk dir parts = .ok target) :
    target.place = Path.follow dir parts := by
  fun_induction walk t dir parts with
  | case1 dir =>
    cases h
    rfl
  | case2 dir name rest hskip ih => rw [Path.follow, if_pos hskip, ih h]
  | case3 dir name rest hskip hup ih => rw [Path.follow, if_neg hskip, if_pos hup, ih h]
  | case4 dir name rest hskip hup hslashes hlong => cases h
  | case5 dir name rest hskip hup hslashes hlong =>
    cases h
    rw [Path.follow, if_neg hskip, if_neg hup, follow_of_slashes hslashes]
    rfl
  | case6 dir name rest hskip hup hslashes dir' henter ih =>
    have hdir : dir' = dir ++ [name] := by
      unfold enter at henter
      split at henter
      · cases henter
      · split at henter
        · cases henter
          rfl
        · cases henter
        · cases henter
    rw [Path.follow, if_neg hskip, if_neg hup, ih h, hdir]
  | case7 dir name rest hskip hup hslashes e henter => cases h

theorem place_of_target {target : Target} (h : t.target path = .ok target) : target.place = Path.place t.cwd path := by
  unfold FileTree.target at h
  split at h
  · cases h
  · split at h
    · cases h
    · split at h
      · cases h
      · exact place_of_walk h

/-- A regular file that a path names stands where the path leads. -/
theorem at?_of_find {bytes : List UInt8} {executable : Bool} (h : t.find path = .ok (p, .file bytes executable)) :
    p = Path.place t.cwd path ∧ t.at? p = some (.file bytes executable) := by
  unfold find at h
  split at h
  · cases h
  · cases h
  · rename_i dir name slash htarget
    split at h
    · cases h
    · cases h
    · rename_i node hnode hat
      split at h
      · cases h
      · cases h
        exact ⟨place_of_target htarget, hat⟩

/-- A path names the same in trees in which it has the same target and the same stands there. -/
theorem find_eq_of_at?_eq (htarget : t'.target path = t.target path)
    (hat : t'.at? (Path.place t.cwd path) = t.at? (Path.place t.cwd path)) : t'.find path = t.find path := by
  unfold find
  rw [htarget]
  rcases h : t.target path with e | p | ⟨dir, name, slash⟩
  · rfl
  · rfl
  · have hplace : dir ++ [name] = Path.place t.cwd path := place_of_target h
    simp only [hplace, hat]

/-! ## What was put somewhere -/

/-- What stands at a place when everything was changed where it stands. -/
theorem lookup_map (change : Place → FileNode → FileNode) (nodes : List (Place × FileNode)) (p : Place) :
    (nodes.map fun e => (e.1, change e.1 e.2)).lookup p = (nodes.lookup p).map (change p) := by
  induction nodes with
  | nil => rfl
  | cons e nodes ih =>
    rw [List.map_cons, List.lookup_cons, List.lookup_cons, ih]
    cases hp : p == e.1 with
    | true => rw [eq_of_beq hp]; rfl
    | false => rfl

theorem at?_of_ne_nil (t : FileTree) (hp : p ≠ []) : t.at? p = t.nodes.lookup p := by
  rw [at?, if_neg (by simpa using hp)]

/-- What is put where something stands replaces it. -/
theorem nodes_set_of_some (t : FileTree) (node : FileNode) (h : (t.at? p).isSome = true) :
    (t.set p node).nodes = t.nodes.map fun e => (e.1, if e.1 == p then node else e.2) := by
  rw [set, if_pos h]
  refine List.map_congr_left fun e _ => ?_
  split
  · rename_i heq
    rw [eq_of_beq heq]
  · rfl

theorem nodes_set_of_none (t : FileTree) (node : FileNode) (h : t.at? p = none) :
    (t.set p node).nodes = t.nodes ++ [(p, node)] := by
  rw [set, h]
  rfl

theorem at?_set (t : FileTree) (node : FileNode) (hp : p ≠ []) (q : Place) :
    (t.set p node).at? q = if q = p then some node else t.at? q := by
  by_cases hq : q = []
  · rw [if_neg fun heq => hp (heq.symm.trans hq), hq]
    rfl
  rw [at?_of_ne_nil _ hq, at?_of_ne_nil _ hq]
  cases hat : t.at? p with
  | none =>
    rw [nodes_set_of_none t node hat, List.lookup_append, List.lookup_cons]
    by_cases hqp : q = p
    · rw [if_pos hqp, hqp, ← at?_of_ne_nil t hp, hat, beq_self_eq_true]
      rfl
    · rw [if_neg hqp, beq_eq_false_iff_ne.2 hqp]
      exact Option.or_none
  | some old =>
    rw [nodes_set_of_some t node (hat ▸ rfl), lookup_map fun place old => if place == p then node else old]
    by_cases hqp : q = p
    · rw [if_pos hqp, hqp, ← at?_of_ne_nil t hp, hat, Option.map_some, if_pos (beq_self_eq_true p)]
    · rw [if_neg hqp]
      simp [hqp]

/-- Nothing is different but that directories may have been added. -/
structure AddsDirectories (t t' : FileTree) : Prop where
  /-- The working directory is the same. -/
  cwd_eq : t'.cwd = t.cwd
  /-- A regular file was there before. -/
  file : ∀ {p bytes executable}, t'.at? p = some (.file bytes executable) → t.at? p = some (.file bytes executable)

theorem AddsDirectories.refl (t : FileTree) : AddsDirectories t t := ⟨rfl, id⟩

theorem AddsDirectories.trans {t₁ t₂ t₃ : FileTree} (h : AddsDirectories t₁ t₂) (h' : AddsDirectories t₂ t₃) :
    AddsDirectories t₁ t₃ := ⟨h'.cwd_eq.trans h.cwd_eq, h.file ∘ h'.file⟩

theorem cwd_set (t : FileTree) (p : Place) (node : FileNode) : (t.set p node).cwd = t.cwd := by
  unfold set
  split
  · rfl
  · rfl

theorem locked_set (t : FileTree) (p : Place) (node : FileNode) : (t.set p node).locked = t.locked := by
  unfold set
  split
  · rfl
  · rfl

/-- A directory that is made is put where the path leads, where nothing stood before. -/
theorem set_of_makeDirectory (h : t.makeDirectory path = .ok t') :
    ∃ p, p ≠ [] ∧ t.at? p = none ∧ t' = t.set p .directory := by
  unfold makeDirectory at h
  split at h
  · cases h
  · cases h
  · split at h
    · cases h
    · rename_i hnone
      split at h
      · cases h
      · cases h
        exact ⟨_, by simp, Option.not_isSome_iff_eq_none.1 hnone, rfl⟩

theorem addsDirectories_of_makeDirectory (h : t.makeDirectory path = .ok t') : AddsDirectories t t' := by
  obtain ⟨p, hne, -, rfl⟩ := set_of_makeDirectory h
  refine ⟨cwd_set .., fun hat => ?_⟩
  rw [at?_set t _ hne] at hat
  split at hat
  · cases hat
  · exact hat

/-- What making one directory brings about, making several does. -/
theorem makeAll_induction {R : FileTree → FileTree → Prop} (hrefl : ∀ t, R t t)
    (htrans : ∀ {t₁ t₂ t₃}, R t₁ t₂ → R t₂ t₃ → R t₁ t₃) (hmake : ∀ {t t' path}, t.makeDirectory path = .ok t' → R t t')
    (t : FileTree) (paths : List String) : R t (t.makeAll paths).2 := by
  induction paths generalizing t with
  | nil => exact hrefl t
  | cons path above ih =>
    unfold makeAll
    split
    · exact hrefl t
    · split
      · rename_i t' h
        exact hmake h
      · split
        · have habove := ih t
          rcases hmade : t.makeAll above with ⟨e | u, t'⟩
          · rw [hmade] at habove
            exact habove
          · rw [hmade] at habove
            dsimp only
            split
            · rename_i t'' h
              exact htrans habove (hmake h)
            · split
              · exact habove
              · exact habove
        · split
          · exact hrefl t
          · exact hrefl t

/-- A file at a place is opened: it is empty if it is a regular file, and what regular files hold elsewhere was there before. -/
structure Opens (t t' : FileTree) (p : Place) : Prop where
  /-- The working directory is the same. -/
  cwd_eq : t'.cwd = t.cwd
  /-- The file is empty. -/
  empty : ∀ {bytes executable}, t'.at? p = some (.file bytes executable) → bytes = []
  /-- Any other regular file was there before. -/
  file : ∀ {q bytes executable}, q ≠ p → t'.at? q = some (.file bytes executable) → t.at? q = some (.file bytes executable)

theorem Opens.after {t₁ t₂ t₃ : FileTree} (h : AddsDirectories t₁ t₂) (h' : Opens t₂ t₃ p) : Opens t₁ t₃ p :=
  ⟨h'.cwd_eq.trans h.cwd_eq, h'.empty, fun hq => h.file ∘ h'.file hq⟩

/-- To put a file somewhere that is empty if it is a regular file opens it. -/
theorem opens_set (t : FileTree) {node : FileNode} (hp : p ≠ []) (hnode : ∀ bytes executable, node = .file bytes executable →
    bytes = []) : Opens t (t.set p node) p where
  cwd_eq := cwd_set ..
  empty hat := by
    rw [at?_set t node hp, if_pos rfl] at hat
    exact hnode _ _ (Option.some.inj hat)
  file hq hat := by rwa [at?_set t node hp, if_neg hq] at hat

/-- What stands where a file was opened is no directory if there was none, and no regular file that holds something. -/
theorem opened_blank {node? : Option FileNode} (h : node? ≠ some .directory) :
    FileNode.opened node? ≠ .directory ∧ ∀ bytes executable, FileNode.opened node? = .file bytes executable → bytes = [] := by
  rcases node? with _ | _ | ⟨old, runs⟩ | _ | _
  · exact ⟨nofun, fun _ _ hfile => by cases hfile; rfl⟩
  · exact absurd rfl h
  · exact ⟨nofun, fun _ _ hfile => by cases hfile; rfl⟩
  · exact ⟨nofun, nofun⟩
  · exact ⟨nofun, fun _ _ hfile => by cases hfile; rfl⟩

/-- A file that is opened for writing is put where the path leads: neither a directory nor a regular file that holds something. -/
theorem set_of_create (h : t.create path = .ok (p, t')) :
    p = Path.place t.cwd path ∧ p ≠ [] ∧ ∃ node, t' = t.set p node ∧ node ≠ .directory ∧
      ∀ bytes executable, node = .file bytes executable → bytes = [] := by
  unfold create at h
  split at h
  · cases h
  · cases h
  · rename_i dir name slash htarget
    dsimp only at h
    split at h
    · cases h
    · rename_i hfree
      split at h
      · cases h
      · cases h
        have hdirectory : t.at? (dir ++ [name]) ≠ some .directory := fun hat => hfree (by simp [hat])
        exact ⟨place_of_target htarget, by simp, _, rfl, opened_blank hdirectory⟩

theorem opens_of_create (h : t.create path = .ok (p, t')) : p = Path.place t.cwd path ∧ Opens t t' p := by
  obtain ⟨hplace, hne, node, rfl, -, hnode⟩ := set_of_create h
  exact ⟨hplace, opens_set t hne hnode⟩

end FileTree

open FileTree

/-- What making directories brings about, making those above an output file does. -/
theorem makeParent_induction {R : FileTree → FileTree → Prop} (hrefl : ∀ t, R t t)
    (hmake : ∀ t paths, R t (t.makeAll paths).2) (t : FileTree) (path : String) : R t (makeParent t path).2 := by
  unfold makeParent
  split
  · rename_i parent hparent
    split
    · exact hrefl t
    · have hmade : R t (t.makeDirectories parent).2 := hmake t _
      rcases h : t.makeDirectories parent with ⟨e | u, t'⟩
      · rwa [h] at hmade
      · rwa [h] at hmade
  · exact hrefl t

theorem addsDirectories_makeParent (t : FileTree) (path : String) : AddsDirectories t (makeParent t path).2 :=
  makeParent_induction .refl (makeAll_induction .refl .trans addsDirectories_of_makeDirectory) t path

/-- An output file is opened where its path leads, or it is not opened and only directories are added. -/
theorem openOutput_cases (t : FileTree) (path : String) :
    (∃ e t', openOutput t path = (.error e, t') ∧ AddsDirectories t t') ∨
      ∃ t', openOutput t path = (.ok (Path.place t.cwd path), t') ∧ Opens t t' (Path.place t.cwd path) := by
  have hmade := addsDirectories_makeParent t path
  unfold openOutput
  rcases h : makeParent t path with ⟨e | u, t₁⟩
  · rw [h] at hmade
    exact Or.inl ⟨e, t₁, rfl, hmade⟩
  · rw [h] at hmade
    rcases hcreate : t₁.create path with e | ⟨p, t₂⟩
    · simp only [hcreate]
      exact Or.inl ⟨_, t₁, rfl, hmade⟩
    · simp only [hcreate]
      obtain ⟨rfl, hopens⟩ := opens_of_create hcreate
      rw [hmade.cwd_eq] at hopens ⊢
      exact Or.inr ⟨t₂, rfl, hopens.after hmade⟩

/-! ## Opening output files -/

/-- One of the outputs of a process. -/
inductive OutputStream where
  /-- The standard output. -/
  | out
  /-- The standard error. -/
  | err
deriving DecidableEq, Repr

/-- The path of the file for an output. -/
def OutputFiles.path (files : OutputFiles) : OutputStream → String
  | .out => files.stdout
  | .err => files.stderr

/-- The place of the file for an output. -/
def OutputFiles.place (files : OutputFiles) (cwd : Place) (stream : OutputStream) : Place := Path.place cwd (files.path stream)

/-- The outputs whose files are opened in a tree. -/
def OutputFiles.opened (files : OutputFiles) (t : FileTree) : List OutputStream :=
  match openOutput t files.stdout with
  | (.error _, _) => []
  | (.ok _, t) =>
    match openOutput t files.stderr with
    | (.error _, _) => [.out]
    | (.ok _, _) => [.out, .err]

/-- Output files are opened: those that were opened are empty if they are regular files, and what regular files hold elsewhere
was there before. When all is well both were opened. -/
structure OpensOutputs (files : OutputFiles) (t t' : FileTree) (result : Except LaunchError (Place × Place)) : Prop where
  /-- The working directory is the same. -/
  cwd_eq : t'.cwd = t.cwd
  /-- What was opened is empty. -/
  empty : ∀ {stream bytes executable}, stream ∈ files.opened t →
    t'.at? (files.place t.cwd stream) = some (.file bytes executable) → bytes = []
  /-- Any other regular file was there before. -/
  file : ∀ {q bytes executable}, (∀ stream ∈ files.opened t, q ≠ files.place t.cwd stream) →
    t'.at? q = some (.file bytes executable) → t.at? q = some (.file bytes executable)
  /-- When all is well both were opened, where their paths lead. -/
  all : ∀ places, result = .ok places →
    files.opened t = [.out, .err] ∧ places = (files.place t.cwd .out, files.place t.cwd .err)

theorem OutputFiles.opensOutputs (files : OutputFiles) (t : FileTree) :
    OpensOutputs files t (files.open t).2 (files.open t).1 := by
  unfold OutputFiles.open
  rcases openOutput_cases t files.stdout with ⟨e, t₁, hout, hadds⟩ | ⟨t₁, hout, hopens⟩
  · have hopened : files.opened t = [] := by simp only [opened, hout]
    rw [hout]
    exact ⟨hadds.cwd_eq, by simp [hopened], fun _ => hadds.file, nofun⟩
  · rcases openOutput_cases t₁ files.stderr with ⟨e, t₂, herr, hadds⟩ | ⟨t₂, herr, hopens'⟩
    · have hopened : files.opened t = [.out] := by simp only [opened, hout, herr]
      simp only [hout, herr]
      refine ⟨hadds.cwd_eq.trans hopens.cwd_eq, fun hstream hat => ?_, fun hq hat => ?_, nofun⟩
      · rw [hopened, List.mem_singleton] at hstream
        subst hstream
        exact hopens.empty (hadds.file hat)
      · exact hopens.file (hq .out (by simp [hopened])) (hadds.file hat)
    · have hopened : files.opened t = [.out, .err] := by simp only [opened, hout, herr]
      simp only [hout, herr]
      rw [hopens.cwd_eq] at herr hopens' ⊢
      refine ⟨hopens'.cwd_eq.trans hopens.cwd_eq, fun {stream bytes executable} hstream hat => ?_, fun hq hat => ?_, ?_⟩
      · by_cases hsame : files.place t.cwd stream = Path.place t.cwd files.stderr
        · exact hopens'.empty (hsame ▸ hat)
        · have hat' := hopens'.file hsame hat
          cases stream with
          | out => exact hopens.empty hat'
          | err => exact absurd rfl hsame
      · exact hopens.file (hq .out (by simp [hopened])) (hopens'.file (hq .err (by simp [hopened])) hat)
      · rintro places hplaces
        cases hplaces
        exact ⟨hopened, rfl⟩

/-! ## What files hold makes no difference -/

/-- A node that holds nothing. -/
def FileNode.emptied : FileNode → FileNode
  | .file _ executable => .file [] executable
  | node => node

/-- A node that holds nothing if it stands at one of some places. -/
def FileNode.emptiedAt (places : List Place) (p : Place) (node : FileNode) : FileNode :=
  if p ∈ places then node.emptied else node

/-- A tree in which regular files at some places are empty. -/
def FileTree.emptied (places : List Place) (t : FileTree) : FileTree :=
  { t with nodes := t.nodes.map fun e => (e.1, e.2.emptiedAt places e.1) }

section Emptied

variable (places : List Place) (t : FileTree)

theorem emptiedAt_directory (p : Place) : FileNode.directory.emptiedAt places p = .directory := by
  unfold FileNode.emptiedAt
  split
  · rfl
  · rfl

theorem emptiedAt_file (p : Place) (bytes : List UInt8) (executable : Bool) :
    ∃ bytes', (FileNode.file bytes executable).emptiedAt places p = .file bytes' executable := by
  unfold FileNode.emptiedAt
  split
  · exact ⟨[], rfl⟩
  · exact ⟨bytes, rfl⟩

/-- What holds nothing anyway stays as it is. -/
theorem emptiedAt_of_emptied {node : FileNode} (h : node.emptied = node) (p : Place) : node.emptiedAt places p = node := by
  unfold FileNode.emptiedAt
  split
  · exact h
  · rfl

theorem at?_emptied (p : Place) : (t.emptied places).at? p = (t.at? p).map (FileNode.emptiedAt places p) := by
  unfold FileTree.at?
  split
  · rw [Option.map_some, emptiedAt_directory]
  · exact lookup_map (fun place node => node.emptiedAt places place) t.nodes p

theorem set_emptied (p : Place) (node : FileNode) :
    (t.emptied places).set p (node.emptiedAt places p) = (t.set p node).emptied places := by
  unfold FileTree.set
  rw [at?_emptied, Option.isSome_map]
  split
  · refine FileTree.ext rfl ?_ rfl
    simp only [FileTree.emptied, List.map_map]
    refine List.map_congr_left fun e _ => ?_
    simp only [Function.comp_apply]
    split
    · rfl
    · rfl
  · simp [FileTree.emptied]

theorem enter_emptied (dir : Place) (name : String) : (t.emptied places).enter dir name = t.enter dir name := by
  unfold FileTree.enter
  rw [at?_emptied]
  rcases t.at? (dir ++ [name]) with _ | _ | ⟨bytes, executable⟩ | _ | _
  · rfl
  · rw [Option.map_some, emptiedAt_directory]
  · obtain ⟨bytes', hfile⟩ := emptiedAt_file places (dir ++ [name]) bytes executable
    rw [Option.map_some, hfile]
  · rw [Option.map_some, emptiedAt_of_emptied places rfl]
  · rw [Option.map_some, emptiedAt_of_emptied places rfl]

theorem walk_emptied (dir : Place) (parts : List String) : (t.emptied places).walk dir parts = t.walk dir parts := by
  induction parts generalizing dir with
  | nil => rfl
  | cons name rest ih => simp only [FileTree.walk, enter_emptied, ih]

theorem target_emptied (path : String) : (t.emptied places).target path = t.target path := by
  simp only [FileTree.target, walk_emptied]
  rfl

/-- What a path names, but for what it holds. -/
theorem find_emptied (path : String) :
    (t.emptied places).find path = (t.find path).map fun e => (e.1, e.2.emptiedAt places e.1) := by
  unfold FileTree.find
  rw [target_emptied]
  rcases t.target path with e | p | ⟨dir, name, slash⟩
  · rfl
  · simp only [Except.map, emptiedAt_directory]
  · simp only [at?_emptied]
    rcases t.at? (dir ++ [name]) with _ | _ | ⟨bytes, executable⟩ | _ | _
    · rfl
    · simp only [Option.map_some, emptiedAt_directory, Except.map]
    · obtain ⟨bytes', hfile⟩ := emptiedAt_file places (dir ++ [name]) bytes executable
      simp only [Option.map_some, hfile]
      split
      · rfl
      · simp only [Except.map, hfile]
    · simp only [Option.map_some, emptiedAt_of_emptied places (rfl : FileNode.sink.emptied = .sink)]
      split
      · rfl
      · simp only [Except.map, emptiedAt_of_emptied places (rfl : FileNode.sink.emptied = .sink)]
    · simp only [Option.map_some, emptiedAt_of_emptied places (rfl : FileNode.program.emptied = .program)]
      split
      · rfl
      · simp only [Except.map, emptiedAt_of_emptied places (rfl : FileNode.program.emptied = .program)]

theorem isDirectory_emptied (path : String) : (t.emptied places).isDirectory path = t.isDirectory path := by
  unfold FileTree.isDirectory
  rw [find_emptied]
  rcases t.find path with e | ⟨p, _ | ⟨bytes, executable⟩ | _ | _⟩
  · rfl
  · simp only [Except.map, emptiedAt_directory]
  · obtain ⟨bytes', hfile⟩ := emptiedAt_file places p bytes executable
    simp only [Except.map, hfile]
  · simp only [Except.map, emptiedAt_of_emptied places (rfl : FileNode.sink.emptied = .sink)]
  · simp only [Except.map, emptiedAt_of_emptied places (rfl : FileNode.program.emptied = .program)]

theorem isFile_emptied (path : String) : (t.emptied places).isFile path = t.isFile path := by
  unfold FileTree.isFile
  rw [find_emptied]
  rcases t.find path with e | ⟨p, _ | ⟨bytes, executable⟩ | _ | _⟩
  · rfl
  · simp only [Except.map, emptiedAt_directory]
  · obtain ⟨bytes', hfile⟩ := emptiedAt_file places p bytes executable
    simp only [Except.map, hfile]
  · simp only [Except.map, emptiedAt_of_emptied places (rfl : FileNode.sink.emptied = .sink)]
  · simp only [Except.map, emptiedAt_of_emptied places (rfl : FileNode.program.emptied = .program)]

theorem verify_emptied (plan : Plan) : (t.emptied places).verify plan = t.verify plan := by
  simp only [FileTree.verify, isFile_emptied]

theorem isLocked_emptied (p : Place) : (t.emptied places).isLocked p = t.isLocked p := by
  unfold FileTree.isLocked
  rw [at?_emptied, Option.isSome_map]
  rfl

theorem makeDirectory_emptied (path : String) :
    (t.emptied places).makeDirectory path = (t.makeDirectory path).map (FileTree.emptied places) := by
  unfold FileTree.makeDirectory
  rw [target_emptied]
  rcases t.target path with e | p | ⟨dir, name, slash⟩
  · rfl
  · rfl
  · simp only [at?_emptied, Option.isSome_map, isLocked_emptied]
    split
    · rfl
    · split
      · rfl
      · rw [Except.map, ← set_emptied, emptiedAt_directory]

theorem makeAll_emptied (paths : List String) :
    (t.emptied places).makeAll paths = ((t.makeAll paths).1, (t.makeAll paths).2.emptied places) := by
  induction paths generalizing t with
  | nil => rfl
  | cons path above ih =>
    unfold FileTree.makeAll
    split
    · rfl
    · rw [makeDirectory_emptied, isDirectory_emptied, ih]
      rcases t.makeDirectory path with e | t₁
      · dsimp only [Except.map]
        split
        · rcases t.makeAll above with ⟨e' | u, t₂⟩
          · rfl
          · dsimp only
            rw [makeDirectory_emptied, isDirectory_emptied]
            rcases t₂.makeDirectory path with e' | t₃
            · dsimp only [Except.map]
              split
              · rfl
              · rfl
            · rfl
        · split
          · rfl
          · rfl
      · rfl

/-- What was opened holds nothing, whatever it held before. -/
theorem opened_emptied (p : Place) (node? : Option FileNode) :
    FileNode.opened (node?.map (FileNode.emptiedAt places p)) = (FileNode.opened node?).emptiedAt places p := by
  rcases node? with _ | _ | ⟨bytes, executable⟩ | _ | _
  · exact (emptiedAt_of_emptied places rfl p).symm
  · rw [Option.map_some, emptiedAt_directory]
    exact (emptiedAt_directory places p).symm
  · obtain ⟨bytes', hfile⟩ := emptiedAt_file places p bytes executable
    rw [Option.map_some, hfile]
    exact (emptiedAt_of_emptied places rfl p).symm
  · rw [Option.map_some, emptiedAt_of_emptied places rfl]
    exact (emptiedAt_of_emptied places rfl p).symm
  · rw [Option.map_some, emptiedAt_of_emptied places rfl]
    exact (emptiedAt_of_emptied places rfl p).symm

/-- A node is a directory just when it is one whatever it holds. -/
theorem map_emptiedAt_eq_directory (p : Place) (node? : Option FileNode) :
    node?.map (FileNode.emptiedAt places p) = some .directory ↔ node? = some .directory := by
  rcases node? with _ | _ | ⟨bytes, executable⟩ | _ | _
  · simp
  · simp [emptiedAt_directory]
  · obtain ⟨bytes', hfile⟩ := emptiedAt_file places p bytes executable
    simp [hfile]
  · simp [emptiedAt_of_emptied places (rfl : FileNode.sink.emptied = .sink)]
  · simp [emptiedAt_of_emptied places (rfl : FileNode.program.emptied = .program)]

theorem create_emptied (path : String) :
    (t.emptied places).create path = (t.create path).map fun e => (e.1, e.2.emptied places) := by
  unfold FileTree.create
  rw [target_emptied]
  rcases t.target path with e | p | ⟨dir, name, slash⟩
  · rfl
  · rfl
  · have hdirectory : ((t.emptied places).at? (dir ++ [name]) == some .directory) =
        (t.at? (dir ++ [name]) == some .directory) := by
      rw [Bool.eq_iff_iff, beq_iff_eq, beq_iff_eq, at?_emptied, map_emptiedAt_eq_directory]
    simp only [hdirectory, isLocked_emptied]
    split
    · rfl
    · split
      · rfl
      · rw [Except.map, ← set_emptied, at?_emptied, opened_emptied]

theorem makeParent_emptied (path : String) :
    makeParent (t.emptied places) path = ((makeParent t path).1, (makeParent t path).2.emptied places) := by
  unfold makeParent
  split
  · rename_i parent hparent
    split
    · rfl
    · have hmade : (t.emptied places).makeDirectories parent = _ := makeAll_emptied places t _
      rw [hmade]
      rcases h : t.makeAll (FileTree.ancestors parent.length parent) with ⟨e | u, t₁⟩
      · simp only [FileTree.makeDirectories, h]
      · simp only [FileTree.makeDirectories, h]
  · rfl

theorem openOutput_emptied (path : String) :
    openOutput (t.emptied places) path = ((openOutput t path).1, (openOutput t path).2.emptied places) := by
  unfold openOutput
  rw [makeParent_emptied]
  rcases makeParent t path with ⟨e | u, t₁⟩
  · rfl
  · simp only [create_emptied]
    rcases t₁.create path with e | ⟨p, t₂⟩
    · rfl
    · rfl

/-- Output files are opened alike, whatever they hold. -/
theorem OutputFiles.open_emptied (files : OutputFiles) :
    files.open (t.emptied places) = ((files.open t).1, (files.open t).2.emptied places) := by
  unfold OutputFiles.open
  rw [openOutput_emptied]
  rcases openOutput t files.stdout with ⟨e | out, t₁⟩
  · rfl
  · simp only [openOutput_emptied]
    rcases openOutput t₁ files.stderr with ⟨e | err, t₂⟩
    · rfl
    · rfl

end Emptied

end StagedLaunch
