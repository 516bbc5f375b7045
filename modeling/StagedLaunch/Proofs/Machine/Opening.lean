import StagedLaunch.Proofs.Machine.FileTree

/-!
# What opening output files leaves as it was

When output files are opened, a place that is not one of theirs keeps what stands there, or gets a directory if nothing stands
there, since the directories above the files are made; each file that was opened is there and holds nothing
(`OutputFiles.open_touches`).
-/

namespace StagedLaunch

namespace FileTree

variable {t t' : FileTree} {path : String} {p q : Place}

/-- At a place stands what stood there before, or a directory where nothing stood. -/
def KeptAt (p : Place) (t t' : FileTree) : Prop :=
  t'.at? p = t.at? p ∨ t.at? p = none ∧ t'.at? p = some .directory

theorem KeptAt.refl (p : Place) (t : FileTree) : KeptAt p t t := .inl rfl

theorem KeptAt.trans {t₁ t₂ t₃ : FileTree} (h : KeptAt p t₁ t₂) (h' : KeptAt p t₂ t₃) : KeptAt p t₁ t₃ := by
  rcases h' with h' | ⟨hnone, hdirectory⟩
  · rcases h with h | ⟨hnone, hdirectory⟩
    · exact .inl (h'.trans h)
    · exact .inr ⟨hnone, h'.trans hdirectory⟩
  · rcases h with h | ⟨-, hdirectory'⟩
    · exact .inr ⟨h.symm.trans hnone, hdirectory⟩
    · rw [hdirectory'] at hnone
      cases hnone

/-- What stood at a place that was kept stands there still. -/
theorem KeptAt.at?_eq (h : KeptAt p t t') {node : FileNode} (hnode : t.at? p = some node) : t'.at? p = some node := by
  rcases h with h | ⟨hnone, -⟩
  · rw [h, hnode]
  · rw [hnode] at hnone
    cases hnone

theorem keptAt_set (t : FileTree) (node : FileNode) (hp : p ≠ []) (hq : q ≠ p) : KeptAt q t (t.set p node) :=
  .inl (by rw [at?_set t node hp, if_neg hq])

theorem keptAt_of_makeDirectory (p : Place) (h : t.makeDirectory path = .ok t') : KeptAt p t t' := by
  obtain ⟨q, hne, hnone, rfl⟩ := set_of_makeDirectory h
  by_cases hp : p = q
  · subst hp
    exact .inr ⟨hnone, by rw [at?_set t _ hne, if_pos rfl]⟩
  · exact keptAt_set t _ hne hp

end FileTree

open FileTree

theorem keptAt_makeParent (p : Place) (t : FileTree) (path : String) : KeptAt p t (makeParent t path).2 :=
  makeParent_induction (KeptAt.refl p) (makeAll_induction (KeptAt.refl p) .trans (keptAt_of_makeDirectory p)) t path

/-- A file that was opened is there: it is no directory, and it holds nothing if it is a regular file. -/
def FileTree.Blank (t : FileTree) (p : Place) : Prop :=
  ∃ node, t.at? p = some node ∧ node ≠ .directory ∧ ∀ bytes executable, node = .file bytes executable → bytes = []

theorem FileTree.Blank.of_keptAt {t t' : FileTree} {p : Place} (h : t.Blank p) (hkept : KeptAt p t t') : t'.Blank p := by
  obtain ⟨node, hnode, hblank⟩ := h
  exact ⟨node, hkept.at?_eq hnode, hblank⟩

/-- A place is kept unless an output file is opened there, which is blank then. -/
theorem openOutput_touches (t : FileTree) (path : String) :
    (∃ e, (openOutput t path).1 = .error e ∧ ∀ p, KeptAt p t (openOutput t path).2) ∨
      ((openOutput t path).1 = .ok (Path.place t.cwd path) ∧ (openOutput t path).2.Blank (Path.place t.cwd path) ∧
        ∀ p, p ≠ Path.place t.cwd path → KeptAt p t (openOutput t path).2) := by
  have hkept (p : Place) := keptAt_makeParent p t path
  have hcwd := (addsDirectories_makeParent t path).cwd_eq
  unfold openOutput
  rcases h : makeParent t path with ⟨e | u, t₁⟩
  · rw [h] at hkept
    exact .inl ⟨e, rfl, hkept⟩
  · rw [h] at hkept hcwd
    rcases hcreate : t₁.create path with e | ⟨p, t₂⟩
    · simp only [hcreate]
      exact .inl ⟨_, rfl, hkept⟩
    · obtain ⟨hplace, hne, node, rfl, hnode⟩ := set_of_create hcreate
      rw [hcwd] at hplace
      simp only [hcreate]
      rw [← hplace]
      refine .inr ⟨rfl, ⟨node, by rw [at?_set t₁ node hne, if_pos rfl], hnode⟩, fun q hq => ?_⟩
      exact (hkept q).trans (keptAt_set t₁ node hne hq)

/-- What opening output files does to a tree. -/
structure TouchesOutputs (files : OutputFiles) (t t' : FileTree) : Prop where
  /-- What was opened is blank. -/
  blank : ∀ stream ∈ files.opened t, t'.Blank (files.place t.cwd stream)
  /-- Any other place is kept. -/
  kept : ∀ p, (∀ stream ∈ files.opened t, p ≠ files.place t.cwd stream) → KeptAt p t t'

theorem OutputFiles.open_touches (files : OutputFiles) (t : FileTree) : TouchesOutputs files t (files.open t).2 := by
  have hout := openOutput_touches t files.stdout
  have hcwd : (openOutput t files.stdout).2.cwd = t.cwd := by
    rcases openOutput_cases t files.stdout with ⟨e, t₁, h, hadds⟩ | ⟨t₁, h, hopens⟩
    · rw [h, hadds.cwd_eq]
    · rw [h, hopens.cwd_eq]
  unfold OutputFiles.open
  rcases h : openOutput t files.stdout with ⟨e | p, t₁⟩
  · rw [h] at hout
    have hopened : files.opened t = [] := by simp only [opened, h]
    rcases hout with ⟨-, -, hkept⟩ | ⟨⟨⟩, -⟩
    exact ⟨by simp [hopened], fun p _ => hkept p⟩
  · rw [h] at hout hcwd
    rcases hout with ⟨e, ⟨⟩, -⟩ | ⟨-, hblank, hkept⟩
    have herr := openOutput_touches t₁ files.stderr
    rcases h' : openOutput t₁ files.stderr with ⟨e | q, t₂⟩
    · rw [h'] at herr
      have hopened : files.opened t = [.out] := by simp only [opened, h, h']
      rcases herr with ⟨-, -, hkept'⟩ | ⟨⟨⟩, -⟩
      simp only [h']
      refine ⟨fun stream hstream => ?_, fun p hp => ?_⟩
      · rw [hopened, List.mem_singleton] at hstream
        subst hstream
        exact hblank.of_keptAt (hkept' _)
      · exact (hkept p (hp .out (by simp [hopened]))).trans (hkept' p)
    · rw [h', hcwd] at herr
      have hopened : files.opened t = [.out, .err] := by simp only [opened, h, h']
      rcases herr with ⟨e, ⟨⟩, -⟩ | ⟨-, hblank', hkept'⟩
      simp only [h']
      refine ⟨fun stream hstream => ?_, fun p hp => ?_⟩
      · by_cases hsame : files.place t.cwd stream = Path.place t.cwd files.stderr
        · rwa [hsame]
        · cases stream with
          | out => exact hblank.of_keptAt (hkept' _ hsame)
          | err => exact absurd rfl hsame
      · exact (hkept p (hp .out (by simp [hopened]))).trans (hkept' p (hp .err (by simp [hopened])))

end StagedLaunch
