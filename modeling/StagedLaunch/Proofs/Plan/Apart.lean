import StagedLaunch.Host.Loading
import StagedLaunch.Proofs.Plan.Places

/-!
# Processes and cases are kept apart

However the directories of a layout are written, the processes of a case have names and output files of their own, no output goes
to an executable, and an executable is named by a path with a slash, so that the file that was looked for is the file that is
started (`Plan.KeepsApart`). Two cases have no executable in common (`Plan.ofCase_keepsApart`).
-/

namespace StagedLaunch

namespace Path

/-- Two paths are apart: they differ component by component, and they lead to different places from every working directory. -/
structure Apart (p q : String) : Prop where
  /-- They are not the same path. -/
  not_same : ¬Same p q
  /-- They do not lead to the same place. -/
  place_ne : ∀ cwd, place cwd p ≠ place cwd q

/-- Paths that lead to different places are not the same path. -/
theorem apart_of_place_ne {p q : String} (h : ∀ cwd, place cwd p ≠ place cwd q) : Apart p q :=
  ⟨fun hsame => h [] (place_eq_of_same hsame []), h⟩

theorem join_ne_empty (p : String) {q : String} (hq : q ≠ "") : join p q ≠ "" := by
  unfold join
  split
  · exact hq
  · split
    · intro h
      exact hq (String.append_eq_empty_iff.1 h).2
    · intro h
      exact hq (String.append_eq_empty_iff.1 h).2

/-- What stands in a directory is named with a slash, unless the directory is the empty path. -/
theorem slash_mem_join {p q : String} (hp : p ≠ "") (hq : isAbsolute q = false) : '/' ∈ (join p q).toList := by
  have hempty : p.isEmpty = false := by simpa using hp
  unfold join
  rw [hq, hempty, Bool.false_or, if_neg Bool.false_ne_true]
  split
  · rename_i hslash
    have hmem : '/' ∈ p.toList := List.mem_of_getLast? (eq_of_beq hslash)
    rw [String.toList_append]
    exact List.mem_append_left _ hmem
  · simp

end Path

/-! ## Executables -/

theorem isName_case (case : RunCase) : Path.IsName case.name := by
  cases case <;> exact ⟨by decide, by decide, by decide, by decide⟩

theorem isName_binary (role : Role) : Path.IsName role.binary := by
  cases role <;> exact ⟨by decide, by decide, by decide, by decide⟩

namespace Layout

variable (layout : Layout) (case : RunCase) (role : Role)

/-- An executable is two steps further than the build directory. -/
theorem place_executable (cwd : Place) :
    Path.place cwd (layout.executable case role) = Path.place cwd layout.buildDir ++ [case.name, role.binary] := by
  rw [executable, Path.place_join (isName_binary role), Path.place_join (isName_case case), List.append_assoc]
  rfl

theorem slash_mem_executable : '/' ∈ (layout.executable case role).toList :=
  Path.slash_mem_join (Path.join_ne_empty _ (isName_case case).empty) (isName_binary role).not_absolute

end Layout

/-- A program that is named with a slash is started from the file of that name, whatever the search path. -/
theorem Host.findProgram_of_slash {program : String} (h : '/' ∈ program.toList) (t : FileTree)
    (environment : List (String × String)) :
    findProgram t environment program = (findExecutable t program).map fun found => (program, found) := by
  have hempty : program.isEmpty = false := by
    rw [Bool.eq_false_iff]
    intro hnil
    rw [String.isEmpty_iff] at hnil
    subst hnil
    cases h
  unfold findProgram
  rw [if_neg (by simp [hempty]), if_pos (by simpa using h)]

/-- A path that names a regular file leads to it. -/
theorem FileTree.find_of_isFile {t : FileTree} {path : String} (h : t.isFile path = true) : ∃ p node, t.find path = .ok (p, node) := by
  unfold isFile at h
  rcases hfind : t.find path with e | ⟨p, node⟩
  · rw [hfind] at h
    cases h
  · exact ⟨p, node, rfl⟩

/-! ## Plans -/

namespace Plan

/-- The paths of the output files of a plan. -/
def outputPaths (plan : Plan) : List String := plan.specs.flatMap fun spec => [spec.output.stdout, spec.output.stderr]

/-- A plan keeps its processes apart. -/
structure KeepsApart (plan : Plan) : Prop where
  /-- Each process has a name of its own. -/
  names : (plan.specs.map LaunchSpec.name).Nodup
  /-- Each output has a file of its own. -/
  outputs : plan.outputPaths.Pairwise Path.Apart
  /-- No output goes to an executable. -/
  executables : ∀ path ∈ plan.outputPaths, ∀ spec ∈ plan.specs, Path.Apart path spec.program
  /-- An executable is named with a slash. -/
  slash : ∀ spec ∈ plan.specs, '/' ∈ spec.program.toList
  /-- An executable that is a file is what is started, if it can be run at all; no other file is, whatever the search path. -/
  started : ∀ spec ∈ plan.specs, ∀ t environment, t.isFile spec.program = true →
    ∃ p node, t.find spec.program = .ok (p, node) ∧ Host.findProgram t environment spec.program =
      if Host.isRunnableNode node then .ok (spec.program, p, node) else .error .denied

variable {case : RunCase} {p : Parameters}

theorem program_of_mem {spec : LaunchSpec} (h : spec ∈ (ofCase case p).specs) :
    spec.program = p.layout.executable case spec.role := by
  rw [specs_ofCase, List.mem_cons, List.mem_map] at h
  rcases h with rfl | ⟨client, -, rfl⟩
  · rfl
  · rfl

theorem nodup_names (case : RunCase) (p : Parameters) : ((ofCase case p).specs.map LaunchSpec.name).Nodup := by
  have hnames : ("server" :: (clients case).map Prod.fst).Nodup := by cases case <;> decide +kernel
  rw [specs_ofCase, List.map_cons, List.map_map]
  exact hnames

theorem map_place_outputPaths (plan : Plan) (cwd : Place) : plan.outputPaths.map (Path.place cwd) = plan.outputPlaces cwd := by
  unfold outputPaths outputPlaces
  rw [List.map_flatMap]
  rfl

/-- An output file of a case is one step further than the directory of output files, under one of its names. -/
theorem place_of_mem_outputPaths {path : String} (h : path ∈ (ofCase case p).outputPaths) (cwd : Place) :
    ∃ name ∈ outputNames case, Path.place cwd path = Path.place cwd p.layout.logDir ++ [name] := by
  have hplace : Path.place cwd path ∈ (ofCase case p).outputPlaces cwd := by
    rw [← map_place_outputPaths]
    exact List.mem_map_of_mem h
  rw [outputPlaces_ofCase] at hplace
  obtain ⟨name, hname, heq⟩ := List.mem_map.1 hplace
  exact ⟨name, hname, heq.symm⟩

theorem apart_outputPaths (case : RunCase) (p : Parameters) : (ofCase case p).outputPaths.Pairwise Path.Apart := by
  have hplaces (cwd : Place) :
      (ofCase case p).outputPaths.Pairwise fun path path' => Path.place cwd path ≠ Path.place cwd path' := by
    have hnodup := nodup_outputPlaces case p cwd
    rw [← map_place_outputPaths] at hnodup
    exact List.pairwise_map.1 hnodup
  refine List.pairwise_iff_getElem.2 fun i j hi hj hij => Path.apart_of_place_ne fun cwd => ?_
  exact List.pairwise_iff_getElem.1 (hplaces cwd) i j hi hj hij

/-- The name of an output file is that of no executable. -/
theorem apart_of_output {path : String} {spec : LaunchSpec} (hpath : path ∈ (ofCase case p).outputPaths)
    (hspec : spec ∈ (ofCase case p).specs) : Path.Apart path spec.program := by
  have hnames : ∀ name ∈ outputNames case, ∀ role ∈ Role.all, name ≠ role.binary := by cases case <;> decide +kernel
  have hrole : spec.role ∈ Role.all := by cases spec.role <;> decide
  refine Path.apart_of_place_ne fun cwd heq => ?_
  obtain ⟨name, hname, hplace⟩ := place_of_mem_outputPaths hpath cwd
  rw [hplace, program_of_mem hspec, Layout.place_executable] at heq
  have hlast := congrArg List.getLast? heq
  rw [List.getLast?_append, List.getLast?_append] at hlast
  exact hnames name hname spec.role hrole (by simpa using hlast)

/-- The executables of different cases are in different directories. -/
theorem apart_of_cases {other : RunCase} (hother : other ≠ case) {spec spec' : LaunchSpec} (hspec : spec ∈ (ofCase case p).specs)
    (hspec' : spec' ∈ (ofCase other p).specs) : Path.Apart spec.program spec'.program := by
  have hname : case.name ≠ other.name := by
    revert hother
    cases case <;> cases other <;> decide
  refine Path.apart_of_place_ne fun cwd heq => hname ?_
  rw [program_of_mem hspec, program_of_mem hspec', Layout.place_executable, Layout.place_executable] at heq
  have htail := List.append_cancel_left heq
  exact (List.cons.inj htail).1

theorem started_of_mem {spec : LaunchSpec} (h : spec ∈ (ofCase case p).specs) (t : FileTree)
    (environment : List (String × String)) (hfile : t.isFile spec.program = true) :
    ∃ place node, t.find spec.program = .ok (place, node) ∧ Host.findProgram t environment spec.program =
      if Host.isRunnableNode node then .ok (spec.program, place, node) else .error .denied := by
  have hslash : '/' ∈ spec.program.toList := program_of_mem h ▸ Layout.slash_mem_executable ..
  obtain ⟨place, node, hfind⟩ := FileTree.find_of_isFile hfile
  refine ⟨place, node, hfind, ?_⟩
  rw [Host.findProgram_of_slash hslash, Host.findExecutable, hfind]
  dsimp only
  split
  · rfl
  · rfl

/-- A case keeps its processes apart from each other, and from those of the other cases. -/
theorem ofCase_keepsApart (case : RunCase) (p : Parameters) :
    (ofCase case p).KeepsApart ∧
      ∀ other, other ≠ case → ∀ spec ∈ (ofCase case p).specs, ∀ spec' ∈ (ofCase other p).specs,
        Path.Apart spec.program spec'.program := by
  refine ⟨⟨nodup_names case p, apart_outputPaths case p, ?_, ?_, ?_⟩, ?_⟩
  · intro path hpath spec hspec
    exact apart_of_output hpath hspec
  · intro spec hspec
    rw [program_of_mem hspec]
    exact Layout.slash_mem_executable ..
  · intro spec hspec t environment hfile
    exact started_of_mem hspec t environment hfile
  · intro other hother spec hspec spec' hspec'
    exact apart_of_cases hother hspec hspec'

/-- Output files in the directory of the executables of a case. -/
theorem ofCase_keepsApart_sameDirectory :
    RunCase.nineTen ≠ .eight ∧ Path.Apart "build/8/server.out" "build/8/server" ∧
      Path.Apart "build/8/gardener" "build/9-10/gardener" := by
  have h := ofCase_keepsApart .eight ⟨⟨"build", "build/8"⟩, "127.0.0.1", 12345, 1000, none⟩
  refine ⟨by decide, ?_, ?_⟩
  · exact h.1.executables "build/8/server.out" (by decide +kernel)
      (.server .eight ⟨"build", "build/8"⟩ 12345 none) (by decide +kernel)
  · exact h.2 .nineTen (by decide)
      (.client "gardener1" .gardener .eight ⟨"build", "build/8"⟩ "127.0.0.1" 12345) (by decide +kernel)
      (.client "gardener2" .gardener .nineTen ⟨"build", "build/8"⟩ "127.0.0.1" 12345) (by decide +kernel)

end Plan

end StagedLaunch
