import StagedLaunch.Proofs.Machine.Outputs

/-!
# Where a case puts its files

A file in a directory is one step further than the directory (`Path.place_join`), so the output files of the processes of a case
are apart, wherever they are put (`Plan.nodup_outputPlaces`).
-/

namespace StagedLaunch

/-! ## The processes of a case -/

namespace Plan

/-- The clients of a case, by name and role, in the order of their launch. -/
def clients (case : RunCase) : List (String × Role) :=
  match case with
  | .fourFive => [("gardener1", .gardener), ("gardener2", .gardener), ("flowerbed", .flowerbed)]
  | .sixSeven | .eight | .nineTen =>
    [("monitor", .monitor), ("gardener1", .gardener), ("gardener2", .gardener), ("flowerbed", .flowerbed)]

/-- A case launches its server and then its clients. -/
theorem specs_ofCase (case : RunCase) (p : Parameters) :
    (ofCase case p).specs = .server case p.layout p.port p.serverReady ::
      (clients case).map fun c => .client c.1 c.2 case p.layout p.host p.port := by
  cases case <;> rfl

/-- The names of the output files of a case. -/
def outputNames (case : RunCase) : List String :=
  ("server" :: (clients case).map Prod.fst).flatMap fun name => [name ++ ".out", name ++ ".err"]

theorem isName_of_outputNames {case : RunCase} {name : String} (h : name ∈ outputNames case) : Path.IsName name := by
  have hall : ∀ name ∈ outputNames case, '/' ∉ name.toList ∧ name ≠ "" ∧ name ≠ "." ∧ name ≠ ".." := by
    cases case <;> decide +kernel
  obtain ⟨hslash, hempty, hhere, habove⟩ := hall name h
  exact ⟨hslash, hempty, hhere, habove⟩

/-- The output files of a case are in the directory of output files. -/
theorem outputPlaces_ofCase (case : RunCase) (p : Parameters) (cwd : Place) :
    (ofCase case p).outputPlaces cwd = (outputNames case).map fun name => Path.place cwd p.layout.logDir ++ [name] := by
  have hplaces (spec : LaunchSpec) (houtput : spec.output = .ofName p.layout.logDir spec.name)
      (hname : spec.name ∈ "server" :: (clients case).map Prod.fst) :
      [spec.output.place cwd .out, spec.output.place cwd .err] =
        [spec.name ++ ".out", spec.name ++ ".err"].map fun name => Path.place cwd p.layout.logDir ++ [name] := by
    have hmem (name : String) (h : name ∈ [spec.name ++ ".out", spec.name ++ ".err"]) : name ∈ outputNames case :=
      List.mem_flatMap.2 ⟨spec.name, hname, h⟩
    have hout := Path.place_join (isName_of_outputNames (hmem (spec.name ++ ".out") (by simp))) cwd p.layout.logDir
    have herr := Path.place_join (isName_of_outputNames (hmem (spec.name ++ ".err") (by simp))) cwd p.layout.logDir
    rw [houtput]
    exact congrArg₂ (fun out err => [out, err]) hout herr
  unfold outputPlaces
  rw [specs_ofCase, outputNames, List.flatMap_cons, List.flatMap_cons, List.map_append, List.flatMap_map, List.flatMap_map,
    List.map_flatMap, hplaces _ rfl (List.mem_cons_self ..)]
  refine congrArg (_ ++ ·) (List.flatMap_congr fun c hc => ?_)
  exact hplaces _ rfl (List.mem_cons_of_mem _ (List.mem_map_of_mem hc))

/-- The output files of a case are apart. -/
theorem nodup_outputPlaces (case : RunCase) (p : Parameters) (cwd : Place) : ((ofCase case p).outputPlaces cwd).Nodup := by
  have hnames : (outputNames case).Nodup := by cases case <;> decide +kernel
  rw [outputPlaces_ofCase]
  refine hnames.map fun name name' heq => ?_
  exact List.singleton_inj.1 (List.append_cancel_left heq)

end Plan

end StagedLaunch
