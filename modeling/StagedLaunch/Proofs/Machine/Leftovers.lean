import StagedLaunch.Proofs.Machine.Outputs

/-!
# What earlier runs have left

What output files held before a run makes no difference to the run: every file is opened, and with that emptied, before
anything in it is looked at. What a run finds in an output file was written by the process of that file
(`Machine.run_ignoresLeftovers`).
-/

namespace StagedLaunch

open Supervisor FileTree

variable {σ : Type}

/-! ## Two machines that differ in what files hold -/

/-- Two machines with output files at some places. Files at the stale ones among them may hold different bytes. -/
structure Outputs.Alike (places stale : List Place) (s s' : Outputs σ) : Prop where
  /-- The rest is the same. -/
  rest_eq : s'.rest = s.rest
  /-- The same processes were started, with the same files. -/
  attached_eq : s'.attached = s.attached
  /-- They have written the same. -/
  wrote_eq : s'.wrote = s.wrote
  /-- The same stands at each place, but for what stale files hold. -/
  held_eq : ∀ p ∈ places, (s'.held p).map (FileNode.emptiedAt stale p) = (s.held p).map (FileNode.emptiedAt stale p)

/-- What is written to a file makes no difference if what it held makes none. -/
theorem emptiedAt_append (stale : List Place) (p : Place) (node : FileNode) (bytes : List UInt8) :
    (node.append bytes).emptiedAt stale p = ((node.emptiedAt stale p).append bytes).emptiedAt stale p := by
  unfold FileNode.emptiedAt
  split
  · cases node <;> rfl
  · rfl

/-- A regular file that holds nothing makes no difference, and neither does anything else but a regular file. -/
theorem map_emptiedAt_of_empty {node : Option FileNode}
    (h : ∀ bytes executable, node = some (.file bytes executable) → bytes = []) (stale : List Place) (p : Place) :
    node.map (FileNode.emptiedAt stale p) = node := by
  cases node with
  | none => rfl
  | some node =>
    refine congrArg some (emptiedAt_of_emptied stale ?_ p)
    cases node with
    | file bytes executable =>
      obtain rfl := h bytes executable rfl
      rfl
    | _ => rfl

namespace Outputs.Alike

variable {places stale : List Place} {s s' : Outputs σ}

theorem write (h : Alike places stale s s') (x : Written) : Alike places stale (s.write x) (s'.write x) := by
  unfold Outputs.write
  rw [h.attached_eq]
  split
  · exact h
  · refine ⟨h.rest_eq, rfl, ?_, fun p hp => ?_⟩
    · dsimp only
      rw [h.wrote_eq]
    · dsimp only
      split
      · have happend : FileNode.emptiedAt stale p ∘ FileNode.append x.bytes =
            FileNode.emptiedAt stale p ∘ FileNode.append x.bytes ∘ FileNode.emptiedAt stale p :=
          funext fun node => emptiedAt_append stale p node x.bytes
        rw [Option.map_map, Option.map_map, happend, ← Option.map_map, ← Option.map_map, ← Option.map_map, ← Option.map_map,
          h.held_eq p hp]
      · exact h.held_eq p hp

theorem move (h : Alike places stale s s') (writes : σ → σ → List Written) (rest : σ) :
    Alike places stale (s.move writes rest) (s'.move writes rest) := by
  have hrest : Alike places stale { s with rest := rest } { s' with rest := rest } :=
    ⟨rfl, h.attached_eq, h.wrote_eq, h.held_eq⟩
  unfold Outputs.move
  rw [h.rest_eq]
  exact List.foldl_rel hrest fun x _ _ _ hs => hs.write x

/-- A file that holds the same on both is not stale. -/
theorem narrow (h : Alike places stale s s') {fresh : List Place} (hfresh : ∀ p ∈ fresh, p ∈ places → s'.held p = s.held p) :
    Alike places (stale.filter (· ∉ fresh)) s s' := by
  refine ⟨h.rest_eq, h.attached_eq, h.wrote_eq, fun p hp => ?_⟩
  by_cases hp' : p ∈ fresh
  · rw [hfresh p hp' hp]
  · have hsame : FileNode.emptiedAt (stale.filter (· ∉ fresh)) p = FileNode.emptiedAt stale p := by
      funext node
      simp [FileNode.emptiedAt, hp']
    rw [hsame]
    exact h.held_eq p hp

section Machine

variable (m : Machine σ) (cwd : Place) (writes : σ → σ → List Written)

/-- The files of both are the same, but for what stale ones hold. -/
theorem files (h : Alike places stale s s') : ((m.withOutputs cwd places writes).files s').emptied stale =
    ((m.withOutputs cwd places writes).files s).emptied stale := by
  have hrest : ((m.withOutputs cwd places writes).files s') = (m.files s.rest).holding cwd places s'.held :=
    congrArg (fun rest => (m.files rest).holding cwd places s'.held) h.rest_eq
  rw [hrest]
  exact emptied_holding_congr _ cwd h.held_eq

theorem withFiles (h : Alike places stale s s') (hsub : stale ⊆ places) {t t' : FileTree}
    (ht : t'.emptied stale = t.emptied stale) :
    Alike places stale ((m.withOutputs cwd places writes).withFiles t s)
      ((m.withOutputs cwd places writes).withFiles t' s') where
  rest_eq := by
    have hwithout : t'.without places = t.without places := by rw [← without_emptied hsub t', ht, without_emptied hsub]
    simp only [Machine.withOutputs, h.rest_eq, hwithout]
  attached_eq := h.attached_eq
  wrote_eq := h.wrote_eq
  held_eq p _ := by
    have hat : (t'.emptied stale).at? p = (t.emptied stale).at? p := by rw [ht]
    rw [at?_emptied, at?_emptied] at hat
    exact hat

/-- Output files are opened alike, and are not stale when all is well. -/
theorem opening (h : Alike places stale s s') (hsub : stale ⊆ places) (files : OutputFiles) :
    let M := m.withOutputs cwd places writes
    ∃ result t t', files.open (M.files s) = (result, t) ∧ files.open (M.files s') = (result, t') ∧
      Alike places stale (M.withFiles t s) (M.withFiles t' s') ∧ ∀ opened, result = .ok opened →
        Alike places (stale.filter (· ∉ [files.place cwd .out, files.place cwd .err])) (M.withFiles t s)
          (M.withFiles t' s') := by
  intro M
  have hopen := files.open_emptied stale (M.files s)
  have hopen' := files.open_emptied stale (M.files s')
  have hopens := files.opensOutputs (M.files s)
  have hopens' := files.opensOutputs (M.files s')
  rw [h.files m cwd writes, hopen] at hopen'
  generalize files.open (M.files s) = r at hopen' hopens ⊢
  generalize files.open (M.files s') = r' at hopen' hopens' ⊢
  obtain ⟨result, t⟩ := r
  obtain ⟨result', t'⟩ := r'
  obtain ⟨rfl, ht⟩ := Prod.mk.inj hopen'
  have halike := h.withFiles m cwd writes hsub ht.symm
  refine ⟨result, t, t', rfl, rfl, halike, fun opened hopened => halike.narrow fun p hp hplace => ?_⟩
  have hall := (hopens.all opened hopened).1
  have hall' := (hopens'.all opened hopened).1
  obtain ⟨stream, rfl⟩ : ∃ stream, p = files.place cwd stream := by
    rcases List.mem_cons.1 hp with rfl | hp
    · exact ⟨.out, rfl⟩
    · exact ⟨.err, List.mem_singleton.1 hp⟩
  have hstream : stream ∈ [OutputStream.out, .err] := by cases stream <;> decide
  -- both are empty, so what stale files hold makes no difference here
  have hempty : ∀ bytes executable, t.at? (files.place cwd stream) = some (.file bytes executable) → bytes = [] :=
    fun _ _ => hopens.empty (hall ▸ hstream)
  have hempty' : ∀ bytes executable, t'.at? (files.place cwd stream) = some (.file bytes executable) → bytes = [] :=
    fun _ _ => hopens'.empty (hall' ▸ hstream)
  exact (map_emptiedAt_of_empty hempty' stale _).symm.trans
    ((halike.held_eq _ hplace).trans (map_emptiedAt_of_empty hempty stale _))

theorem spawn (h : Alike places stale s s') (program : String) (args : List String) (files : Place × Place) :
    let M := m.withOutputs cwd places writes
    (M.spawn program args files s').1 = (M.spawn program args files s).1 ∧
      Alike places stale (M.spawn program args files s).2 (M.spawn program args files s').2 := by
  simp only [Machine.withOutputs, h.rest_eq]
  rcases m.spawn program args files s.rest with ⟨e | pid, rest⟩
  · exact ⟨rfl, h.move writes rest⟩
  · have hattached : Alike places stale { s with attached := s.attached ++ [files] }
        { s' with attached := s'.attached ++ [files] } :=
      ⟨h.rest_eq, congrArg (· ++ [files]) h.attached_eq, h.wrote_eq, h.held_eq⟩
    have hmove := hattached.move writes rest
    simp only [h.rest_eq] at hmove
    exact ⟨rfl, hmove⟩

end Machine

end Outputs.Alike

/-! ## Two runs -/

/-- Two runs after the same calls. No file of a process that was launched is stale. -/
structure SameOutputs (plan : Plan) (cwd : Place) (trace : List (Call Child)) (w w' : Watched (Outputs σ)) : Prop where
  /-- The machines are alike. -/
  alike : ∃ stale ⊆ plan.outputPlaces cwd, w.machine.Alike (plan.outputPlaces cwd) stale w'.machine ∧
    ∀ spec c stream, (spec, c) ∈ launched trace → spec.output.place cwd stream ∉ stale
  /-- As many processes were launched. -/
  launches_eq : w'.launches = w.launches
  /-- The same exits were seen. -/
  exits_eq : w'.exits = w.exits
  /-- A process knows what it was launched for. -/
  spec_eq : ∀ {spec c}, (spec, c) ∈ launched trace → c.spec = spec

namespace SameOutputs

variable {plan : Plan} {cwd : Place} {trace : List (Call Child)} {w w' : Watched (Outputs σ)} {spec : LaunchSpec} {c : Child}

theorem rest_eq (h : SameOutputs plan cwd trace w w') : w'.machine.rest = w.machine.rest := by
  obtain ⟨stale, -, halike, -⟩ := h.alike
  exact halike.rest_eq

/-- Calls that launch nothing change nothing. -/
theorem append (h : SameOutputs plan cwd trace w w') {more : List (Call Child)} (hmore : launched more = []) :
    SameOutputs plan cwd (trace ++ more) w w' := by
  have hlaunched : launched (trace ++ more) = launched trace := by rw [launched_append, hmore, List.append_nil]
  refine ⟨?_, h.launches_eq, h.exits_eq, fun hmem => h.spec_eq (hlaunched ▸ hmem)⟩
  rw [hlaunched]
  exact h.alike

theorem move (h : SameOutputs plan cwd trace w w') (writes : σ → σ → List Written) (rest : σ)
    (exits : List (Nat × ExitStatus)) :
    SameOutputs plan cwd trace ⟨w.machine.move writes rest, w.launches, exits⟩
      ⟨w'.machine.move writes rest, w'.launches, exits⟩ := by
  obtain ⟨stale, hsub, halike, hfresh⟩ := h.alike
  exact ⟨⟨stale, hsub, halike.move writes rest, hfresh⟩, h.launches_eq, rfl, h.spec_eq⟩

section Machine

variable (m : Machine σ) (writes : σ → σ → List Written)

theorem poll (h : SameOutputs plan cwd trace w w') (c : Child) :
    let M := m.withOutputs cwd (plan.outputPlaces cwd) writes
    (c.poll M w').1 = (c.poll M w).1 ∧ SameOutputs plan cwd trace (c.poll M w).2 (c.poll M w').2 := by
  have hseen : c.seenExit? w' = c.seenExit? w := congrArg (List.lookup c.index) h.exits_eq
  unfold Child.poll
  rw [hseen]
  cases c.seenExit? w with
  | some status => exact ⟨rfl, h⟩
  | none =>
    simp only [Machine.withOutputs, h.rest_eq, h.exits_eq]
    rcases m.poll c.pid w.machine.rest with ⟨e | _ | status, rest⟩
    · exact ⟨rfl, h.move writes rest _⟩
    · exact ⟨rfl, h.move writes rest _⟩
    · exact ⟨rfl, h.move writes rest _⟩

/-- A check passes for a process that was launched on both or on none. -/
theorem passes_eq (h : SameOutputs plan cwd trace w w') (hc : (spec, c) ∈ launched trace) (probe : Probe) :
    let M := m.withOutputs cwd (plan.outputPlaces cwd) writes
    probe.passes M c.spec.output.stdout w'.machine = probe.passes M c.spec.output.stdout w.machine := by
  intro M
  cases probe with
  | udpBound port =>
    exact congrArg (fun rest => (m.sockets rest).any fun table => SocketTable.hasLocalPort table port) h.rest_eq
  | tcp port => exact congrArg (m.accepts port) h.rest_eq
  | log pattern =>
    obtain ⟨stale, hsub, halike, hfresh⟩ := h.alike
    have hfiles := halike.files m cwd writes
    have hkept : FileNode.emptiedAt stale (Path.place cwd c.spec.output.stdout) = id := by
      funext node
      rw [h.spec_eq hc]
      exact if_neg (hfresh spec c .out hc)
    -- the file is not stale, so the same is found
    have hfind : (M.files w'.machine).find c.spec.output.stdout = (M.files w.machine).find c.spec.output.stdout := by
      refine find_eq_of_at?_eq ?_ ?_
      · rw [← target_emptied stale, hfiles, target_emptied]
      · have hat : ((M.files w'.machine).emptied stale).at? (Path.place cwd c.spec.output.stdout) =
          ((M.files w.machine).emptied stale).at? (Path.place cwd c.spec.output.stdout) := by rw [hfiles]
        rw [at?_emptied, at?_emptied, hkept, Option.map_id, id, id] at hat
        exact hat
    simp only [Probe.passes, FileTree.read, hfind]

theorem doSame (plan : Plan) (cwd : Place) (trace : List (Call Child)) :
    (m.withOutputs cwd (plan.outputPlaces cwd) writes).DoSame (m.withOutputs cwd (plan.outputPlaces cwd) writes)
      (fun c => ∃ spec, (spec, c) ∈ launched trace) (SameOutputs plan cwd trace) where
  elapse now later w w' h := by
    simp only [Machine.elapseWatched, Machine.withOutputs, h.rest_eq]
    have hmove := h.move writes (m.elapse now later w.machine.rest) w.exits
    exact ⟨hmove.alike, h.launches_eq, h.exits_eq, h.spec_eq⟩
  seen_eq _ h := congrArg (List.lookup _) h.exits_eq
  poll_eq _ h := (h.poll m writes _).1
  poll _ h := (h.poll m writes _).2
  passes_eq probe hc h := by
    obtain ⟨spec, hc⟩ := hc
    exact h.passes_eq m writes hc probe
  signalGroup signal _ h _ := by
    simp only [Machine.withOutputs, h.rest_eq, h.exits_eq]
    exact h.move writes _ _
  signal_eq signal _ h _ := by simp only [Machine.withOutputs, h.rest_eq]
  signal signal _ h _ := by
    simp only [Machine.withOutputs, h.rest_eq, h.exits_eq]
    exact h.move writes _ _

theorem buildSame (plan : Plan) (cwd : Place) :
    (m.withOutputs cwd (plan.outputPlaces cwd) writes).BuildSame (m.withOutputs cwd (plan.outputPlaces cwd) writes)
      fun _ => SameOutputs plan cwd [] where
  elapse _ := (doSame m writes plan cwd []).elapse
  output_eq _ h := by simp only [Machine.withOutputs, h.rest_eq]
  rest_eq _ h := by simp only [Machine.withOutputs, h.rest_eq]
  result_eq _ h := by simp only [Machine.withOutputs, h.rest_eq]
  command step h := by
    simp only [Machine.withOutputs, h.rest_eq, h.exits_eq]
    exact h.move writes _ _
  verify_eq plan h := by
    obtain ⟨stale, hsub, halike, -⟩ := h.alike
    rw [← verify_emptied stale, halike.files m cwd writes, verify_emptied]

/-- A launch ends alike, and then no file of the launched process is stale. -/
theorem launch (h : SameOutputs plan cwd trace w w') (spec : LaunchSpec) :
    let M := m.withOutputs cwd (plan.outputPlaces cwd) writes
    (M.launch spec w').took = (M.launch spec w).took ∧ (M.launch spec w').result = (M.launch spec w).result ∧
      SameOutputs plan cwd (trace ++ [.launch spec (M.launch spec w).result]) (M.launch spec w).state
        (M.launch spec w').state := by
  intro M
  obtain ⟨stale, hsub, halike, hfresh⟩ := h.alike
  obtain ⟨result, t, t', hopen, hopen', hfiles, hopened⟩ := halike.opening m cwd writes hsub spec.output
  have hfailed (e : LaunchError) {s s' : Outputs σ} (hs : s.Alike (plan.outputPlaces cwd) stale s') :
      SameOutputs plan cwd (trace ++ [.launch spec (.error e)]) ⟨s, w.launches, w.exits⟩ ⟨s', w'.launches, w'.exits⟩ := by
    have hkept : SameOutputs plan cwd trace ⟨s, w.launches, w.exits⟩ ⟨s', w'.launches, w'.exits⟩ :=
      ⟨⟨stale, hsub, hs, hfresh⟩, h.launches_eq, h.exits_eq, h.spec_eq⟩
    exact hkept.append rfl
  unfold Machine.launch
  rw [hopen, hopen']
  rcases result with e | places
  · exact ⟨rfl, rfl, hfailed e hfiles⟩
  · obtain ⟨hspawn, hafter⟩ := (hopened places rfl).spawn m cwd writes spec.program spec.args places
    obtain ⟨-, hfail⟩ := hfiles.spawn m cwd writes spec.program spec.args places
    dsimp only
    generalize M.spawn spec.program spec.args places (M.withFiles t w.machine) = r at hspawn hafter hfail ⊢
    generalize M.spawn spec.program spec.args places (M.withFiles t' w'.machine) = r' at hspawn hafter hfail ⊢
    obtain ⟨result, s⟩ := r
    obtain ⟨result', s'⟩ := r'
    obtain rfl : result' = result := hspawn
    rcases result' with e | pid
    · exact ⟨rfl, rfl, hfailed _ hfail⟩
    · refine ⟨rfl, ?_, ⟨_, fun _ hp => hsub (List.mem_of_mem_filter hp), hafter, fun spec' c stream hc => ?_⟩, ?_,
        h.exits_eq, fun hc => ?_⟩
      · dsimp only
        rw [h.launches_eq]
      · rw [launched_append] at hc
        rw [List.mem_filter, not_and]
        rcases List.mem_append.1 hc with hc | hc
        · exact fun hmem => absurd hmem (hfresh spec' c stream hc)
        · cases List.mem_singleton.1 hc
          cases stream <;> simp
      · exact congrArg (· + 1) h.launches_eq
      · rw [launched_append] at hc
        rcases List.mem_append.1 hc with hc | hc
        · exact h.spec_eq hc
        · cases List.mem_singleton.1 hc
          rfl

theorem answersAlike (stage : BuildStage) (plan : Plan) (cwd : Place) :
    ((m.withOutputs cwd (plan.outputPlaces cwd) writes).environment stage).AnswersAlike
      ((m.withOutputs cwd (plan.outputPlaces cwd) writes).environment stage) plan (SameOutputs plan cwd) where
  name_eq := rfl
  pid_eq hc h := Child.same_pid? (doSame m writes plan cwd _) ⟨_, hc⟩ h
  elapse trace := (doSame m writes plan cwd trace).elapse
  build _ h := (BuildStage.same_build (buildSame m writes plan cwd) stage plan h).mono
    fun r _ _ ⟨_, _, _, hv⟩ => hv.append (filterMap_answer rfl (fun _ => rfl) r)
  launch_took _ _ _ h := (h.launch m writes _).1
  launch_result _ _ _ h := (h.launch m writes _).2.1
  launch _ _ _ h := (h.launch m writes _).2.2
  await _ _ timeout _ hc _ h := (Child.same_waitReady (doSame m writes plan cwd _) ⟨_, hc⟩ _ timeout h).mono
    fun r _ _ hv => hv.append (filterMap_answer rfl (fun _ => rfl) r)
  stop _ shutdown hc h := (Child.same_terminate (doSame m writes plan cwd _) ⟨_, hc⟩ shutdown h).mono
    fun r _ _ hv => hv.append (filterMap_answer rfl (fun _ => rfl) r)

end Machine

end SameOutputs

/-! ## What a check for a line has seen -/

namespace Machine.Keeps

variable {m : Machine σ} {P : Child → Prop} {I : Watched σ → Prop} {c : Child} {w : Watched σ}

theorem beforeTry (h : m.Keeps P I) (hc : P c) (k now : Nat) (hw : I w) : I (c.beforeTry m k now w) := by
  induction k generalizing now w with
  | zero => exact hw
  | succ k ih => exact ih _ (h.elapse _ _ (h.poll hc hw))

theorem inTry (h : m.Keeps P I) (hc : P c) (k now : Nat) (hw : I w) : I (c.inTry m k now w) :=
  h.poll hc (h.beforeTry hc k now hw)

end Machine.Keeps

/-- What processes had written is still there, at the beginning of what they have written. -/
def HasWritten (before : Nat → OutputStream → List UInt8) (w : Watched (Outputs σ)) : Prop :=
  ∀ i stream, before i stream <+: w.machine.wrote i stream

namespace HasWritten

variable {before : Nat → OutputStream → List UInt8} {w : Watched (Outputs σ)} {m : Machine σ} {cwd : Place}
  {places : List Place} {writes : σ → σ → List Written}

theorem refl (w : Watched (Outputs σ)) : HasWritten w.machine.wrote w := fun _ _ => List.prefix_refl _

theorem write (h : HasWritten before w) (x : Written) : HasWritten before ⟨w.machine.write x, w.launches, w.exits⟩ := by
  intro i stream
  cases hfiles : w.machine.attached[x.process]? with
  | none =>
    have hnone : w.machine.write x = w.machine := by rw [Outputs.write, hfiles]
    rw [hnone]
    exact h i stream
  | some files =>
    dsimp only
    rw [Outputs.wrote_write hfiles]
    split
    · exact (h i stream).trans (List.prefix_append ..)
    · exact h i stream

theorem move (h : HasWritten before w) (writes : σ → σ → List Written) (rest : σ) (launches : Nat)
    (exits : List (Nat × ExitStatus)) : HasWritten before ⟨w.machine.move writes rest, launches, exits⟩ := by
  have hrest : HasWritten before ⟨{ w.machine with rest := rest }, launches, exits⟩ := h
  exact List.foldlRecOn (motive := fun s => HasWritten before ⟨s, launches, exits⟩) _ _ hrest fun _ hs x _ => hs.write x

theorem keeps (m : Machine σ) (cwd : Place) (places : List Place) (writes : σ → σ → List Written)
    (before : Nat → OutputStream → List UInt8) :
    (m.withOutputs cwd places writes).Keeps (fun _ => True) (HasWritten before) :=
  m.withOutputs_keeps fun w rest exits h => h.move writes rest w.launches exits

theorem launch (h : HasWritten before w) (spec : LaunchSpec) :
    HasWritten before ((m.withOutputs cwd places writes).launch spec w).state := by
  unfold Machine.launch
  rcases spec.output.open ((m.withOutputs cwd places writes).files w.machine) with ⟨e | files, t⟩
  · exact h
  · -- opening files writes nothing
    have hopened : HasWritten before ⟨(m.withOutputs cwd places writes).withFiles t w.machine, w.launches, w.exits⟩ := h
    dsimp only
    generalize (m.withOutputs cwd places writes).withFiles t w.machine = s at hopened ⊢
    rcases hspawn : m.spawn spec.program spec.args files s.rest with ⟨e | pid, rest⟩
    · simp only [Machine.withOutputs, hspawn]
      exact hopened.move writes rest _ _
    · have hattached : HasWritten before ⟨{ s with attached := s.attached ++ [files] }, w.launches, w.exits⟩ := hopened
      simp only [Machine.withOutputs, hspawn]
      exact hattached.move writes rest _ _

end HasWritten

/-- A check for a line has passed on what the process has written to its standard output, or on some of it. -/
def SawOwn (wrote : Nat → OutputStream → List UInt8) (c : Child) (pattern : String) : Prop :=
  ∃ compiled seen, Pattern.compile pattern = .ok compiled ∧ seen <+: wrote c.index .out ∧ compiled.matchesLine seen = true

/-- What was seen stays seen. -/
theorem SawOwn.mono {before : Nat → OutputStream → List UInt8} {w : Watched (Outputs σ)} {c : Child} {pattern : String}
    (h : SawOwn before c pattern) (hwritten : HasWritten before w) : SawOwn w.machine.wrote c pattern := by
  obtain ⟨compiled, seen, hcompile, hseen, hmatch⟩ := h
  exact ⟨compiled, seen, hcompile, hseen.trans (hwritten _ _), hmatch⟩

section Checks

variable {plan : Plan} {cwd : Place} {trace : List (Call Child)} {w : Watched (Outputs σ)} {spec : LaunchSpec} {c : Child}
  {m : Machine σ} {writes : σ → σ → List Written} {pattern : String}

/-- A check for a line reads what the process has written. -/
theorem sawOwn_of_passes (h : KeepsOutputs plan cwd trace w) (hc : (spec, c) ∈ launched trace) {compiled : Pattern}
    (hcompile : Pattern.compile pattern = .ok compiled)
    (hpasses : (Probe.log compiled).passes (m.withOutputs cwd (plan.outputPlaces cwd) writes) c.spec.output.stdout
      w.machine = true) :
    SawOwn w.machine.wrote c pattern := by
  generalize hM : m.withOutputs cwd (plan.outputPlaces cwd) writes = M at hpasses
  simp only [Probe.passes, FileTree.read] at hpasses
  rcases hfind : (M.files w.machine).find c.spec.output.stdout with e | ⟨p, node⟩
  · rw [hfind] at hpasses
    cases hpasses
  · rw [hfind] at hpasses
    cases node with
    | directory => cases hpasses
    | file bytes executable =>
      subst hM
      obtain ⟨rfl, hat⟩ := at?_of_find hfind
      have hplace : Path.place cwd c.spec.output.stdout ∈ plan.outputPlaces cwd := by
        rw [h.spec_eq hc]
        exact mem_outputPlaces (h.mem_specs (mem_launched_iff.1 hc)) .out
      have hheld := held_of_at?_holding hplace hat
      rw [h.spec_eq hc] at hheld
      have hbytes : bytes = w.machine.wrote c.index .out := h.holds hc hheld
      rw [hbytes] at hpasses
      exact ⟨compiled, _, hcompile, List.prefix_refl _, hpasses⟩
    | sink => exact ⟨compiled, [], hcompile, List.nil_prefix, hpasses⟩
    | program => exact ⟨compiled, [], hcompile, List.nil_prefix, hpasses⟩

/-- When a process was waited for until a line was there, the line is its own. -/
theorem sawOwn_of_waitReady (h : KeepsOutputs plan cwd trace w) (hapart : (plan.outputPlaces cwd).Nodup)
    (hc : (spec, c) ∈ launched trace) {cut : Option Nat} {now timeout : Nat}
    (hresult : ((c.waitReady (m.withOutputs cwd (plan.outputPlaces cwd) writes) (.log pattern) timeout).run
      (m.withOutputs cwd (plan.outputPlaces cwd) writes).elapseWatched cut now w).result = some (.ok ())) :
    SawOwn ((c.waitReady (m.withOutputs cwd (plan.outputPlaces cwd) writes) (.log pattern) timeout).run
      (m.withOutputs cwd (plan.outputPlaces cwd) writes).elapseWatched cut now w).state.machine.wrote c pattern := by
  rcases hcompile : Pattern.compile pattern with e | compiled
  · rw [Child.waitReady, hcompile] at hresult
    cases hresult
  · have hprobe : (ReadyCheck.log pattern).probe? = some (.log compiled) := by rw [ReadyCheck.probe?, hcompile]; rfl
    obtain ⟨k, hpasses, hstate⟩ := Child.passesAt_of_waitReady _ c _ hprobe hresult
    have htry := (KeepsOutputs.keeps m writes hapart trace).inTry (c := c) trivial k now h
    have hsaw := sawOwn_of_passes htry hc hcompile hpasses
    have hkeeps := HasWritten.keeps m cwd (plan.outputPlaces cwd) writes
      (c.inTry (m.withOutputs cwd (plan.outputPlaces cwd) writes) k now w).machine.wrote
    rw [hstate]
    exact hsaw.mono (hkeeps.poll trivial (hkeeps.elapse _ _ (HasWritten.refl _)))

end Checks

/-- What holds of output files and of what was found in them after some calls. -/
structure KeepsSeen (plan : Plan) (cwd : Place) (trace : List (Call Child)) (w : Watched (Outputs σ)) : Prop where
  /-- What holds of output files. -/
  outputs : KeepsOutputs plan cwd trace w
  /-- Each check that has passed has seen what its process has written. -/
  seen : ∀ {c pattern}, .awaited c (.ok ()) ∈ trace → c.spec.ready = some (.log pattern) → SawOwn w.machine.wrote c pattern

namespace KeepsSeen

variable {plan : Plan} {cwd : Place} {trace trace' : List (Call Child)} {w w' : Watched (Outputs σ)}

theorem extend (h : KeepsSeen plan cwd trace w) (hwritten : HasWritten w.machine.wrote w')
    (houtputs : KeepsOutputs plan cwd trace' w')
    (hmore : ∀ {c pattern}, .awaited c (.ok ()) ∈ trace' → c.spec.ready = some (.log pattern) →
      .awaited c (.ok ()) ∈ trace ∨ SawOwn w'.machine.wrote c pattern) : KeepsSeen plan cwd trace' w' where
  outputs := houtputs
  seen hmem hready := by
    rcases hmore hmem hready with hmem | hsaw
    · exact (h.seen hmem hready).mono hwritten
    · exact hsaw

theorem environment (m : Machine σ) (writes : σ → σ → List Written) (hapart : (plan.outputPlaces cwd).Nodup)
    (stage : BuildStage) :
    ((m.withOutputs cwd (plan.outputPlaces cwd) writes).environment stage).Keeps plan (KeepsSeen plan cwd) := by
  have hbase := KeepsOutputs.environment m writes hapart stage
  have hkeeps := HasWritten.keeps m cwd (plan.outputPlaces cwd) writes
  refine
    { elapse := fun now later h =>
        h.extend ((hkeeps _).elapse now later (.refl _)) (hbase.elapse now later h.outputs) fun hmem _ => Or.inl hmem
      build := fun now h => ⟨hbase.build now h.outputs, fun hmem => ?_⟩
      launch := fun now hquiet hspec h =>
        h.extend ((HasWritten.refl _).launch _) (hbase.launch now hquiet hspec h.outputs) fun hmem _ =>
          Or.inl (by simpa using hmem)
      await := fun cut now timeout hquiet hc hready h => h.extend ((hkeeps _).waitReady trivial cut _ timeout now (.refl _))
        (hbase.await cut now timeout hquiet hc hready h.outputs) fun hmem hready' => ?_
      stop := fun now shutdown hc h => h.extend ((hkeeps _).terminate trivial shutdown now (.refl _))
        (hbase.stop now shutdown hc h.outputs) fun hmem _ => Or.inl (by simpa using hmem) }
  · simp at hmem
  · rcases List.mem_append.1 hmem with hmem | hmem
    · exact Or.inl hmem
    · rcases List.mem_cons.1 hmem with hmem | hmem
      · cases hmem
      · obtain ⟨result, hresult, hcall⟩ := List.mem_map.1 hmem
        cases hcall
        rw [h.outputs.spec_eq hc, hready] at hready'
        cases hready'
        exact Or.inr (sawOwn_of_waitReady h.outputs hapart hc (Option.mem_toList.1 hresult))

end KeepsSeen

/-! ## Runs -/

/-- What the output files of a plan hold at the end of a run comes from the processes of that run. -/
structure OwnOutputs (trace : List (Call Child)) (cwd : Place) (files : FileTree) (s : Outputs σ) : Prop where
  /-- Processes are numbered in the order of their launches, and what each one writes goes to its own files. -/
  attached : ∀ {i : Nat} {spec : LaunchSpec} {c : Child}, (launched trace)[i]? = some (spec, c) →
    c.index = i ∧ s.attached[i]? = some (spec.output.place cwd .out, spec.output.place cwd .err)
  /-- A process that was found ready by a line has written that line to its standard output itself. -/
  seen : ∀ {c pattern}, .awaited c (.ok ()) ∈ trace → c.spec.ready = some (.log pattern) → SawOwn s.wrote c pattern
  /-- Files were opened once for each launch. -/
  openings_length : s.openings.length = (attempts trace).length
  /-- A launch that succeeds has opened both of its files. -/
  opened : ∀ {k : Nat} {spec : LaunchSpec} {c : Child} {t : FileTree}, (attempts trace)[k]? = some (spec, .ok c) →
    s.openings[k]? = some t → spec.output.opened t = [.out, .err]
  /-- A file that was opened for a launch holds what the launched process has written to it, and nothing else. -/
  holds : ∀ {k : Nat} {spec : LaunchSpec} {result : Except LaunchError Child} {t : FileTree} {stream : OutputStream} {p : Place}
    {bytes : List UInt8} {executable : Bool}, (attempts trace)[k]? = some (spec, result) → s.openings[k]? = some t →
      stream ∈ spec.output.opened t → files.find (spec.output.path stream) = .ok (p, .file bytes executable) →
        bytes = s.writtenBy result stream

theorem KeepsSeen.ownOutputs {plan : Plan} {cwd : Place} {trace : List (Call Child)} {w : Watched (Outputs σ)}
    (h : KeepsSeen plan cwd trace w) (m : Machine σ) (writes : σ → σ → List Written) :
    OwnOutputs trace cwd ((m.withOutputs cwd (plan.outputPlaces cwd) writes).files w.machine) w.machine where
  attached hi := ⟨(h.outputs.child_eq hi).1, h.outputs.attached_of_launched hi⟩
  seen := h.seen
  openings_length := h.outputs.openings_length
  opened hattempt ht := (h.outputs.owns hattempt ht).all _ rfl
  holds {k spec result t stream p bytes executable} hattempt ht hstream hfind := by
    obtain ⟨rfl, hat⟩ := at?_of_find hfind
    have hplace : spec.output.place cwd stream ∈ plan.outputPlaces cwd :=
      mem_outputPlaces (h.outputs.mem_specs (List.mem_of_getElem? hattempt)) stream
    exact (h.outputs.owns hattempt ht).holds hstream (held_of_at?_holding hplace hat)

/-- A run and one on the same machine with other things left in output files: they are the same, and in both the output files
of the processes hold what the processes have written, provided that these files are apart. -/
structure IgnoresLeftovers (plan : Plan) (cwd : Place) (M : Machine (Outputs σ)) (trace trace' : List (Call Child))
    (r r' : Finished MachineNotice (Watched (Outputs σ))) : Prop where
  /-- They have the same report. -/
  report_eq : r'.report = r.report
  /-- They have the same failure, or none. -/
  failure_eq : r'.failure = r.failure
  /-- They end at the same instant. -/
  now_eq : r'.now = r.now
  /-- They make the same calls, with the same answers. -/
  calls_eq : trace' = trace
  /-- Their processes write the same. -/
  wrote_eq : r'.world.machine.wrote = r.world.machine.wrote
  /-- What output files hold is from this run. -/
  own : (plan.outputPlaces cwd).Nodup → OwnOutputs trace cwd (M.files r.world.machine) r.world.machine
  /-- What output files hold is from the other run. -/
  own' : (plan.outputPlaces cwd).Nodup → OwnOutputs trace' cwd (M.files r'.world.machine) r'.world.machine

theorem Machine.run_ownOutputs (m : Machine σ) (stage : BuildStage) (options : RunOptions) (plan : Plan)
    (interrupt : Nat → Option Interruption) (start : Nat) (cwd : Place) (writes : σ → σ → List Written) (rest : σ)
    (held : Place → Option FileNode) (hapart : (plan.outputPlaces cwd).Nodup) :
    let M := m.withOutputs cwd (plan.outputPlaces cwd) writes
    let r := Supervisor.run (M.environment stage) options plan interrupt start (.fresh (.start rest held))
    OwnOutputs (calls (M.environment stage) options plan interrupt start (.fresh (.start rest held))) cwd
      (M.files r.world.machine) r.world.machine := by
  intro M r
  have hstart : KeepsSeen plan cwd [] (.fresh (.start rest held)) :=
    { outputs :=
        { attempted_prefix := List.nil_prefix
          launches_eq := rfl
          attached_eq := rfl
          child_eq := nofun
          wrote_eq := fun _ _ => rfl
          openings_length := rfl
          owns := nofun }
      seen := nofun }
  exact ((KeepsSeen.environment m writes hapart stage).run options interrupt start hstart).ownOutputs m writes

/-- What output files held before a run makes no difference to the run. -/
theorem Machine.run_ignoresLeftovers (m : Machine σ) (stage : BuildStage) (options : RunOptions) (plan : Plan)
    (interrupt : Nat → Option Interruption) (start : Nat) (cwd : Place) (writes : σ → σ → List Written) (rest : σ)
    (held held' : Place → Option FileNode)
    (hheld : ∀ p ∈ plan.outputPlaces cwd, (held' p).map FileNode.emptied = (held p).map FileNode.emptied) :
    let M := m.withOutputs cwd (plan.outputPlaces cwd) writes
    let env := M.environment stage
    IgnoresLeftovers plan cwd M (calls env options plan interrupt start (.fresh (.start rest held)))
      (calls env options plan interrupt start (.fresh (.start rest held')))
      (Supervisor.run env options plan interrupt start (.fresh (.start rest held)))
      (Supervisor.run env options plan interrupt start (.fresh (.start rest held'))) := by
  intro M env
  -- at the start everything at the places of output files is stale
  have halike : (Outputs.start rest held).Alike (plan.outputPlaces cwd) (plan.outputPlaces cwd) (.start rest held') := by
    refine ⟨rfl, rfl, rfl, fun p hp => ?_⟩
    have hemptied : FileNode.emptiedAt (plan.outputPlaces cwd) p = FileNode.emptied := by
      funext node
      rw [FileNode.emptiedAt, if_pos hp]
    rw [hemptied]
    exact hheld p hp
  have hstart : SameOutputs plan cwd [] (.fresh (Outputs.start rest held)) (.fresh (Outputs.start rest held')) :=
    { alike := ⟨plan.outputPlaces cwd, List.Subset.refl _, halike, fun _ _ _ hc => absurd hc List.not_mem_nil⟩
      launches_eq := rfl
      exits_eq := rfl
      spec_eq := fun hc => absurd hc List.not_mem_nil }
  have hsame := run_sideBySide (SameOutputs.answersAlike m writes stage plan cwd) options interrupt start hstart
  obtain ⟨stale, -, hend, -⟩ := hsame.world.alike
  exact
    { report_eq := hsame.report_eq
      failure_eq := hsame.failure_eq
      now_eq := hsame.now_eq
      calls_eq := hsame.calls_eq
      wrote_eq := hend.wrote_eq
      own := run_ownOutputs m stage options plan interrupt start cwd writes rest held
      own' := run_ownOutputs m stage options plan interrupt start cwd writes rest held' }

/-- A machine with a server, which runs until it is killed and has no ports. The state is the instant. -/
def Machine.still : Machine Nat where
  elapse _ later _ := later
  files _ := ⟨[], [(["bin"], .directory), (["bin", "server"], .program)], []⟩
  withFiles _ s := s
  sockets _ := []
  accepts _ _ := false
  command _ s := ⟨[], 0, s, .ok (.exited 0)⟩
  spawn _ _ _ s := (.ok 7, s)
  poll _ s := (.ok none, s)
  signalGroup _ _ s := s
  signal _ _ s := (.ok (), s)

/-- A server that is ready when it says `ready` and only ever says `ok`. Not even the line `ready` that an earlier run has left
makes it ready. -/
theorem Machine.run_ignoresLeftovers_staleLine :
    let spec : LaunchSpec := ⟨"server", .server, "bin/server", [], ⟨"server.out", "server.err"⟩, some (.log "ready")⟩
    let plan : Plan := ⟨.eight, [⟨"server", [spec], 0⟩]⟩
    let options : RunOptions := ⟨1000, 200, Shutdown.standard⟩
    let ready : List UInt8 := [114, 101, 97, 100, 121, 10]
    let writes : Nat → Nat → List Written := fun before now =>
      if before < 150 ∧ 150 ≤ now then [⟨0, .out, [111, 107, 10]⟩] else []
    let held : List UInt8 → Place → Option FileNode := fun bytes p =>
      if p = ["server.out"] then some (.file bytes false) else none
    let M := still.withOutputs [] (plan.outputPlaces []) writes
    let env := M.environment .prebuilt
    let after (bytes : List UInt8) := Supervisor.run env options plan (fun _ => none) 0 (.fresh (.start 0 (held bytes)))
    let callsAfter (bytes : List UInt8) := calls env options plan (fun _ => none) 0 (.fresh (.start 0 (held bytes)))
    (∀ p ∈ plan.outputPlaces [], (held ready p).map FileNode.emptied = (held [] p).map FileNode.emptied) ∧
      (plan.outputPlaces []).Nodup ∧
      IgnoresLeftovers plan [] M (callsAfter []) (callsAfter ready) (after []) (after ready) ∧
      (after ready).failure = some (.notReady "server" 200) := by
  intro spec plan options ready writes held M env after callsAfter
  have hheld : ∀ p ∈ plan.outputPlaces [], (held ready p).map FileNode.emptied = (held [] p).map FileNode.emptied := by
    intro p _
    by_cases hp : p = ["server.out"]
    · simp only [held, if_pos hp]
      rfl
    · simp only [held, if_neg hp]
  have hapart : (plan.outputPlaces []).Nodup := by decide +kernel
  have hfailure : (after ready).failure = some (.notReady "server" 200) := by decide +kernel
  refine ⟨hheld, hapart, ?_, hfailure⟩
  exact run_ignoresLeftovers still .prebuilt options plan (fun _ => none) 0 [] writes 0 (held []) (held ready) hheld

/-- A file that is not opened keeps what earlier runs have left: when the standard output of a server cannot be opened, the file
for its standard error still holds what it held. -/
theorem Machine.run_keepsUnopened :
    let spec : LaunchSpec := ⟨"server", .server, "bin/server", [], ⟨"server.out", "server.err"⟩, none⟩
    let plan : Plan := ⟨.eight, [⟨"server", [spec], 0⟩]⟩
    let options : RunOptions := ⟨1000, 200, Shutdown.standard⟩
    let held : Place → Option FileNode := fun p =>
      if p = ["server.out"] then some .directory
      else if p = ["server.err"] then some (.file [111, 108, 100] false)
      else none
    let M := still.withOutputs [] (plan.outputPlaces []) fun _ _ => []
    let env := M.environment .prebuilt
    let r := Supervisor.run env options plan (fun _ => none) 0 (.fresh (.start 0 held))
    (plan.outputPlaces []).Nodup ∧
      ¬ ∀ attempt ∈ attempts (calls env options plan (fun _ => none) 0 (.fresh (.start 0 held))),
        ∀ stream p bytes executable,
          (M.files r.world.machine).find (attempt.1.output.path stream) = .ok (p, .file bytes executable) →
            ∀ byte ∈ bytes, byte ∈ r.world.machine.writtenBy attempt.2 stream := by
  intro spec plan options held M env r
  have hapart : (plan.outputPlaces []).Nodup := by decide +kernel
  have hattempts : attempts (calls env options plan (fun _ => none) 0 (.fresh (.start 0 held))) =
      [(spec, .error (.outputFile "server.out" .isDirectory))] := by decide +kernel
  have hfind : (M.files r.world.machine).find (spec.output.path .err) =
      .ok (["server.err"], .file [111, 108, 100] false) := by decide +kernel
  refine ⟨hapart, fun hwritten => ?_⟩
  rw [hattempts] at hwritten
  have hbyte : (111 : UInt8) ∈ [] :=
    hwritten (spec, .error (.outputFile "server.out" .isDirectory)) (List.mem_singleton.2 rfl) .err _ _ _ hfind 111
      (List.mem_cons_self ..)
  cases hbyte

end StagedLaunch
