import Mathlib.Data.List.Nodup
import Mathlib.Data.List.Pairwise
import StagedLaunch.Proofs.Machine.FileTree
import StagedLaunch.Proofs.Machine.Readiness
import StagedLaunch.Proofs.Machine.SideBySide
import StagedLaunch.Proofs.Supervisor.SideBySide

/-!
# Machines with output files

`Machine.withOutputs` adds the output files of a plan to a machine that knows nothing of them: only processes write there, each
at the end of its own files, and nobody but a run opens and reads them.
-/

namespace StagedLaunch

open Supervisor FileTree

variable {σ : Type}

/-! ## Trees with some places apart -/

namespace FileTree

/-- A tree without what stands at some places. -/
def without (places : List Place) (t : FileTree) : FileTree :=
  { t with nodes := t.nodes.filter fun e => !places.contains e.1 }

/-- A tree in which something else stands at some places. -/
def holding (t : FileTree) (cwd : Place) (places : List Place) (held : Place → Option FileNode) : FileTree :=
  ⟨cwd, (t.without places).nodes ++ places.filterMap fun p => (held p).map (p, ·), t.locked⟩

variable {places : List Place} {t : FileTree} {cwd p : Place} {held held' : Place → Option FileNode}

theorem lookup_held (held : Place → Option FileNode) (places : List Place) (p : Place) :
    (places.filterMap fun q => (held q).map (q, ·)).lookup p = if p ∈ places then held p else none := by
  induction places with
  | nil => rfl
  | cons q places ih =>
    by_cases hpq : p = q
    · subst hpq
      rw [if_pos (List.mem_cons_self ..)]
      cases hheld : held p with
      | none =>
        rw [List.filterMap_cons_none (by rw [hheld]; rfl), ih, hheld, ite_self]
      | some node =>
        rw [List.filterMap_cons_some (by rw [hheld]; rfl), List.lookup_cons, beq_self_eq_true]
    · have hmem : p ∈ q :: places ↔ p ∈ places := by simp [hpq]
      simp only [hmem, ← ih]
      cases hheld : held q with
      | none => rw [List.filterMap_cons_none (by rw [hheld]; rfl)]
      | some node => rw [List.filterMap_cons_some (by rw [hheld]; rfl), List.lookup_cons, beq_eq_false_iff_ne.2 hpq]

/-- A regular file at one of the places that are apart. -/
theorem held_of_at?_holding {bytes : List UInt8} {executable : Bool} (hp : p ∈ places)
    (h : (t.holding cwd places held).at? p = some (.file bytes executable)) : held p = some (.file bytes executable) := by
  have hne : p ≠ [] := by
    rintro rfl
    cases h
  have hnone : (t.without places).nodes.lookup p = none := by
    refine List.lookup_eq_none_iff.2 fun e he => ?_
    have hout := (List.mem_filter.1 he).2
    refine bne_iff_ne.2 ?_
    rintro rfl
    rw [List.contains_iff_mem.2 hp] at hout
    cases hout
  rwa [at?_of_ne_nil _ hne, holding, List.lookup_append, hnone, lookup_held, if_pos hp] at h

/-- To empty files among the places that are apart changes nothing outside them. -/
theorem without_emptied {stale : List Place} (hsub : stale ⊆ places) (t : FileTree) :
    (t.emptied stale).without places = t.without places := by
  refine FileTree.ext rfl ?_ rfl
  have hfilter : ((t.emptied stale).without places).nodes =
      (t.without places).nodes.map fun e => (e.1, e.2.emptiedAt stale e.1) := List.filter_map
  rw [hfilter]
  refine (List.map_congr_left fun e he => ?_).trans (List.map_id _)
  have hout := (List.mem_filter.1 he).2
  have hnot : e.1 ∉ stale := fun hmem => by
    rw [List.contains_iff_mem.2 (hsub hmem)] at hout
    cases hout
  rw [FileNode.emptiedAt, if_neg hnot, id]

/-- What stands at the places that are apart makes no difference but for what it holds. -/
theorem emptied_holding_congr {stale : List Place} (t : FileTree) (cwd : Place)
    (h : ∀ p ∈ places, (held' p).map (FileNode.emptiedAt stale p) = (held p).map (FileNode.emptiedAt stale p)) :
    (t.holding cwd places held').emptied stale = (t.holding cwd places held).emptied stale := by
  refine FileTree.ext rfl ?_ rfl
  simp only [holding, emptied, List.map_append, List.map_filterMap, Option.map_map]
  refine congrArg (_ ++ ·) (List.filterMap_congr fun p hp => ?_)
  have hpair := congrArg (Option.map (p, ·)) (h p hp)
  rwa [Option.map_map, Option.map_map] at hpair

end FileTree

/-! ## The machine -/

/-- Bytes that the process with a number, counted by the starts before its own, writes to one of its outputs. -/
structure Written where
  /-- The process. -/
  process : Nat
  /-- The output. -/
  stream : OutputStream
  /-- The bytes. -/
  bytes : List UInt8

/-- A machine and the output files beside it. -/
structure Outputs (σ : Type) where
  /-- The rest of the machine. -/
  rest : σ
  /-- What stands at the places of output files. -/
  held : Place → Option FileNode
  /-- The files of the processes that were started, in the order of their starts. -/
  attached : List (Place × Place)
  /-- What each process has written to each of its outputs so far. -/
  wrote : Nat → OutputStream → List UInt8
  /-- The files as they were whenever output files were to be opened. -/
  openings : List FileTree

/-- The file of an output. -/
def OutputStream.of (stream : OutputStream) (files : Place × Place) : Place :=
  match stream with
  | .out => files.1
  | .err => files.2

/-- A node with more bytes at its end. -/
def FileNode.append (bytes : List UInt8) : FileNode → FileNode
  | .file old executable => .file (old ++ bytes) executable
  | node => node

namespace Outputs

/-- A process writes to one of its files. -/
def write (s : Outputs σ) (x : Written) : Outputs σ :=
  match s.attached[x.process]? with
  | none => s
  | some files =>
    { s with
      held := fun p => if p = x.stream.of files then (s.held p).map (FileNode.append x.bytes) else s.held p
      wrote := fun i stream =>
        if i = x.process ∧ stream = x.stream then s.wrote i stream ++ x.bytes else s.wrote i stream }

/-- The rest of the machine moves on, and processes write. -/
def move (writes : σ → σ → List Written) (s : Outputs σ) (rest : σ) : Outputs σ :=
  (writes s.rest rest).foldl write { s with rest := rest }

/-- Nothing was started. -/
def start (rest : σ) (held : Place → Option FileNode) : Outputs σ := ⟨rest, held, [], fun _ _ => [], []⟩

/-- What the process of a launch has written to one of its outputs; nothing if it was not started. -/
def writtenBy (s : Outputs σ) : Except LaunchError Child → OutputStream → List UInt8
  | .ok c => s.wrote c.index
  | .error _ => fun _ => []

variable {s : Outputs σ} {x : Written} {files : Place × Place}

theorem held_write (h : s.attached[x.process]? = some files) (p : Place) :
    (s.write x).held p = if p = x.stream.of files then (s.held p).map (FileNode.append x.bytes) else s.held p := by
  rw [write, h]

theorem wrote_write (h : s.attached[x.process]? = some files) (i : Nat) (stream : OutputStream) :
    (s.write x).wrote i stream =
      if i = x.process ∧ stream = x.stream then s.wrote i stream ++ x.bytes else s.wrote i stream := by
  rw [write, h]

theorem attached_write (s : Outputs σ) (x : Written) : (s.write x).attached = s.attached := by
  unfold write
  split
  · rfl
  · rfl

theorem openings_write (s : Outputs σ) (x : Written) : (s.write x).openings = s.openings := by
  unfold write
  split
  · rfl
  · rfl

end Outputs

/-- What was added to a regular file is at its end. -/
theorem eq_of_append_eq_file {node : FileNode} {more bytes : List UInt8} {executable : Bool}
    (h : node.append more = .file bytes executable) : ∃ old, node = .file old executable ∧ bytes = old ++ more := by
  cases node with
  | file old executable' =>
    cases h
    exact ⟨old, rfl, rfl⟩
  | _ => cases h

/-- The machine with output files at some places, where only its processes write: whenever it moves on they write what `writes`
says, and it sees nothing of what stands there. -/
def Machine.withOutputs (m : Machine σ) (cwd : Place) (places : List Place) (writes : σ → σ → List Written) :
    Machine (Outputs σ) where
  elapse now later s := s.move writes (m.elapse now later s.rest)
  files s := (m.files s.rest).holding cwd places s.held
  withFiles t s :=
    { s with
      rest := m.withFiles (t.without places) s.rest
      held := t.at?
      openings := s.openings ++ [(m.files s.rest).holding cwd places s.held] }
  sockets s := m.sockets s.rest
  accepts port s := m.accepts port s.rest
  command step s :=
    let r := m.command step s.rest
    ⟨r.output, r.rest, s.move writes r.state, r.result⟩
  spawn program args files s :=
    match m.spawn program args files s.rest with
    | (.ok pid, rest) => (.ok pid, { s with attached := s.attached ++ [files] }.move writes rest)
    | (.error e, rest) => (.error e, s.move writes rest)
  poll pid s :=
    let r := m.poll pid s.rest
    (r.1, s.move writes r.2)
  signalGroup pid signal s := s.move writes (m.signalGroup pid signal s.rest)
  signal pid signal s :=
    let r := m.signal pid signal s.rest
    (r.1, s.move writes r.2)

/-- What is kept when the rest of the machine moves on is kept by all that is done with processes. -/
theorem Machine.withOutputs_keeps (m : Machine σ) {cwd : Place} {places : List Place} {writes : σ → σ → List Written}
    {I : Watched (Outputs σ) → Prop}
    (hmove : ∀ w rest exits, I w → I ⟨w.machine.move writes rest, w.launches, exits⟩) :
    (m.withOutputs cwd places writes).Keeps (fun _ => True) I where
  elapse _ _ h := hmove _ _ _ h
  poll := by
    rintro c w - h
    unfold Child.poll
    split
    · exact h
    · rcases hpoll : m.poll c.pid w.machine.rest with ⟨e | _ | status, rest⟩
      · simp only [withOutputs, hpoll]
        exact hmove w rest _ h
      · simp only [withOutputs, hpoll]
        exact hmove w rest _ h
      · simp only [withOutputs, hpoll]
        exact hmove w rest _ h
  signalGroup _ _ h _ := hmove _ _ _ h
  signal _ _ h _ := hmove _ _ _ h

/-! ## Plans whose output files are apart -/

/-- The places of the output files of a plan. -/
def Plan.outputPlaces (plan : Plan) (cwd : Place) : List Place :=
  plan.specs.flatMap fun spec => [spec.output.place cwd .out, spec.output.place cwd .err]

section Apart

variable {plan : Plan} {cwd : Place} {spec spec' : LaunchSpec} {stream stream' : OutputStream}

theorem mem_outputPlaces (h : spec ∈ plan.specs) (stream : OutputStream) :
    spec.output.place cwd stream ∈ plan.outputPlaces cwd := by
  refine List.mem_flatMap.2 ⟨spec, h, ?_⟩
  cases stream with
  | out => exact List.mem_cons_self ..
  | err => exact List.mem_cons_of_mem _ (List.mem_singleton.2 rfl)

/-- No two processes of a plan are the same when their output files are apart. -/
theorem nodup_specs (h : (plan.outputPlaces cwd).Nodup) : plan.specs.Nodup := by
  refine (List.nodup_flatMap.1 h).2.imp fun {a b} hdisjoint heq => ?_
  subst heq
  exact hdisjoint (List.mem_cons_self ..) (List.mem_cons_self ..)

/-- Output files that are apart are one only if they are the same output of the same process. -/
theorem eq_of_place_eq (h : (plan.outputPlaces cwd).Nodup) (hspec : spec ∈ plan.specs) (hspec' : spec' ∈ plan.specs)
    (heq : spec.output.place cwd stream = spec'.output.place cwd stream') : spec = spec' ∧ stream = stream' := by
  obtain ⟨hpair, hdisjoint⟩ := List.nodup_flatMap.1 h
  have hmem (spec : LaunchSpec) (stream : OutputStream) :
      spec.output.place cwd stream ∈ [spec.output.place cwd .out, spec.output.place cwd .err] := by
    cases stream with
    | out => exact List.mem_cons_self ..
    | err => exact List.mem_cons_of_mem _ (List.mem_singleton.2 rfl)
  have hsame : spec = spec' := by
    have : Std.Symm (Function.onFun List.Disjoint fun spec : LaunchSpec =>
      [spec.output.place cwd .out, spec.output.place cwd .err]) := ⟨fun _ _ hab _ ha hb => hab hb ha⟩
    by_contra hne
    exact hdisjoint.forall hspec hspec' hne (hmem spec stream) (heq ▸ hmem spec' stream')
  subst hsame
  have hne : spec.output.place cwd .out ≠ spec.output.place cwd .err := by
    have hnodup := hpair spec hspec
    simpa using hnodup
  refine ⟨rfl, ?_⟩
  cases stream with
  | out =>
    cases stream' with
    | out => rfl
    | err => exact absurd heq hne
  | err =>
    cases stream' with
    | out => exact absurd heq.symm hne
    | err => rfl

end Apart

/-! ## What processes have written -/

/-- The launch that a call is, with its answer. -/
def Supervisor.Call.attempt? {η : Type} : Call η → Option (LaunchSpec × Except LaunchError η)
  | .launch spec result => some (spec, result)
  | _ => none

/-- The launches that were called, with their answers. -/
def Supervisor.attempts {η : Type} (trace : List (Call η)) : List (LaunchSpec × Except LaunchError η) :=
  trace.filterMap Call.attempt?

section Attempts

variable {η : Type}

theorem attempts_append (a b : List (Call η)) : attempts (a ++ b) = attempts a ++ attempts b := List.filterMap_append

theorem attempts_map_fst (trace : List (Call η)) : (attempts trace).map Prod.fst = attempted trace := by
  rw [attempts, List.map_filterMap]
  refine List.filterMap_congr fun call _ => ?_
  cases call <;> rfl

/-- The launches that have succeeded, with their processes. -/
theorem filterMap_attempts (trace : List (Call η)) :
    (attempts trace).filterMap (fun a => a.2.toOption.map (a.1, ·)) = launched trace := by
  rw [attempts, launched, List.filterMap_filterMap]
  refine List.filterMap_congr fun call _ => ?_
  rcases call with _ | _ | ⟨spec, e | h⟩ | _ | _ | _ | _ <;> rfl

theorem mem_launched_iff {trace : List (Call η)} {spec : LaunchSpec} {h : η} :
    (spec, h) ∈ launched trace ↔ (spec, .ok h) ∈ attempts trace := by
  rw [← filterMap_attempts, List.mem_filterMap]
  constructor
  · rintro ⟨⟨spec', e | h'⟩, hmem, heq⟩
    · cases heq
    · cases heq
      exact hmem
  · exact fun hmem => ⟨_, hmem, rfl⟩

end Attempts

/-- A launch, whose output files were opened in a tree, has what was opened to itself: what stands there holds what the launched
process has written. -/
structure Owns (cwd : Place) (s : Outputs σ) (attempt : LaunchSpec × Except LaunchError Child) (t : FileTree) : Prop where
  /-- A launch that succeeds has opened both files. -/
  all : ∀ c, attempt.2 = .ok c → attempt.1.output.opened t = [.out, .err]
  /-- A file that was opened holds what the process has written to it. -/
  holds : ∀ {stream}, stream ∈ attempt.1.output.opened t → ∀ {bytes executable},
    s.held (attempt.1.output.place cwd stream) = some (.file bytes executable) → bytes = s.writtenBy attempt.2 stream

/-- What holds of the output files of a plan after some calls. -/
structure KeepsOutputs (plan : Plan) (cwd : Place) (trace : List (Call Child)) (w : Watched (Outputs σ)) : Prop where
  /-- The launches are the first ones of the plan. -/
  attempted_prefix : attempted trace <+: plan.specs
  /-- As many processes were launched as launches have succeeded. -/
  launches_eq : w.launches = (launched trace).length
  /-- The processes that were started write to their own files. -/
  attached_eq : w.machine.attached = (launched trace).map fun p => (p.1.output.place cwd .out, p.1.output.place cwd .err)
  /-- A process is known by its number and by what it was launched for. -/
  child_eq : ∀ {i : Nat} {spec : LaunchSpec} {c : Child}, (launched trace)[i]? = some (spec, c) → c.index = i ∧ c.spec = spec
  /-- A process that was not started has written nothing. -/
  wrote_eq : ∀ {i : Nat}, (launched trace).length ≤ i → ∀ stream, w.machine.wrote i stream = []
  /-- There was an opening for each launch. -/
  openings_length : w.machine.openings.length = (attempts trace).length
  /-- Each launch has its files to itself. -/
  owns : ∀ {k : Nat} {attempt : LaunchSpec × Except LaunchError Child} {t : FileTree}, (attempts trace)[k]? = some attempt →
    w.machine.openings[k]? = some t → Owns cwd w.machine attempt t

namespace KeepsOutputs

variable {plan : Plan} {cwd : Place} {trace : List (Call Child)} {w : Watched (Outputs σ)} {spec : LaunchSpec} {c : Child}

theorem mem_specs (h : KeepsOutputs plan cwd trace w) {attempt : LaunchSpec × Except LaunchError Child}
    (hmem : attempt ∈ attempts trace) : attempt.1 ∈ plan.specs := by
  refine h.attempted_prefix.subset ?_
  rw [← attempts_map_fst]
  exact List.mem_map_of_mem hmem

/-- A launch of a plan was called once. -/
theorem answer_eq (h : KeepsOutputs plan cwd trace w) (hapart : (plan.outputPlaces cwd).Nodup)
    {result result' : Except LaunchError Child} (hmem : (spec, result) ∈ attempts trace)
    (hmem' : (spec, result') ∈ attempts trace) : result = result' := by
  have hnodup : ((attempts trace).map Prod.fst).Nodup := by
    rw [attempts_map_fst]
    exact (nodup_specs hapart).sublist h.attempted_prefix.sublist
  exact congrArg Prod.snd (List.inj_on_of_nodup_map hnodup hmem hmem' rfl)

/-- A process that was launched writes to its own files. -/
theorem attached_of_launched (h : KeepsOutputs plan cwd trace w) {i : Nat} (hlaunched : (launched trace)[i]? = some (spec, c)) :
    w.machine.attached[i]? = some (spec.output.place cwd .out, spec.output.place cwd .err) := by
  rw [h.attached_eq, List.getElem?_map, hlaunched]
  rfl

/-- What a process writes goes to its own file. -/
theorem owns_write (h : KeepsOutputs plan cwd trace w) (hapart : (plan.outputPlaces cwd).Nodup) {x : Written}
    (hlaunched : (launched trace)[x.process]? = some (spec, c)) {attempt : LaunchSpec × Except LaunchError Child} {t : FileTree}
    (hmem : attempt ∈ attempts trace) (hown : Owns cwd w.machine attempt t) : Owns cwd (w.machine.write x) attempt t := by
  have hfiles := h.attached_of_launched hlaunched
  have hplace : x.stream.of (spec.output.place cwd .out, spec.output.place cwd .err) = spec.output.place cwd x.stream := by
    cases x.stream <;> rfl
  obtain ⟨hindex, -⟩ := h.child_eq hlaunched
  have hwriter : (spec, .ok c) ∈ attempts trace := mem_launched_iff.1 (List.mem_of_getElem? hlaunched)
  refine ⟨hown.all, fun {stream} hstream {bytes executable} hheld => ?_⟩
  rw [Outputs.held_write hfiles, hplace] at hheld
  obtain ⟨spec', result⟩ := attempt
  by_cases hsame : spec'.output.place cwd stream = spec.output.place cwd x.stream
  · -- the launch is that of the process that writes
    obtain ⟨rfl, rfl⟩ := eq_of_place_eq hapart (h.mem_specs hmem) (h.mem_specs hwriter) hsame
    obtain rfl := h.answer_eq hapart hwriter hmem
    rw [if_pos hsame, Option.map_eq_some_iff] at hheld
    obtain ⟨node, hnode, happend⟩ := hheld
    obtain ⟨old, rfl, rfl⟩ := eq_of_append_eq_file happend
    rw [hown.holds hstream hnode]
    exact ((Outputs.wrote_write hfiles c.index x.stream).trans (if_pos ⟨hindex, rfl⟩)).symm
  · rw [if_neg hsame] at hheld
    rw [hown.holds hstream hheld]
    cases result with
    | error e => rfl
    | ok c' =>
      refine ((Outputs.wrote_write hfiles c'.index stream).trans (if_neg ?_)).symm
      rintro ⟨hindex', rfl⟩
      -- two processes with one number are one, with one file
      obtain ⟨i, hi⟩ := List.mem_iff_getElem?.1 (mem_launched_iff.2 hmem)
      obtain rfl := (h.child_eq hi).1.symm.trans hindex'
      rw [hlaunched] at hi
      cases hi
      exact hsame rfl

theorem write (h : KeepsOutputs plan cwd trace w) (hapart : (plan.outputPlaces cwd).Nodup) (x : Written) :
    KeepsOutputs plan cwd trace { w with machine := w.machine.write x } := by
  cases hlaunched : (launched trace)[x.process]? with
  | none =>
    have hnone : w.machine.write x = w.machine := by
      have hfiles : w.machine.attached[x.process]? = none := by rw [h.attached_eq, List.getElem?_map, hlaunched]; rfl
      rw [Outputs.write, hfiles]
    rw [hnone]
    exact h
  | some p =>
    refine ⟨h.attempted_prefix, h.launches_eq, (Outputs.attached_write ..).trans h.attached_eq, h.child_eq,
      fun {i} hi stream => ?_, (congrArg List.length (Outputs.openings_write ..)).trans h.openings_length,
      fun {k attempt t} hattempt ht => ?_⟩
    · refine (Outputs.wrote_write (h.attached_of_launched hlaunched) i stream).trans ?_
      rw [if_neg, h.wrote_eq hi]
      rintro ⟨rfl, -⟩
      rw [List.getElem?_eq_none_iff.2 hi] at hlaunched
      cases hlaunched
    · rw [Outputs.openings_write] at ht
      exact h.owns_write hapart hlaunched (List.mem_of_getElem? hattempt) (h.owns hattempt ht)

/-- The rest of the machine moves on. -/
theorem move (h : KeepsOutputs plan cwd trace w) (hapart : (plan.outputPlaces cwd).Nodup) (writes : σ → σ → List Written)
    (rest : σ) (exits : List (Nat × ExitStatus)) :
    KeepsOutputs plan cwd trace ⟨w.machine.move writes rest, w.launches, exits⟩ := by
  have hrest : KeepsOutputs plan cwd trace ⟨{ w.machine with rest := rest }, w.launches, exits⟩ :=
    ⟨h.attempted_prefix, h.launches_eq, h.attached_eq, h.child_eq, h.wrote_eq, h.openings_length,
      fun hattempt ht => ⟨(h.owns hattempt ht).all, (h.owns hattempt ht).holds⟩⟩
  exact List.foldlRecOn (motive := fun s => KeepsOutputs plan cwd trace ⟨s, w.launches, exits⟩) _ _ hrest
    fun _ hs x _ => hs.write hapart x

/-- The file of a process that was launched holds what the process has written to it. -/
theorem holds (h : KeepsOutputs plan cwd trace w) (hc : (spec, c) ∈ launched trace) {stream : OutputStream} {bytes : List UInt8}
    {executable : Bool} (hheld : w.machine.held (spec.output.place cwd stream) = some (.file bytes executable)) :
    bytes = w.machine.wrote c.index stream := by
  obtain ⟨k, hattempt⟩ := List.mem_iff_getElem?.1 (mem_launched_iff.1 hc)
  have hlt : k < w.machine.openings.length := h.openings_length ▸ (List.getElem?_eq_some_iff.1 hattempt).1
  have howns := h.owns hattempt (List.getElem?_eq_getElem hlt)
  refine howns.holds ?_ hheld
  rw [howns.all c rfl]
  cases stream with
  | out => exact List.mem_cons_self ..
  | err => exact List.mem_cons_of_mem _ (List.mem_singleton.2 rfl)

theorem spec_eq (h : KeepsOutputs plan cwd trace w) (hc : (spec, c) ∈ launched trace) : c.spec = spec := by
  obtain ⟨i, hi⟩ := List.mem_iff_getElem?.1 hc
  exact (h.child_eq hi).2

/-- Calls that launch nothing change nothing. -/
theorem append (h : KeepsOutputs plan cwd trace w) {more : List (Call Child)} (hmore : attempts more = []) :
    KeepsOutputs plan cwd (trace ++ more) w := by
  have hattempts : attempts (trace ++ more) = attempts trace := by rw [attempts_append, hmore, List.append_nil]
  have hattempted : attempted (trace ++ more) = attempted trace := by rw [← attempts_map_fst, hattempts, attempts_map_fst]
  have hlaunched : launched (trace ++ more) = launched trace := by rw [← filterMap_attempts, hattempts, filterMap_attempts]
  exact ⟨hattempted ▸ h.attempted_prefix, hlaunched ▸ h.launches_eq, hlaunched ▸ h.attached_eq,
    fun hi => h.child_eq (hlaunched ▸ hi), fun hi => h.wrote_eq (hlaunched ▸ hi), hattempts ▸ h.openings_length,
    fun hattempt => h.owns (hattempts ▸ hattempt)⟩

section Machine

variable {m : Machine σ} {writes : σ → σ → List Written}

theorem keeps (m : Machine σ) (writes : σ → σ → List Written) (hapart : (plan.outputPlaces cwd).Nodup)
    (trace : List (Call Child)) :
    (m.withOutputs cwd (plan.outputPlaces cwd) writes).Keeps (fun _ => True) (KeepsOutputs plan cwd trace) :=
  m.withOutputs_keeps fun _ rest exits h => h.move hapart writes rest exits

end Machine

/-- Output files are opened for another launch of the plan: the launches before it keep theirs. -/
theorem owns_open (h : KeepsOutputs plan cwd trace w) (hapart : (plan.outputPlaces cwd).Nodup)
    (hspec : attempted trace ++ [spec] <+: plan.specs) {attempt : LaunchSpec × Except LaunchError Child} {t : FileTree}
    (hmem : attempt ∈ attempts trace) (hown : Owns cwd w.machine attempt t) {s : Outputs σ} {base : FileTree}
    (hwrote : s.wrote = w.machine.wrote)
    (hheld : s.held = (spec.output.open (base.holding cwd (plan.outputPlaces cwd) w.machine.held)).2.at?) :
    Owns cwd s attempt t := by
  have hne : attempt.1 ≠ spec := by
    rintro rfl
    have hattempted : attempt.1 ∈ attempted trace := attempts_map_fst trace ▸ List.mem_map_of_mem hmem
    have hnodup := (nodup_specs hapart).sublist hspec.sublist
    exact (List.nodup_append.1 hnodup).2.2 _ hattempted _ (List.mem_singleton.2 rfl) rfl
  have hplan : spec ∈ plan.specs := hspec.subset (by simp)
  have hopens := spec.output.opensOutputs (base.holding cwd (plan.outputPlaces cwd) w.machine.held)
  refine ⟨hown.all, fun {stream} hstream {bytes executable} hat => ?_⟩
  rw [hheld] at hat
  have hat' := hopens.file (fun other _ heq => hne (eq_of_place_eq hapart (h.mem_specs hmem) hplan heq).1) hat
  rw [hown.holds hstream (held_of_at?_holding (mem_outputPlaces (h.mem_specs hmem) stream) hat')]
  cases attempt.2 with
  | error e => rfl
  | ok c => exact congrFun (congrFun hwrote.symm _) _

/-- Output files are opened for another launch of the plan: it has them to itself. -/
theorem owns_opened (h : KeepsOutputs plan cwd trace w) {result : Except LaunchError Child} {s : Outputs σ} {base : FileTree}
    (hwrote : s.wrote = w.machine.wrote)
    (hheld : s.held = (spec.output.open (base.holding cwd (plan.outputPlaces cwd) w.machine.held)).2.at?)
    (hok : ∀ c, result = .ok c → c.index = w.launches ∧ c.spec = spec ∧
      spec.output.opened (base.holding cwd (plan.outputPlaces cwd) w.machine.held) = [.out, .err]) :
    Owns cwd s (spec, result) (base.holding cwd (plan.outputPlaces cwd) w.machine.held) := by
  refine ⟨fun c hc => (hok c hc).2.2, fun {stream} hstream {bytes executable} hat => ?_⟩
  rw [hheld] at hat
  rw [(spec.output.opensOutputs _).empty hstream hat]
  cases result with
  | error e => rfl
  | ok c =>
    have hnew : s.wrote c.index stream = [] := by
      rw [(hok c rfl).1, h.launches_eq, hwrote]
      exact h.wrote_eq (Nat.le_refl _) stream
    exact hnew.symm

/-- Output files are opened for another launch of the plan, and a process may be started. -/
theorem extend (h : KeepsOutputs plan cwd trace w) (hapart : (plan.outputPlaces cwd).Nodup)
    (hspec : attempted trace ++ [spec] <+: plan.specs) {result : Except LaunchError Child} {s : Outputs σ} {base : FileTree}
    (hwrote : s.wrote = w.machine.wrote)
    (hheld : s.held = (spec.output.open (base.holding cwd (plan.outputPlaces cwd) w.machine.held)).2.at?)
    (hopenings : s.openings = w.machine.openings ++ [base.holding cwd (plan.outputPlaces cwd) w.machine.held])
    (hattached : s.attached = w.machine.attached ++
      result.toOption.toList.map fun _ => (spec.output.place cwd .out, spec.output.place cwd .err))
    (hok : ∀ c, result = .ok c → c.index = w.launches ∧ c.spec = spec ∧
      spec.output.opened (base.holding cwd (plan.outputPlaces cwd) w.machine.held) = [.out, .err])
    (exits : List (Nat × ExitStatus)) :
    KeepsOutputs plan cwd (trace ++ [.launch spec result]) ⟨s, w.launches + result.toOption.toList.length, exits⟩ := by
  have hattempts : attempts (trace ++ [.launch spec result]) = attempts trace ++ [(spec, result)] := attempts_append ..
  have hlaunched : launched (trace ++ [.launch spec result]) =
      launched trace ++ result.toOption.toList.map fun c => (spec, c) := by
    rw [launched_append]
    cases result with
    | error e => rfl
    | ok c => rfl
  refine ⟨?_, ?_, ?_, fun {i spec' c} hi => ?_, fun {i} hi stream => ?_, ?_, fun {k attempt t} hattempt ht => ?_⟩
  · rw [attempted_append]
    exact hspec
  · rw [hlaunched, List.length_append, List.length_map, h.launches_eq]
  · rw [hlaunched, List.map_append, ← h.attached_eq, hattached, List.map_map]
    rfl
  · rw [hlaunched] at hi
    rcases Nat.lt_or_ge i (launched trace).length with hlt | hge
    · rw [List.getElem?_append_left hlt] at hi
      exact h.child_eq hi
    · rw [List.getElem?_append_right hge] at hi
      cases result with
      | error e => cases hi
      | ok c' =>
        obtain ⟨hlength, heq⟩ := List.getElem?_eq_some_iff.1 hi
        have hlast : i = (launched trace).length := by
          have := Nat.lt_one_iff.1 hlength
          omega
        cases List.mem_singleton.1 (List.mem_of_getElem? hi)
        exact ⟨by rw [(hok c rfl).1, h.launches_eq, hlast], (hok c rfl).2.1⟩
  · rw [hlaunched, List.length_append] at hi
    exact (congrFun (congrFun hwrote i) stream).trans (h.wrote_eq (by omega) stream)
  · rw [hopenings, hattempts, List.length_append, List.length_append, h.openings_length]
    rfl
  · rw [hattempts] at hattempt
    rw [hopenings] at ht
    rcases Nat.lt_or_ge k (attempts trace).length with hlt | hge
    · rw [List.getElem?_append_left hlt] at hattempt
      rw [List.getElem?_append_left (h.openings_length ▸ hlt)] at ht
      exact h.owns_open hapart hspec (List.mem_of_getElem? hattempt) (h.owns hattempt ht) hwrote hheld
    · rw [List.getElem?_append_right hge] at hattempt
      rw [List.getElem?_append_right (h.openings_length ▸ hge)] at ht
      obtain rfl := List.mem_singleton.1 (List.mem_of_getElem? hattempt)
      obtain rfl := List.mem_singleton.1 (List.mem_of_getElem? ht)
      exact h.owns_opened hwrote hheld hok

section Machine

variable {m : Machine σ} {writes : σ → σ → List Written}

theorem launched (h : KeepsOutputs plan cwd trace w) (hapart : (plan.outputPlaces cwd).Nodup)
    (hspec : attempted trace ++ [spec] <+: plan.specs) :
    KeepsOutputs plan cwd
      (trace ++ [.launch spec ((m.withOutputs cwd (plan.outputPlaces cwd) writes).launch spec w).result])
      ((m.withOutputs cwd (plan.outputPlaces cwd) writes).launch spec w).state := by
  have hfiles : (m.withOutputs cwd (plan.outputPlaces cwd) writes).files w.machine =
    (m.files w.machine.rest).holding cwd (plan.outputPlaces cwd) w.machine.held := rfl
  have hopens := spec.output.opensOutputs ((m.files w.machine.rest).holding cwd (plan.outputPlaces cwd) w.machine.held)
  unfold Machine.launch
  rw [hfiles]
  rcases hopen : spec.output.open ((m.files w.machine.rest).holding cwd (plan.outputPlaces cwd) w.machine.held) with
    ⟨r, t⟩
  rw [hopen] at hopens
  -- the machine after the files were opened
  generalize hs : (m.withOutputs cwd (plan.outputPlaces cwd) writes).withFiles t w.machine = s
  have hwrote : s.wrote = w.machine.wrote := by rw [← hs]; rfl
  have hattached : s.attached = w.machine.attached := by rw [← hs]; rfl
  have hopenings : s.openings = w.machine.openings ++
    [(m.files w.machine.rest).holding cwd (plan.outputPlaces cwd) w.machine.held] := by rw [← hs]; rfl
  have hheld : s.held =
    (spec.output.open ((m.files w.machine.rest).holding cwd (plan.outputPlaces cwd) w.machine.held)).2.at? := by
      rw [← hs, hopen]; rfl
  have hfail (e : LaunchError) : KeepsOutputs plan cwd (trace ++ [.launch spec (.error e)]) ⟨s, w.launches, w.exits⟩ := by
    refine h.extend hapart hspec hwrote hheld hopenings (hattached.trans (List.append_nil _).symm) ?_ w.exits
    intro c hc
    cases hc
  rcases r with e | files
  · dsimp only
    rw [hs]
    exact hfail e
  · obtain ⟨hopened, hplaces⟩ := hopens.all files rfl
    obtain rfl : files = (spec.output.place cwd .out, spec.output.place cwd .err) := hplaces
    dsimp only
    rw [hs]
    rcases hspawn : m.spawn spec.program spec.args (spec.output.place cwd .out, spec.output.place cwd .err) s.rest with
      ⟨e | pid, rest⟩
    · have hspawn' : (m.withOutputs cwd (plan.outputPlaces cwd) writes).spawn spec.program spec.args
          (spec.output.place cwd .out, spec.output.place cwd .err) s = (.error e, s.move writes rest) := by
        simp only [Machine.withOutputs, hspawn]
      rw [hspawn']
      exact (hfail _).move hapart writes rest w.exits
    · have hspawn' : (m.withOutputs cwd (plan.outputPlaces cwd) writes).spawn spec.program spec.args
          (spec.output.place cwd .out, spec.output.place cwd .err) s =
        (.ok pid, { s with attached := s.attached ++ [(spec.output.place cwd .out, spec.output.place cwd .err)] }.move writes
          rest) := by
        simp only [Machine.withOutputs, hspawn]
      have hstarted : KeepsOutputs plan cwd (trace ++ [.launch spec (.ok ⟨spec, w.launches, pid⟩)])
          ⟨{ s with attached := s.attached ++ [(spec.output.place cwd .out, spec.output.place cwd .err)] }, w.launches + 1,
            w.exits⟩ := by
        refine h.extend (s := ⟨s.rest, s.held, s.attached ++ [_], s.wrote, s.openings⟩) hapart hspec hwrote hheld hopenings
          (congrArg (· ++ [_]) hattached) ?_ w.exits
        intro c hc
        cases hc
        exact ⟨rfl, rfl, hopened⟩
      rw [hspawn']
      exact hstarted.move hapart writes rest w.exits

theorem build (m : Machine σ) (writes : σ → σ → List Written) (hapart : (plan.outputPlaces cwd).Nodup) (stage : BuildStage)
    (now : Nat) (h : KeepsOutputs plan cwd [] w) :
    KeepsOutputs plan cwd [] ((stage.build (m.withOutputs cwd (plan.outputPlaces cwd) writes) plan).run
      (m.withOutputs cwd (plan.outputPlaces cwd) writes).elapseWatched none now w).state := by
  have hkeeps : (m.withOutputs cwd (plan.outputPlaces cwd) writes).BuildKeeps fun _ => KeepsOutputs plan cwd [] :=
    { elapse := fun _ _ h => h.move hapart writes _ _
      command := fun _ h => h.move hapart writes _ _ }
  obtain ⟨ran, -, -, hend⟩ := hkeeps.build stage plan now h
  exact hend

theorem environment (m : Machine σ) (writes : σ → σ → List Written) (hapart : (plan.outputPlaces cwd).Nodup)
    (stage : BuildStage) :
    ((m.withOutputs cwd (plan.outputPlaces cwd) writes).environment stage).Keeps plan (KeepsOutputs plan cwd) where
  elapse now later h := (keeps m writes hapart _).elapse now later h
  build now h := (build m writes hapart stage now h).append (filterMap_answer rfl (fun _ => rfl) _)
  launch _ _ hspec h := h.launched hapart hspec
  await cut now timeout _ _ _ h := ((keeps m writes hapart _).waitReady trivial cut _ timeout now h).append
    (filterMap_answer rfl (fun _ => rfl) _)
  stop now shutdown _ h := ((keeps m writes hapart _).terminate trivial shutdown now h).append
    (filterMap_answer rfl (fun _ => rfl) _)

end Machine

end KeepsOutputs

end StagedLaunch
