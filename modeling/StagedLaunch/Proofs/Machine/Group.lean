import Mathlib.Data.List.Forall2
import Mathlib.Logic.Relation
import StagedLaunch.Proofs.Machine.Termination

/-!
# The group of a process

A process is in a group with those that come from it, and signals are sent to the whole group. What stopping a process does to
the group is seen in a view of the group (`GroupView`): which processes are in it, which have ended, and what they were sent.
Stopping a process only looks at its own exit. When it has to be killed nothing of the group is left; when a signal has stopped
it the others were sent what it was sent, and they may go on. `terminate_stopsGroup` says so for every machine.
-/

namespace StagedLaunch

open Relation

/-! ## What a machine does while a process is stopped -/

/-- What happens to a machine while the process of a group is stopped: time passes, the process is asked for its exit, and
signals are sent. -/
inductive Machine.Moves {σ : Type} (m : Machine σ) (group : Nat) : σ → σ → Prop where
  | elapse {now later : Nat} (hle : now ≤ later) (s : σ) : Moves m group s (m.elapse now later s)
  | poll (s : σ) : Moves m group s (m.poll group s).2
  | signal (signal : Signal) (s : σ) : Moves m group s (m.signal group signal s).2
  | signalGroup (signal : Signal) (s : σ) : Moves m group s (m.signalGroup group signal s)

/-- On the way from one state to another a signal is sent to a group. -/
def Machine.SendsGroup {σ : Type} (m : Machine σ) (group : Nat) (signal : Signal) (s s' : σ) : Prop :=
  ∃ t, ReflTransGen (m.Moves group) s t ∧ ReflTransGen (m.Moves group) (m.signalGroup group signal t) s'

theorem Machine.SendsGroup.of_moves {σ : Type} {m : Machine σ} {group : Nat} {signal : Signal} {s t s' : σ}
    (hmoves : ReflTransGen (m.Moves group) s t) (h : m.SendsGroup group signal t s') : m.SendsGroup group signal s s' := by
  obtain ⟨u, hu, hs'⟩ := h
  exact ⟨u, hmoves.trans hu, hs'⟩

theorem Machine.SendsGroup.moves {σ : Type} {m : Machine σ} {group : Nat} {signal : Signal} {s t s' : σ}
    (h : m.SendsGroup group signal s t) (hmoves : ReflTransGen (m.Moves group) t s') : m.SendsGroup group signal s s' := by
  obtain ⟨u, hu, ht⟩ := h
  exact ⟨u, hu, ht.trans hmoves⟩

namespace Child

variable {σ : Type} {m : Machine σ} {c : Child}

theorem moves_poll (m : Machine σ) (c : Child) (w : Watched σ) :
    ReflTransGen (m.Moves c.pid) w.machine (c.poll m w).2.machine := by
  have hpoll : ReflTransGen (m.Moves c.pid) w.machine (m.poll c.pid w.machine).2 := .single (.poll w.machine)
  unfold poll
  split
  · exact .refl
  · generalize m.poll c.pid w.machine = r at hpoll ⊢
    rcases r with ⟨e | _ | status, s⟩
    · exact hpoll
    · exact hpoll
    · exact hpoll

theorem moves_pass (m : Machine σ) (c : Child) (k now : Nat) (w : Watched σ) :
    ReflTransGen (m.Moves c.pid) w.machine (Activity.pass m.elapseWatched k now w).machine := by
  induction k generalizing now w with
  | zero => exact .refl
  | succ k ih => exact .head (.elapse (Nat.le_add_right now 1) w.machine) (ih (now + 1) (m.elapseWatched now (now + 1) w))

theorem moves_askedAfter (m : Machine σ) (c : Child) (k now : Nat) (w : Watched σ) :
    ReflTransGen (m.Moves c.pid) w.machine (c.askedAfter m k now w).machine :=
  (moves_pass m c k now w).trans (moves_poll m c _)

/-- A stage sends its signal to the group first. -/
theorem sendsGroup_sent (m : Machine σ) (c : Child) (signal : Signal) (w : Watched σ) :
    m.SendsGroup c.pid signal w.machine (c.sent m signal w).2.machine :=
  ⟨w.machine, .refl, .single (.signal signal _)⟩

theorem moves_sent (m : Machine σ) (c : Child) (signal : Signal) (w : Watched σ) :
    ReflTransGen (m.Moves c.pid) w.machine (c.sent m signal w).2.machine :=
  .head (.signalGroup signal w.machine) (.single (.signal signal _))

/-- A kill is sent. -/
def isKill : MachineNotice → Bool
  | .signalledGroup _ signal => signal == .kill
  | .signalled _ signal => signal == .kill
  | _ => false

/-- What stages have sent to the group when a process is stopped from a machine on. -/
structure SendsInTurn (m : Machine σ) (c : Child) (stages : List (StopSignal × Nat)) (s : σ)
    (r : Run MachineNotice (Watched σ) StopOutcome) : Prop where
  /-- Nothing else happens to the machine. -/
  moves : ReflTransGen (m.Moves c.pid) s r.state.machine
  /-- A process that is killed is killed with its group. -/
  killed : r.result = some .killed → m.SendsGroup c.pid .kill s r.state.machine
  /-- A process that is stopped by a signal is sent that signal and those before it with its group, and none kills. -/
  stopped : ∀ signal, r.result = some (.stopped signal) → ∃ before ms rest, stages = before ++ (signal, ms) :: rest ∧
    (∀ stop ∈ before.map Prod.fst ++ [signal], m.SendsGroup c.pid stop.signal s r.state.machine) ∧
      ∀ e ∈ signalEvents r.events, isKill e.2 = false

section Stages

variable {stages : List (StopSignal × Nat)} {w : Watched σ} {now : Nat}

/-- No stage kills. -/
theorem isKill_stageEvents (now : Nat) (stop : StopSignal) :
    ∀ e ∈ signalEvents (c.stageEvents now stop), isKill e.2 = false := by
  have hstop : (stop.signal == Signal.kill) = false := by cases stop <;> decide
  have horder : signalEvents (c.stageEvents now stop) = c.orderEvents now stop.signal := rfl
  rw [horder]
  exact List.forall_mem_cons.2 ⟨hstop, List.forall_mem_singleton.2 hstop⟩

/-- A stage in which there is something to learn is the last. -/
theorem sendsInTurn_of_outcome {stop : StopSignal} {ms k : Nat} {answer : Except OsError (Option ExitStatus)}
    {outcome : StopOutcome} (houtcome : stageOutcome stop answer = some outcome) :
    c.SendsInTurn m ((stop, ms) :: stages) w.machine
      ⟨some outcome, now + k, c.askedAfter m k now (c.sent m stop.signal w).2, c.stageEvents now stop⟩ := by
  have hasked := moves_askedAfter m c k now (c.sent m stop.signal w).2
  have hsent := (sendsGroup_sent m c stop.signal w).moves hasked
  -- the only outcomes of a stage are its own stop and a failure
  have hcases : outcome = .stopped stop ∨ ∃ error, outcome = .failed error := by
    rcases answer with e | _ | status
    · exact Or.inr ⟨e.message, (Option.some.inj houtcome).symm⟩
    · cases houtcome
    · exact Or.inl (Option.some.inj houtcome).symm
  refine { moves := (moves_sent m c stop.signal w).trans hasked, killed := ?_, stopped := ?_ }
  · intro hkilled
    cases hkilled
    rcases hcases with h | ⟨error, h⟩
    · cases h
    · cases h
  · intro signal hsignal
    cases hsignal
    rcases hcases with h | ⟨error, h⟩
    · cases h
      refine ⟨[], ms, stages, rfl, ?_, isKill_stageEvents now stop⟩
      intro stop' hstop
      rw [List.mem_singleton.1 hstop]
      exact hsent
    · cases h

/-- A stage without an outcome comes before the others. -/
theorem SendsInTurn.cons {stop : StopSignal} {ms : Nat} {s : σ} {r : Run MachineNotice (Watched σ) StopOutcome}
    (hsent : m.SendsGroup c.pid stop.signal w.machine s) (hmoves : ReflTransGen (m.Moves c.pid) w.machine s)
    (h : c.SendsInTurn m stages s r) :
    c.SendsInTurn m ((stop, ms) :: stages) w.machine (r.after (c.stageEvents now stop)) := by
  refine { moves := hmoves.trans h.moves, killed := ?_, stopped := ?_ }
  · intro hkilled
    exact (h.killed hkilled).of_moves hmoves
  · intro signal hsignal
    obtain ⟨before, ms', rest, rfl, hbefore, hevents⟩ := h.stopped signal hsignal
    refine ⟨(stop, ms) :: before, ms', rest, rfl, ?_, ?_⟩
    · intro stop' hstop
      rcases List.mem_cons.1 hstop with rfl | hstop
      · exact hsent.moves h.moves
      · exact (hbefore stop' hstop).of_moves hmoves
    · intro e he
      rw [Run.after_events, signalEvents_append, List.mem_append] at he
      exact he.elim (isKill_stageEvents now stop e) (hevents e)

/-- A kill sends its signal to the group. -/
theorem kill_sendsInTurn (hseen : c.seenExit? w = none) :
    c.SendsInTurn m [] w.machine ((c.kill m).run m.elapseWatched none now w) := by
  have hmoves := moves_sent m c .kill w
  rcases hkill : (c.sent m .kill w).1 with e | u
  · rw [run_kill_of_refused hseen hkill]
    exact ⟨hmoves, nofun, nofun⟩
  · obtain ⟨k, answer, hrun⟩ := exists_run_kill hseen hkill now
    have hasked := moves_askedAfter m c k now (c.sent m .kill w).2
    rw [hrun]
    refine { moves := hmoves.trans hasked, killed := fun _ => (sendsGroup_sent m c .kill w).moves hasked, stopped := ?_ }
    intro signal hsignal
    rcases answer with e | _ | status
    · cases hsignal
    · cases hsignal
    · cases hsignal

/-- Stages send their signals to the group one after the other. -/
theorem stopFrom_sendsInTurn (m : Machine σ) (now : Nat) (hseen : c.seenExit? w = none)
    (htime : ∀ stage ∈ stages, 0 < stage.2) :
    c.SendsInTurn m stages w.machine ((c.stopFrom m stages).run m.elapseWatched none now w) := by
  induction stages generalizing now w with
  | nil => exact kill_sendsInTurn hseen
  | cons stage stages ih =>
    obtain ⟨stop, ms⟩ := stage
    obtain ⟨hms, hstages⟩ := List.forall_mem_cons.1 htime
    rcases expires_or_firstAnswer m c ms now (c.sent m stop.signal w).2 with h | ⟨k, answer, h⟩
    · rw [run_stopFrom_of_none (run_stopStage hseen (h.run_awaitExit hms))]
      have hasked := moves_askedAfter m c ms now (c.sent m stop.signal w).2
      exact (ih (now + ms) h.unseen hstages).cons ((sendsGroup_sent m c stop.signal w).moves hasked)
        ((moves_sent m c stop.signal w).trans hasked)
    · obtain ⟨outcome, houtcome⟩ := exists_stageOutcome stop h.settled
      have hstage := run_stopStage hseen (h.run_awaitExit hms)
      rw [houtcome] at hstage
      rw [run_stopFrom_of_outcome hstage]
      exact sendsInTurn_of_outcome houtcome

end Stages

end Child

/-! ## Groups -/

/-- What can be seen of a group of processes in the states of a machine. -/
structure GroupView (σ ι : Type) where
  /-- A process is in the group. -/
  Member : ι → σ → Prop
  /-- A process has ended. -/
  Ended : ι → σ → Prop
  /-- A process was sent a signal. -/
  WasSent : Signal → ι → σ → Prop

namespace GroupView

variable {σ ι : Type} (G : GroupView σ ι)

/-- A process can still act: it has not ended and was not killed. -/
def CanAct (p : ι) (s : σ) : Prop := ¬ G.Ended p s ∧ ¬ G.WasSent .kill p s

/-- Nothing that can act is in the group. -/
def IsCleared (s : σ) : Prop := ∀ p, G.Member p s → G.Ended p s ∨ G.WasSent .kill p s

/-- One state of a group can come after another. -/
structure Follows (s s' : σ) : Prop where
  /-- Who has ended has ended. -/
  ended : ∀ p, G.Ended p s → G.Ended p s'
  /-- What was sent was sent. -/
  sent : ∀ signal p, G.WasSent signal p s → G.WasSent signal p s'
  /-- Whoever is new in the group comes from one that was in it and could act. -/
  joined : ∀ p, G.Member p s' → G.Member p s ∨ ∃ q, G.Member q s ∧ G.CanAct q s

/-- The group of a view is a group of processes on a machine. -/
structure IsLawful (m : Machine σ) (group : Nat) : Prop where
  /-- Whatever the machine does while a process of the group is stopped, the group goes on as groups do. -/
  follows : ∀ s s', m.Moves group s s' → G.Follows s s'
  /-- A signal that is sent to the group reaches all that are in it and have not ended. -/
  reaches : ∀ signal s p, G.Member p (m.signalGroup group signal s) →
    G.Ended p (m.signalGroup group signal s) ∨ G.WasSent signal p (m.signalGroup group signal s)

/-- A process does not leave the group. -/
def Stays (m : Machine σ) (group : Nat) (p : ι) : Prop :=
  ∀ s s', m.Moves group s s' → G.Member p s → G.Member p s'

variable {G} {m : Machine σ} {group : Nat} {s t s' : σ} {p : ι}

theorem Follows.refl (G : GroupView σ ι) (s : σ) : G.Follows s s := ⟨fun _ h => h, fun _ _ h => h, fun _ => Or.inl⟩

theorem Follows.canAct (h : G.Follows s s') (hp : G.CanAct p s') : G.CanAct p s :=
  ⟨fun hended => hp.1 (h.ended p hended), fun hsent => hp.2 (h.sent .kill p hsent)⟩

theorem Follows.trans (h : G.Follows s t) (h' : G.Follows t s') : G.Follows s s' := by
  refine ⟨fun p hp => h'.ended p (h.ended p hp), fun x p hp => h'.sent x p (h.sent x p hp), fun p hp => ?_⟩
  rcases h'.joined p hp with hp | ⟨q, hq, hact⟩
  · exact h.joined p hp
  · -- whoever let a process in was there before, or came from another that was
    rcases h.joined q hq with hq | hother
    · exact Or.inr ⟨q, hq, h.canAct hact⟩
    · exact Or.inr hother

theorem IsLawful.follows_of_moves (hG : G.IsLawful m group) (h : ReflTransGen (m.Moves group) s s') : G.Follows s s' := by
  induction h with
  | refl => exact .refl G s
  | tail _ hmove ih => exact ih.trans (hG.follows _ _ hmove)

theorem Stays.of_moves (hp : G.Stays m group p) (h : ReflTransGen (m.Moves group) s s') (hs : G.Member p s) :
    G.Member p s' := by
  induction h with
  | refl => exact hs
  | tail _ hmove ih => exact hp _ _ hmove ih

/-- A group that is cleared stays so: nobody is left who could let a process in. -/
theorem IsCleared.of_follows (hs : G.IsCleared s) (h : G.Follows s s') : G.IsCleared s' := by
  intro p hp
  have hwas : G.Member p s := by
    rcases h.joined p hp with hwas | ⟨q, hq, hended, hsent⟩
    · exact hwas
    · exact ((hs q hq).elim hended hsent).elim
  exact (hs p hwas).imp (h.ended p) (h.sent .kill p)

/-- A group to which the kill was sent is cleared. -/
theorem IsLawful.isCleared (hG : G.IsLawful m group) (h : m.SendsGroup group .kill s s') : G.IsCleared s' := by
  obtain ⟨t, -, hmoves⟩ := h
  exact IsCleared.of_follows (hG.reaches .kill t) (hG.follows_of_moves hmoves)

/-- A process that stays in the group was sent what was sent to the group, unless it has ended. -/
theorem IsLawful.ended_or_wasSent (hG : G.IsLawful m group) {signal : Signal} (h : m.SendsGroup group signal s s')
    (hp : G.Stays m group p) (hs : G.Member p s) : G.Ended p s' ∨ G.WasSent signal p s' := by
  obtain ⟨t, ht, hmoves⟩ := h
  have hfollows := hG.follows_of_moves hmoves
  have hthen := hp _ _ (.signalGroup signal t) (hp.of_moves ht hs)
  exact (hG.reaches signal t p hthen).imp (hfollows.ended p) (hfollows.sent signal p)

end GroupView

/-! ## Stopping a process and its group -/

namespace Child

variable {σ ι : Type} (G : GroupView σ ι) (m : Machine σ) (c : Child)

/-- What becomes of the group of a process that is stopped. -/
structure StopsGroup (shutdown : Shutdown) (w : Watched σ) (r : Run MachineNotice (Watched σ) StopOutcome) : Prop where
  /-- When the process was killed, whoever is in the group has ended or was killed as well. -/
  killed : r.result = some .killed → G.IsCleared r.state.machine
  /-- When a signal has stopped the process, whoever was in the group and stays has ended, or was sent that signal and those
  before it; nobody was killed. -/
  stopped : ∀ signal, r.result = some (.stopped signal) → ∃ before ms rest,
    shutdown.stages = before ++ (signal, ms) :: rest ∧
      (∀ p, G.Stays m c.pid p → G.Member p w.machine → G.Ended p r.state.machine ∨
        ∀ stop ∈ before.map Prod.fst ++ [signal], G.WasSent stop.signal p r.state.machine) ∧
      ∀ e ∈ signalEvents r.events, isKill e.2 = false
  /-- When the process had exited before, nothing was sent to anybody. -/
  alreadyExited : ∀ code, r.result = some (.alreadyExited code) → signalEvents r.events = []

variable {G m c}

/-- Whoever stays in a group has ended, or was sent everything that was sent to the group. -/
theorem ended_or_forall_wasSent {group : Nat} {p : ι} {s s' : σ} (hG : G.IsLawful m group) (hp : G.Stays m group p)
    (hs : G.Member p s) {stops : List StopSignal} (hsends : ∀ stop ∈ stops, m.SendsGroup group stop.signal s s') :
    G.Ended p s' ∨ ∀ stop ∈ stops, G.WasSent stop.signal p s' := by
  by_cases hended : G.Ended p s'
  · exact Or.inl hended
  · exact Or.inr fun stop hstop => (hG.ended_or_wasSent (hsends stop hstop) hp hs).resolve_left hended

variable (m c)

/-- Stopping a process clears its group when the process has to be killed. When the process ends before that, the others have
only been asked to end. -/
theorem terminate_stopsGroup (hG : G.IsLawful m c.pid) (shutdown : Shutdown) (now : Nat) (w : Watched σ) :
    c.StopsGroup G m shutdown w ((c.terminate m shutdown).run m.elapseWatched none now w) := by
  by_cases h : ∃ status, (c.poll m w).1 = .ok (some status)
  · obtain ⟨status, hstatus⟩ := h
    rw [run_terminate_of_exited m c shutdown now w hstatus]
    exact ⟨nofun, nofun, fun _ _ => rfl⟩
  · have hrunning : ∀ status, (c.poll m w).1 ≠ .ok (some status) := fun status hstatus => h ⟨status, hstatus⟩
    have hseen := unseen_of_poll hrunning
    have hpoll := moves_poll m c w
    have hturn := stopFrom_sendsInTurn m now hseen shutdown.stages_pos
    have hends : ∀ code, ((c.stopFrom m shutdown.stages).run m.elapseWatched none now (c.poll m w).2).result ≠
        some (.alreadyExited code) := fun code hcode => by
      cases (result_eq_iff hseen shutdown.stages_pos).1 hcode
    obtain ⟨before, hbefore, hrun⟩ := run_terminate_of_running m c shutdown now w hrunning
    rw [hrun]
    refine { killed := ?_, stopped := ?_, alreadyExited := ?_ }
    · intro hkilled
      exact hG.isCleared (hturn.killed hkilled)
    · intro signal hsignal
      obtain ⟨passed, ms, rest, hstages, hsends, hevents⟩ := hturn.stopped signal hsignal
      refine ⟨passed, ms, rest, hstages, ?_, ?_⟩
      · intro p hp hmember
        exact ended_or_forall_wasSent hG hp hmember fun stop hstop => (hsends stop hstop).of_moves hpoll
      · intro e he
        rw [Run.after_events, signalEvents_append, hbefore, List.nil_append] at he
        exact hevents e he
    · intro code hcode
      exact absurd hcode (hends code)

end Child

/-! ## A pack of processes -/

/-- A process of a pack. -/
structure PackProcess where
  /-- The signals that it takes no notice of; a kill is not one of them, whatever is said here. -/
  ignores : List Signal
  /-- The signals that it was sent. -/
  received : List Signal
  /-- How it ended. -/
  exit : Option ExitStatus
deriving DecidableEq

/-- A process is sent a signal. -/
def PackProcess.receive (signal : Signal) (p : PackProcess) : PackProcess :=
  if p.exit.isSome then p
  else
    { p with
      received := signal :: p.received
      exit := if signal ≠ .kill ∧ signal ∈ p.ignores then none else some (.killed signal) }

/-- A machine with the processes of one group, the first of which leads it. They do nothing but end by signals. -/
def Machine.pack : Machine (List PackProcess) where
  elapse _ _ s := s
  files _ := ⟨[], [], []⟩
  withFiles _ s := s
  sockets _ := []
  accepts _ _ := false
  command _ s := ⟨[], 0, s, .ok (.exited 0)⟩
  spawn _ _ _ s := (.ok 7, s)
  poll _ s := (.ok (s.head?.bind PackProcess.exit), s)
  signalGroup _ signal s := s.map (PackProcess.receive signal)
  signal _ signal s := (.ok (), s.modifyHead (PackProcess.receive signal))

/-- The processes of a pack by their places in it. -/
def GroupView.pack : GroupView (List PackProcess) Nat where
  Member i s := i < s.length
  Ended i s := ∃ p, s[i]? = some p ∧ p.exit.isSome = true
  WasSent signal i s := ∃ p, s[i]? = some p ∧ signal ∈ p.received

/-- What was of a process is still of it. -/
def PackProcess.Follows (p p' : PackProcess) : Prop :=
  (p.exit.isSome = true → p'.exit.isSome = true) ∧ ∀ signal ∈ p.received, signal ∈ p'.received

theorem PackProcess.follows_receive (signal : Signal) (p : PackProcess) : p.Follows (p.receive signal) := by
  unfold receive
  split
  · exact ⟨id, fun _ => id⟩
  · rename_i hrunning
    exact ⟨fun hexit => absurd hexit hrunning, fun _ => List.mem_cons_of_mem signal⟩

theorem PackProcess.receive_reaches (signal : Signal) (p : PackProcess) :
    (p.receive signal).exit.isSome = true ∨ signal ∈ (p.receive signal).received := by
  unfold receive
  split
  · rename_i hexit
    exact Or.inl hexit
  · exact Or.inr (List.mem_cons_self ..)

namespace GroupView

/-- A pack follows another when its processes follow those of the other. -/
theorem pack_follows {s s' : List PackProcess} (h : List.Forall₂ PackProcess.Follows s s') : pack.Follows s s' := by
  have hplaces : ∀ (i : Nat) (p : PackProcess), s[i]? = some p → ∃ p', s'[i]? = some p' ∧ p.Follows p' := by
    intro i p hp
    obtain ⟨hi, rfl⟩ := List.getElem?_eq_some_iff.1 hp
    have hi' : i < s'.length := h.length_eq ▸ hi
    exact ⟨s'[i], List.getElem?_eq_getElem hi', h.get hi hi'⟩
  refine ⟨?_, ?_, fun i hi => Or.inl ?_⟩
  · rintro i ⟨p, hp, hexit⟩
    obtain ⟨p', hp', hfollows⟩ := hplaces i p hp
    exact ⟨p', hp', hfollows.1 hexit⟩
  · rintro signal i ⟨p, hp, hsent⟩
    obtain ⟨p', hp', hfollows⟩ := hplaces i p hp
    exact ⟨p', hp', hfollows.2 signal hsent⟩
  · exact Nat.lt_of_lt_of_eq hi h.length_eq.symm

theorem pack_isLawful (group : Nat) : pack.IsLawful .pack group := by
  have hsame : ∀ s : List PackProcess, List.Forall₂ PackProcess.Follows s s := fun s =>
    List.forall₂_same.2 fun _ _ => ⟨id, fun _ => id⟩
  refine ⟨fun s s' hmove => ?_, fun signal s i hi => ?_⟩
  · cases hmove with
    | elapse hle => exact .refl pack s
    | poll => exact .refl pack s
    | signal signal =>
      cases s with
      | nil => exact pack_follows .nil
      | cons p rest => exact pack_follows (.cons (p.follows_receive signal) (hsame rest))
    | signalGroup signal =>
      exact pack_follows (List.forall₂_map_right_iff.2 (List.forall₂_same.2 fun p _ => p.follows_receive signal))
  · have hlt : i < s.length := List.length_map (PackProcess.receive signal) ▸ hi
    have hp : (s.map (PackProcess.receive signal))[i]? = some ((s[i]).receive signal) := by
      rw [List.getElem?_map, List.getElem?_eq_getElem hlt]
      rfl
    exact ((s[i]).receive_reaches signal).imp (⟨_, hp, ·⟩) (⟨_, hp, ·⟩)

/-- A process of a pack that runs and was not killed can act. -/
theorem pack_not_isCleared {s : List PackProcess} {i : Nat} {p : PackProcess} (hp : s[i]? = some p) (hexit : p.exit = none)
    (hsent : Signal.kill ∉ p.received) : ¬ pack.IsCleared s := by
  intro hcleared
  rcases hcleared i (List.getElem?_eq_some_iff.1 hp).1 with ⟨p', hp', hexit'⟩ | ⟨p', hp', hsent'⟩
  · cases hp.symm.trans hp'
    rw [hexit] at hexit'
    cases hexit'
  · cases hp.symm.trans hp'
    exact hsent hsent'

end GroupView

namespace Child

/-- A process that only a kill can end, with another of the kind in its group. -/
theorem terminate_stopsGroup_stubborn :
    let stubborn : PackProcess := ⟨[.interrupt, .terminate], [], none⟩
    let c : Child := ⟨⟨"server", .server, "bin/server", [], ⟨"server.out", "server.err"⟩, none⟩, 0, 7⟩
    let w : Watched (List PackProcess) := .fresh [stubborn, stubborn]
    let r := (c.terminate .pack ⟨3, 5⟩).run Machine.pack.elapseWatched none 0 w
    GroupView.pack.IsLawful .pack c.pid ∧ c.StopsGroup .pack .pack ⟨3, 5⟩ w r ∧ r.result = some .killed ∧
      GroupView.pack.IsCleared r.state.machine := by
  intro stubborn c w r
  have hlawful := GroupView.pack_isLawful c.pid
  have hstops : c.StopsGroup .pack .pack ⟨3, 5⟩ w r := terminate_stopsGroup _ _ hlawful ⟨3, 5⟩ 0 w
  have hresult : r.result = some .killed := by decide
  exact ⟨hlawful, hstops, hresult, hstops.killed hresult⟩

/-- A process that ends when it is asked to leaves another alone that does not, and so does one that has ended before. -/
theorem terminate_leavesGroup :
    let stubborn : PackProcess := ⟨[.interrupt, .terminate], [], none⟩
    let c : Child := ⟨⟨"server", .server, "bin/server", [], ⟨"server.out", "server.err"⟩, none⟩, 0, 7⟩
    let meek : Watched (List PackProcess) := .fresh [⟨[], [], none⟩, stubborn]
    let gone : Watched (List PackProcess) := .fresh [⟨[], [], some (.exited 0)⟩, stubborn]
    let r := (c.terminate .pack .standard).run Machine.pack.elapseWatched none 0 meek
    let r' := (c.terminate .pack .standard).run Machine.pack.elapseWatched none 0 gone
    (GroupView.pack.IsLawful .pack c.pid ∧ r.result = some (.stopped .terminate) ∧
        ¬ GroupView.pack.IsCleared r.state.machine) ∧
      r'.result = some (.alreadyExited (some 0)) ∧ ¬ GroupView.pack.IsCleared r'.state.machine := by
  intro stubborn c meek gone r r'
  have hleft : r.state.machine[1]? = some ⟨[.interrupt, .terminate], [.terminate], none⟩ := by decide
  have hleft' : r'.state.machine[1]? = some stubborn := by decide
  exact ⟨⟨GroupView.pack_isLawful c.pid, by decide, GroupView.pack_not_isCleared hleft rfl (by decide)⟩, by decide,
    GroupView.pack_not_isCleared hleft' rfl (by decide)⟩

end Child

end StagedLaunch
