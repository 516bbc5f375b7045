import Mathlib.Data.List.Chain
import StagedLaunch.Proofs.Supervisor.Instants

/-!
# The schedule of a run

The notices of a run fall into stages, one for each state of the run. `Follows` says when a stage follows another: a group is
launched as soon as the one before it is ready and has settled, the run window begins likewise after the last group, and it
ends after its time or with an interrupt. Every run keeps to this schedule (`run_onSchedule`).
-/

namespace StagedLaunch.Supervisor

variable {ε σ η : Type}

/-! ## Stages -/

/-- A part of a run in which it stays in one state. -/
structure Stage where
  /-- The state. -/
  state : RunState
  /-- The instant at which the run has come to it. -/
  opened : Nat
  /-- What the run has told in it. -/
  notices : List (Nat × Notice Empty)

/-- A stage in which more is told. -/
def Stage.say (s : Stage) (events : List (Nat × Notice Empty)) : Stage := { s with notices := s.notices ++ events }

/-- The instant at which the last process of a stage was launched; the beginning of the stage if there is none. -/
def Stage.spawned (s : Stage) : Nat := (instants isLaunched s.notices).getLast?.getD s.opened

/-- How long the readiness checks of a stage took. -/
def Stage.waited (s : Stage) : Nat := waitTime (instants isAwait s.notices) (instants isReady s.notices)

/-- The stages of what is told, the first of which is under way. -/
def stagesFrom (s : Stage) : List (Nat × Notice Empty) → List Stage
  | [] => [s]
  | (now, .state _ new) :: rest => s :: stagesFrom ⟨new, now, []⟩ rest
  | e :: rest => stagesFrom (s.say [e]) rest

/-- The stages of a run from its start on. -/
def stages (start : Nat) (events : List (Nat × Notice Empty)) : List Stage := stagesFrom ⟨.idle, start, []⟩ events

/-- A change of the state. -/
def isState : Notice ε → Bool
  | .state _ _ => true
  | _ => false

@[simp] theorem say_nil (s : Stage) : s.say [] = s := by
  unfold Stage.say
  rw [List.append_nil]

/-- What does not change the state belongs to the stage that is under way. -/
theorem stagesFrom_append {events : List (Nat × Notice Empty)} (h : ∀ e ∈ events, isState e.2 = false) (s : Stage)
    (rest : List (Nat × Notice Empty)) : stagesFrom s (events ++ rest) = stagesFrom (s.say events) rest := by
  induction events generalizing s with
  | nil => rw [say_nil, List.nil_append]
  | cons e events ih =>
    rw [List.forall_mem_cons] at h
    have hone : stagesFrom s (e :: events ++ rest) = stagesFrom (s.say [e]) (events ++ rest) := by
      obtain ⟨now, n⟩ := e
      cases n with
      | state old new => cases h.1
      | _ => rfl
    rw [hone, ih h.2]
    simp [Stage.say]

/-- The stage that is under way is the first. -/
theorem stagesFrom_eq_cons (s : Stage) (events : List (Nat × Notice Empty)) :
    ∃ s' rest, stagesFrom s events = s' :: rest ∧ s'.state = s.state ∧ s'.opened = s.opened := by
  induction events generalizing s with
  | nil => exact ⟨s, [], rfl, rfl, rfl⟩
  | cons e events ih =>
    obtain ⟨now, n⟩ := e
    cases n with
    | state old new => exact ⟨s, _, rfl, rfl, rfl⟩
    | _ => exact ih _

/-- A change of the state opens a stage. -/
theorem exists_stage_of_state {events : List (Nat × Notice Empty)} {now : Nat} {old new : RunState}
    (h : (now, .state old new) ∈ events) (s : Stage) :
    ∃ s' ∈ stagesFrom s events, s'.state = new ∧ s'.opened = now := by
  induction events generalizing s with
  | nil => cases h
  | cons e events ih =>
    rcases List.mem_cons.1 h with rfl | hmem
    · obtain ⟨s', rest, heq, hstate, hopened⟩ := stagesFrom_eq_cons ⟨new, now, []⟩ events
      refine ⟨s', ?_, hstate, hopened⟩
      rw [stagesFrom, heq]
      exact List.mem_cons_of_mem _ (List.mem_cons_self ..)
    · obtain ⟨instant, n⟩ := e
      cases n with
      | state old' new' =>
        obtain ⟨s', hs', hopens⟩ := ih hmem ⟨new', instant, []⟩
        exact ⟨s', List.mem_cons_of_mem _ hs', hopens⟩
      | _ => exact ih hmem _

/-! ## The schedule -/

/-- The end of a run window. -/
def windowEnd (i : Option Interruption) (opened runFor : Nat) : Nat :=
  match i with
  | some j => min (max opened j.instant) (opened + runFor)
  | none => opened + runFor

/-- The stage before the launch of a group, which begins at a given instant: the build before the first group, and else the
group before it, which is over when it is ready and has settled. -/
def Precedes (groups : List Group) (index : Nat) (s : Stage) (now : Nat) : Prop :=
  match index with
  | 0 => s.state = .building
  | k + 1 => ∃ group, groups[k]? = some group ∧ s.state = .launching k ∧ now = s.spawned + max group.settle s.waited

/-- One stage follows another. -/
def Follows (options : RunOptions) (plan : Plan) (i : Option Interruption) (s s' : Stage) : Prop :=
  match s'.state with
  | .idle => False
  | .building => s.state = .idle
  | .launching index => Precedes plan.groups index s s'.opened
  | .running => Precedes plan.groups plan.groups.length s s'.opened
  | .terminating => s.state = .running → s'.opened = windowEnd i s.opened options.runFor
  | .done => s.state = .terminating

/-- A stage does at once what it begins with. -/
structure Prompt (env : Environment ε σ η) (plan : Plan) (s : Stage) : Prop where
  /-- A group with processes calls the first launch at the beginning. -/
  called : ∀ index group, s.state = .launching index → plan.groups[index]? = some group → group.specs ≠ [] →
    (instants isLaunchCall s.notices).head? = some s.opened
  /-- No process is launched before that. -/
  launched : ∀ t ∈ instants isLaunched s.notices, s.opened ≤ t
  /-- When launches take no time, all processes are launched at the beginning. -/
  at_once : (∀ spec now w, (env.launch spec now w).took = 0) → ∀ t ∈ instants isLaunched s.notices, t = s.opened
  /-- The first process is stopped at the beginning. -/
  stopped : ∀ t ∈ (instants isStopCall s.notices).head?, t = s.opened

/-- The stages of a run that is on schedule, given when it stops processes. -/
structure OnTime (env : Environment ε σ η) (options : RunOptions) (plan : Plan) (i : Option Interruption) (stops : List Nat)
    (stages : List Stage) : Prop where
  /-- Each stage follows the one before it. -/
  chain : stages.IsChain (Follows options plan i)
  /-- Each stage is prompt. -/
  prompt : ∀ s ∈ stages, Prompt env plan s
  /-- There is a stage in which the processes are stopped. -/
  terminating : ∃ s ∈ stages, s.state = .terminating ∧ instants isStopCall s.notices = stops

/-- A stage that launches nothing and in which nothing was told is prompt. -/
theorem Prompt.empty (env : Environment ε σ η) (plan : Plan) (state : RunState) (now : Nat)
    (hstate : ∀ index, state ≠ .launching index) : Prompt env plan ⟨state, now, []⟩ :=
  ⟨fun index _ h => absurd h (hstate index), List.forall_mem_nil _, fun _ => List.forall_mem_nil _, fun _ ht => (nomatch ht)⟩

/-- A prompt stage stays so when neither launches nor stops are told. -/
theorem Prompt.say {env : Environment ε σ η} {plan : Plan} {s : Stage} (h : Prompt env plan s)
    {events : List (Nat × Notice Empty)}
    (hcall : instants isLaunchCall events = []) (hlaunched : instants isLaunched events = [])
    (hstop : instants isStopCall events = []) : Prompt env plan (s.say events) := by
  have hsame : ∀ kind, instants kind events = [] → instants kind (s.say events).notices = instants kind s.notices := by
    intro kind hk
    unfold Stage.say
    rw [instants_append, hk, List.append_nil]
  refine ⟨?_, ?_, ?_, ?_⟩
  · rw [hsame _ hcall]
    exact h.called
  · rw [hsame _ hlaunched]
    exact h.launched
  · rw [hsame _ hlaunched]
    exact h.at_once
  · rw [hsame _ hstop]
    exact h.stopped

/-- A stage goes on with notices about the run as a whole that do not change its state. -/
theorem Prompt.go_on {env : Environment ε σ η} {plan : Plan} {s : Stage} (h : Prompt env plan s)
    {events : List (Nat × Notice Empty)}
    (hrun : ∀ e ∈ events, ofRun e.2 = true) (hstate : ∀ e ∈ events, isState e.2 = false)
    (rest : List (Nat × Notice Empty)) :
    ∃ s', stagesFrom s (events ++ rest) = stagesFrom s' rest ∧ Prompt env plan s' ∧ s'.state = s.state ∧
      s'.opened = s.opened := by
  obtain ⟨hcall, hlaunched, hstop⟩ := instants_of_ofRun hrun
  exact ⟨s.say events, stagesFrom_append hstate s rest, h.say hcall hlaunched hstop, rfl, rfl⟩

theorem not_state_interruptEvents (now : Nat) (i : Option Interruption) :
    ∀ e ∈ own (interruptEvents now i : Events η), isState e.2 = false := by
  unfold interruptEvents
  split
  · simp [own, Notice.own?, isState]
  · exact List.forall_mem_nil _

theorem not_state_failureEvents (now : Nat) (failure : Option LaunchError) :
    ∀ e ∈ own (failureEvents now failure : Events η), isState e.2 = false := by
  cases failure with
  | none => exact List.forall_mem_nil _
  | some e => simp [failureEvents, own, Notice.own?, isState]

theorem ofRun_failureEvents (now : Nat) (failure : Option LaunchError) :
    ∀ e ∈ (failureEvents now failure : Events η), ofRun e.2 = true := by
  cases failure with
  | none => exact List.forall_mem_nil _
  | some e => simp [failureEvents, ofRun]

section OnTime

variable {env : Environment ε σ η} {options : RunOptions} {plan : Plan} {i : Option Interruption} {stops : List Nat}

/-- A change of the state at the right time keeps a run on schedule. -/
theorem OnTime.state {s : Stage} {now : Nat} {old new : RunState} {rest : List (Nat × Notice Empty)} (hs : Prompt env plan s)
    (hfollows : ∀ s' : Stage, s'.state = new → s'.opened = now → Follows options plan i s s')
    (h : OnTime env options plan i stops (stagesFrom ⟨new, now, []⟩ rest)) :
    OnTime env options plan i stops (stagesFrom s ((now, .state old new) :: rest)) := by
  obtain ⟨s', more, heq, hstate, hopened⟩ := stagesFrom_eq_cons ⟨new, now, []⟩ rest
  rw [stagesFrom]
  rw [heq] at h ⊢
  refine ⟨List.isChain_cons_cons.2 ⟨hfollows s' hstate hopened, h.chain⟩, ?_, ?_⟩
  · rw [List.forall_mem_cons]
    exact ⟨hs, h.prompt⟩
  · obtain ⟨t, ht, hterm⟩ := h.terminating
    exact ⟨t, List.mem_cons_of_mem _ ht, hterm⟩

end OnTime

/-! ## The launch -/

/-- Within a group the state of a run does not change. -/
theorem not_state_of_ofGroup {events : List (Nat × Notice ε)} (h : ∀ e ∈ events, ofGroup e.2 = true) :
    ∀ e ∈ own events, isState e.2 = false := by
  rintro ⟨now, m⟩ he
  obtain ⟨n, hn, hm⟩ := mem_own he
  have hg := h _ hn
  cases n with
  | state old new => cases hg
  | told e => cases hm
  | _ =>
    cases hm
    rfl

/-- The stage of a group. -/
def groupStage (index : Nat) (group : Group) (now : Nat) (events : Events η) : Stage :=
  (Stage.mk (.launching index) now []).say ((now, .announced group.label) :: own events)

section GroupLaunch

variable {env : Environment ε σ η} {timeout start now later : Nat} {group : Group} {events : Events η}
  {started : List (Started η)} {outcome : Option (Except LaunchError Unit)}

theorem GroupLaunch.prompt (h : GroupLaunch env timeout start group now events started later outcome)
    (hstart : start ≤ now) {plan : Plan} {index : Nat} (hg : plan.groups[index]? = some group) :
    Prompt env plan (groupStage index group now events) := by
  obtain ⟨-, -, hbounds⟩ := h.launched_at hstart
  have hcalled : ∀ index' group', RunState.launching index = .launching index' → plan.groups[index']? = some group' →
      group'.specs ≠ [] → (instants isLaunchCall (own events)).head? = some now := by
    intro index' group' hindex hg' hspecs
    cases hindex
    rw [hg] at hg'
    cases hg'
    exact h.called hspecs
  refine ⟨hcalled, fun t ht => (hbounds t ht).1, h.at_once, fun t ht => ?_⟩
  have hnone : instants isStopCall (groupStage index group now events).notices = [] := h.not_stopped
  rw [hnone] at ht
  cases ht

/-- The next group is launched, or the run window begins, when a group is over. -/
theorem GroupLaunch.precedes (h : GroupLaunch env timeout start group now events started later (some (.ok ())))
    {groups : List Group} {index : Nat} (hg : groups[index]? = some group) :
    Precedes groups (index + 1) (groupStage index group now events) later :=
  ⟨group, hg, rfl, h.later_eq⟩

end GroupLaunch

section Launching

variable {env : Environment ε σ η} {options : RunOptions} {plan : Plan} {i : Option Interruption} {stops : List Nat}
  {timeout start : Nat}

/-- A group after others is at the index that is their number. -/
theorem group_at {groups before others : List Group} {group : Group} {index : Nat}
    (hgroups : groups = before ++ group :: others) (hindex : before.length = index) : groups[index]? = some group := by
  rw [hgroups, ← hindex, List.getElem?_append_right (Nat.le_refl _), Nat.sub_self]
  rfl

/-- A group closes the stage before it and has a stage of its own. -/
theorem GroupLaunch.onTime {index now later : Nat} {old : RunState} {group : Group} {events : Events η}
    {started : List (Started η)} {outcome : Option (Except LaunchError Unit)} {s : Stage} {rest : List (Nat × Notice Empty)}
    (launch : GroupLaunch env timeout start group now events started later outcome) (hs : Prompt env plan s)
    (hprecedes : Precedes plan.groups index s now)
    (hrest : OnTime env options plan i stops (stagesFrom (groupStage index group now events) rest)) :
    OnTime env options plan i stops (stagesFrom s (own (groupEvents index old group now ++ events) ++ rest)) := by
  rw [own_append, own_groupEvents]
  refine OnTime.state hs (fun s' hstate hopened => ?_) ?_
  · unfold Follows
    rw [hstate, hopened]
    exact hprecedes
  · have hquiet : ∀ e ∈ (now, .announced group.label) :: own events, isState e.2 = false := by
      rw [List.forall_mem_cons]
      exact ⟨rfl, not_state_of_ofGroup launch.ofGroup⟩
    have hsay := stagesFrom_append hquiet ⟨.launching index, now, []⟩ rest
    rw [List.cons_append] at hsay
    exact hsay ▸ hrest

/-- The launch of the groups from some index on keeps a run on schedule, given that what comes after it does. -/
theorem Launching.onTime {index now later : Nat} {old new : RunState} {groups : List Group} {events : Events η}
    {started : List (Started η)} {outcome : Option (Except LaunchError Unit)}
    (h : Launching env timeout start index old groups now events started later new outcome) (before : List Group)
    (hplan : plan.groups = before ++ groups) (hindex : before.length = index) (hstart : start ≤ now) {s : Stage}
    (hs : Prompt env plan s) (hstate : s.state = old) (hprecedes : Precedes plan.groups index s now)
    {rest : List (Nat × Notice Empty)}
    (hrest : ∀ last : Stage, Prompt env plan last → last.state = new →
      (outcome = some (.ok ()) → Precedes plan.groups plan.groups.length last later) →
      OnTime env options plan i stops (stagesFrom last rest)) :
    OnTime env options plan i stops (stagesFrom s (own events ++ rest)) := by
  -- on the groups still to launch: the stage under way is over just when the next of them begins
  induction h generalizing before s with
  | done index state now =>
    refine hrest s hs hstate fun _ => ?_
    rw [hplan, List.append_nil, hindex, ← List.append_nil before, ← hplan]
    exact hprecedes
  | stopped others launch stopped =>
    have hlast := launch.prompt hstart (group_at hplan hindex)
    exact launch.onTime hs hprecedes (hrest _ hlast rfl fun hok => absurd hok stopped)
  | @next index old group others now settled later events more started started' state outcome launch _ ih =>
    have hg := group_at hplan hindex
    rw [own_append, List.append_assoc]
    refine launch.onTime hs hprecedes ?_
    refine ih (before ++ [group]) ?_ ?_ (Nat.le_trans hstart launch.le) (launch.prompt hstart hg) rfl
      (launch.precedes hg) hrest
    · rw [hplan, List.append_assoc]
      rfl
    · rw [List.length_append, hindex]
      rfl

end Launching

/-! ## The end -/

section Finish

variable {env : Environment ε σ η} {options : RunOptions} {plan : Plan} {i : Option Interruption}

theorem Stopping.not_state {shutdown : Shutdown} {started : List (Started η)} {now later : Nat} {events : Events η}
    {records : List StopRecord} (h : Stopping env shutdown started now events records later) :
    ∀ e ∈ own events, isState e.2 = false := by
  induction h with
  | done now => exact List.forall_mem_nil _
  | stop passed more ih =>
    rw [own_append, List.forall_mem_append]
    exact ⟨by simp [isState], ih⟩

/-- The first process is stopped at once, and every one that was launched is stopped. -/
theorem Stopping.stop_instants {shutdown : Shutdown} {started : List (Started η)} {now later : Nat} {events : Events η}
    {records : List StopRecord} (h : Stopping env shutdown started now events records later) :
    (∀ t ∈ (instants isStopCall (own events)).head?, t = now) ∧
      (instants isStopCall (own events)).length = started.length ∧
      instants isLaunchCall (own events) = [] ∧ instants isLaunched (own events) = [] := by
  induction h with
  | done now => exact ⟨fun _ ht => (nomatch ht), rfl, rfl, rfl⟩
  | @stop p rest before after later outcome events records passed more ih =>
    obtain ⟨-, hlength, hcalls, hanswers⟩ := ih
    have hcons : instants isStopCall (own (stopEvents env shutdown p.handle before after outcome ++ events)) =
        before :: instants isStopCall (own events) := rfl
    rw [hcons]
    refine ⟨fun t ht => (Option.mem_some.1 ht).symm, ?_, hcalls, hanswers⟩
    rw [List.length_cons, List.length_cons, hlength]

/-- The end of a run keeps it on schedule, when the run window before it, if there is one, ends when it should. -/
theorem Stopping.onTime {started : List (Started η)} {now later : Nat} {events : Events η} {records : List StopRecord}
    (h : Stopping env options.shutdown started now events records later) (failure : Option LaunchError) {s : Stage}
    (state : RunState) (hs : Prompt env plan s) (hwindow : s.state = .running → now = windowEnd i s.opened options.runFor) :
    OnTime env options plan i (instants isStopCall (own events))
      (stagesFrom s (own (failureEvents now failure ++ (now, .state state .terminating) :: events ++
        [(later, .state .terminating .done)]))) := by
  have hsplit : own (failureEvents now failure ++ (now, .state state .terminating) :: events ++
      [(later, .state .terminating .done)]) = own (failureEvents now failure : Events η) ++
      (now, .state state .terminating) :: (own events ++ [(later, .state .terminating .done)]) := by
    rw [own_append, own_append, List.append_assoc]
    rfl
  obtain ⟨s', heq, hs', hstate', hopened'⟩ := hs.go_on (ofRun_own (ofRun_failureEvents now failure))
    (not_state_failureEvents now failure)
    ((now, .state state .terminating) :: (own events ++ [(later, .state .terminating .done)]))
  obtain ⟨hfirst, -, hcalls, hanswers⟩ := h.stop_instants
  rw [hsplit, heq]
  refine OnTime.state hs' (fun s'' hstate hopened => ?_) ?_
  · unfold Follows
    rw [hstate, hopened, hstate', hopened']
    exact hwindow
  · rw [stagesFrom_append h.not_state]
    have hstage : Prompt env plan ((Stage.mk .terminating now []).say (own events)) := by
      refine ⟨fun _ _ hstate => (nomatch hstate), fun t ht => ?_, fun _ t ht => ?_, hfirst⟩
      · rw [Stage.say, List.nil_append, hanswers] at ht
        cases ht
      · rw [Stage.say, List.nil_append, hanswers] at ht
        cases ht
    refine ⟨?_, ?_, ?_⟩
    · refine List.isChain_cons_cons.2 ⟨?_, List.isChain_singleton _⟩
      rfl
    · intro s' hs'
      simp only [stagesFrom, List.mem_cons, List.not_mem_nil, or_false] at hs'
      rcases hs' with rfl | rfl
      · exact hstage
      · exact Prompt.empty env plan .done later fun _ => nofun
    · exact ⟨_, List.mem_cons_self .., rfl, rfl⟩

end Finish

/-! ## The whole run -/

section Driving

variable {env : Environment ε σ η} {options : RunOptions} {plan : Plan} {i : Option Interruption} {stops : List Nat}

/-- A run window that is not cut off ends after its time, or with an interrupt that comes no earlier. -/
theorem windowEnd_of_whole {opened runFor : Nat}
    (h : Activity.cutWithin (i.map Interruption.instant) opened runFor = none) :
    opened + runFor = windowEnd i opened runFor := by
  cases i with
  | none => rfl
  | some j =>
    by_cases hpos : 0 < runFor
    · have := Activity.cutWithin_eq_none h hpos
      simp only [windowEnd]
      omega
    · simp only [windowEnd]
      omega

/-- A run window that is cut off ends with the interrupt. -/
theorem windowEnd_of_cut {opened runFor later : Nat}
    (h : Activity.cutWithin (i.map Interruption.instant) opened runFor = some later) :
    later = windowEnd i opened runFor := by
  obtain ⟨c, hi, hpos, hlt, rfl⟩ := Activity.cutWithin_eq_some h
  obtain ⟨j, rfl, rfl⟩ := Option.map_eq_some_iff.1 hi
  simp only [windowEnd]
  omega

/-- While a run launches its groups, the run window has not begun. -/
theorem Launching.state_ne_running {timeout start index now later : Nat} {old new : RunState} {groups : List Group}
    {events : Events η} {started : List (Started η)} {outcome : Option (Except LaunchError Unit)}
    (h : Launching env timeout start index old groups now events started later new outcome) (hold : old ≠ .running) :
    new ≠ .running := by
  induction h with
  | done index state now => exact hold
  | stopped rest launch stopped => exact nofun
  | next launch others ih => exact ih nofun

/-- A run begins with its build. -/
theorem onTime_build {start built : Nat} {result : Except LaunchError Unit} {rest : List (Nat × Notice Empty)}
    (h : ∀ s : Stage, Prompt env plan s → s.state = .building → OnTime env options plan i stops (stagesFrom s rest)) :
    OnTime env options plan i stops (stages start (own (buildEvents plan start built result : Events η) ++ rest)) := by
  rw [stages, own_buildEvents]
  refine OnTime.state (Prompt.empty env plan .idle start fun _ => nofun) (fun s' hstate _ => ?_) ?_
  · unfold Follows
    rw [hstate]
  · exact h _ ((Prompt.empty env plan .building start fun _ => nofun).say rfl rfl rfl) rfl

/-- The run window begins when the last group is over. -/
theorem onTime_open {old : RunState} {now : Nat} {s : Stage} {rest : List (Nat × Notice Empty)} (hs : Prompt env plan s)
    (hprecedes : Precedes plan.groups plan.groups.length s now)
    (h : ∀ s : Stage, Prompt env plan s → s.opened = now → OnTime env options plan i stops (stagesFrom s rest)) :
    OnTime env options plan i stops (stagesFrom s (own (openEvents options plan old now : Events η) ++ rest)) := by
  rw [own_openEvents]
  refine OnTime.state hs (fun s' hstate hopened => ?_) ?_
  · unfold Follows
    rw [hstate, hopened]
    exact hprecedes
  · exact h _ ((Prompt.empty env plan .running now fun _ => nofun).say rfl rfl rfl) rfl

/-- A run is on schedule up to the stop of its processes. -/
theorem Driving.onTime {start built now : Nat} {events : Events η} {started : List (Started η)} {state : RunState}
    {failure : Option LaunchError} {interrupted : Bool}
    (h : Driving env options plan i start built events started now state failure interrupted) (hbuilt : start ≤ built)
    {rest : List (Nat × Notice Empty)}
    (hrest : ∀ s : Stage, Prompt env plan s → (s.state = .running → now = windowEnd i s.opened options.runFor) →
      OnTime env options plan i stops (stagesFrom s rest)) :
    OnTime env options plan i stops (stages start (own events ++ rest)) := by
  cases h with
  | notBuilt answer =>
    refine onTime_build fun s hs hstate => hrest s hs fun hrun => ?_
    rw [hstate] at hrun
    cases hrun
  | notLaunched launch =>
    rw [own_append, List.append_assoc]
    refine onTime_build fun s hs hstate => launch.onTime [] rfl rfl hbuilt hs hstate hstate fun last hl hlast _ => ?_
    -- the state is that of a group, so there is no window to end
    exact hrest last hl fun hrun => absurd (hlast.symm.trans hrun) (launch.state_ne_running nofun)
  | interrupted launch =>
    rw [own_append, own_append, List.append_assoc, List.append_assoc]
    refine onTime_build fun s hs hstate => launch.onTime [] rfl rfl hbuilt hs hstate hstate fun last hl hlast _ => ?_
    obtain ⟨s', heq, hs', hstate', -⟩ := hl.go_on (ofRun_own (ofRun_interruptEvents now i)) (not_state_interruptEvents now i)
      rest
    rw [heq]
    exact hrest s' hs' fun hrun => absurd (hlast.symm.trans (hstate'.symm.trans hrun)) (launch.state_ne_running nofun)
  | @ran _ _ opened _ launch whole =>
    rw [own_append, own_append, own_append, List.append_assoc, List.append_assoc, List.append_assoc]
    refine onTime_build fun s hs hstate => launch.onTime [] rfl rfl hbuilt hs hstate hstate fun last hl _ hprecedes => ?_
    refine onTime_open hl (hprecedes rfl) fun s hs hopened => ?_
    have hrun : ∀ e ∈ own ([(opened + options.runFor, .windowOver)] : Events η), ofRun e.2 = true ∧ isState e.2 = false := by
      simp [own, Notice.own?, ofRun, isState]
    obtain ⟨s', heq, hs', -, hopened'⟩ := hs.go_on (fun e he => (hrun e he).1) (fun e he => (hrun e he).2) rest
    rw [heq]
    refine hrest s' hs' fun _ => ?_
    rw [hopened', hopened]
    exact windowEnd_of_whole whole
  | cutShort launch cut =>
    rw [own_append, own_append, own_append, List.append_assoc, List.append_assoc, List.append_assoc]
    refine onTime_build fun s hs hstate => launch.onTime [] rfl rfl hbuilt hs hstate hstate fun last hl _ hprecedes => ?_
    refine onTime_open hl (hprecedes rfl) fun s hs hopened => ?_
    have hrun : ∀ e ∈ own (interruptEvents now i ++ [(now, .stoppedEarly)] : Events η), ofRun e.2 = true := by
      rw [own_append, List.forall_mem_append]
      exact ⟨ofRun_own (ofRun_interruptEvents now i), by simp [own, Notice.own?, ofRun]⟩
    have hstate : ∀ e ∈ own (interruptEvents now i ++ [(now, .stoppedEarly)] : Events η), isState e.2 = false := by
      rw [own_append, List.forall_mem_append]
      exact ⟨not_state_interruptEvents now i, by simp [own, Notice.own?, isState]⟩
    obtain ⟨s', heq, hs', -, hopened'⟩ := hs.go_on hrun hstate rest
    rw [heq]
    refine hrest s' hs' fun _ => ?_
    rw [hopened', hopened]
    exact windowEnd_of_cut cut

/-- A run that does not fail gets to its window. -/
theorem Driving.opens {start built now : Nat} {events : Events η} {started : List (Started η)} {state : RunState}
    {interrupted : Bool}
    (h : Driving env options plan i start built events started now state none interrupted) :
    ∃ opened old, (opened, .state old .running) ∈ own events := by
  cases h with
  | @ran _ _ opened old launch whole =>
    refine ⟨opened, old, ?_⟩
    rw [own_append, own_append, own_openEvents]
    simp
  | @cutShort _ _ opened _ old launch cut =>
    refine ⟨opened, old, ?_⟩
    rw [own_append, own_append, own_openEvents]
    simp

end Driving

/-- A run that is on schedule, given its notices, its failure and its report. -/
structure OnSchedule (env : Environment ε σ η) (options : RunOptions) (plan : Plan) (i : Option Interruption) (start : Nat)
    (events : List (Nat × Notice Empty)) (failure : Option LaunchError) (report : Report) : Prop where
  /-- Its stages are on time, and all stops are in the one in which the processes are stopped. -/
  onTime : OnTime env options plan i (instants isStopCall events) (stages start events)
  /-- There is a run window unless the run fails. -/
  window : failure = none → ∃ s ∈ stages start events, s.state = .running
  /-- As many processes are stopped as were launched. -/
  stops_length : (instants isStopCall events).length = report.launched.length
  /-- The offsets of the report are the instants of the launches, from the start of the run on. -/
  launched_at : instants isLaunched events = report.launched.map fun r => start + r.offset
  /-- The offsets do not decrease. -/
  offsets_sorted : (report.launched.map LaunchRecord.offset).Pairwise (· ≤ ·)

/-- Every run keeps to its schedule: a group is launched as soon as the one before it is ready and has settled, likewise the
run window begins after the last group, and the processes are stopped as soon as it ends, after its time or with an
interrupt. -/
theorem run_onSchedule (env : Environment ε σ η) (options : RunOptions) (plan : Plan)
    (interrupt : Nat → Option Interruption) (start : Nat) (world : σ) :
    OnSchedule env options plan (interrupt (listensFrom env plan start world)) start
      (own (run env options plan interrupt start world).events) (run env options plan interrupt start world).failure
      (run env options plan interrupt start world).report := by
  obtain ⟨hreport, hfailure, -, -, hown⟩ := run_recording env options plan interrupt start world
  obtain @⟨events, after, started, now, state, records, drive, stop, htold, hrun⟩ :=
    run_course env options plan interrupt start world
  rw [← hown, ← hreport, ← hfailure]
  generalize run env.recording options plan interrupt start world = f at drive stop htold hrun ⊢
  have hbuilt : start ≤ listensFrom env plan start world := Activity.le_run_now env.elapse none (env.build plan) start world
  obtain ⟨-, hlength, -, hanswers⟩ := stop.stop_instants
  obtain ⟨hat, hsorted⟩ := drive.launched_at hbuilt
  obtain ⟨-, hfailed, hfailed'⟩ :=
    instants_of_ofRun (ofRun_own (ofRun_failureEvents now f.failure : ∀ e ∈ (failureEvents now f.failure : Events η), _))
  have hsplit : own f.events = own events ++ own (failureEvents now f.failure ++ (now, .state state .terminating) :: after ++
      [(f.now, .state .terminating .done)]) := by
    rw [← own_append, htold, List.append_assoc, List.append_assoc, List.append_assoc]
  have hend : ∀ kind : Notice Empty → Bool, (∀ old new, kind (.state old new) = false) →
      instants kind (own (failureEvents now f.failure ++ (now, .state state .terminating) :: after ++
        [(f.now, .state .terminating .done)])) =
      instants kind (own (failureEvents now f.failure : Events η)) ++ instants kind (own after) := by
    intro kind hk
    have hdone : instants kind (own ([(f.now, .state .terminating .done)] : Events η)) = [] :=
      instants_eq_nil_iff.2 (by simp [own, Notice.own?, hk])
    have hterm : instants kind (own ((now, .state state .terminating) :: after)) = instants kind (own after) := by
      have hone : instants kind (own ([(now, .state state .terminating)] : Events η)) = [] :=
        instants_eq_nil_iff.2 (by simp [own, Notice.own?, hk])
      rw [← List.singleton_append, own_append, instants_append, hone, List.nil_append]
    rw [own_append, own_append, instants_append, instants_append, hdone, hterm, List.append_nil]
  have hstops : instants isStopCall (own f.events) = instants isStopCall (own after) := by
    rw [hsplit, instants_append, hend isStopCall fun _ _ => rfl, drive.not_stopped, hfailed', List.nil_append,
      List.nil_append]
  have hlaunched : instants isLaunched (own f.events) = started.map fun p => start + p.record.offset := by
    rw [hsplit, instants_append, hend isLaunched fun _ _ => rfl, hfailed, hanswers, List.append_nil, List.append_nil, hat]
  have hrecords : f.report.launched = started.map Started.record := by rw [hrun]
  refine ⟨?_, fun hok => ?_, ?_, ?_, ?_⟩
  · rw [hstops, hsplit]
    exact drive.onTime hbuilt fun s hs hwindow => stop.onTime f.failure state hs hwindow
  · rw [hok] at drive
    obtain ⟨opened, old, hopen⟩ := drive.opens
    have hmem : (opened, Notice.state old .running) ∈ own f.events := by
      rw [hsplit, List.mem_append]
      exact Or.inl hopen
    obtain ⟨s, hs, hstate, -⟩ := exists_stage_of_state hmem ⟨.idle, start, []⟩
    exact ⟨s, hs, hstate⟩
  · rw [hstops, hlength, hrecords, List.length_map]
  · rw [hlaunched, hrecords, List.map_map]
    rfl
  · rw [hat, List.pairwise_map] at hsorted
    rw [hrecords, List.map_map, List.pairwise_map]
    exact hsorted.imp fun h => Nat.le_of_add_le_add_left h

end StagedLaunch.Supervisor
