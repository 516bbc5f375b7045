import StagedLaunch.Host.Basic

/-!
# Signals on a host

What a signal does to a process: it is ignored, caught by an action of a shell, or ends or halts the process.
-/

namespace StagedLaunch.Host

/-- Delivers a signal to a process that runs and does not ignore it. -/
def deliverTo (h : Host) (p : Process) (signal : Signal) : Host :=
  let default :=
    if signal.isHarmless then h
    else if signal.isHalt then h.update p.pid fun p => { p with halted := true }
    else h.finish p.pid (.killed signal)
  match p.task with
  | .shell s =>
    if !signal.isFinal && (s.traps.lookup signal.number).isSome then
      if s.caught.contains signal then h
      else h.update p.pid fun p => { p with task := .shell { s with caught := s.caught ++ [signal] } }
    else
      match signal == .interrupt, s.waiting with
      | true, .child _ => h.update p.pid fun p => { p with task := .shell { s with interrupted := true } }
      | _, _ => default
  | _ => default

/-- Delivers a signal to a process. -/
def deliver (h : Host) (pid : Nat) (signal : Signal) : Host :=
  match h.find? pid with
  | none => h
  | some p =>
    if p.status.isSome then h
    else if signal == .kill then h.finish pid (.killed .kill)
    else if p.ignored.contains signal && !signal.isFinal then h
    else if p.halted then h.update pid fun p => { p with pending := p.pending ++ [signal] }
    else h.deliverTo p signal

/-- Lets a halted process go on. -/
def resume (h : Host) (pid : Nat) : Host :=
  match h.find? pid with
  | none => h
  | some p =>
    p.pending.foldl (fun h signal => h.deliver pid signal)
      (h.update pid fun p => { p with halted := false, pending := [] })

/-- Sends a signal to a process; fails if there is none with the number. -/
def signal (h : Host) (pid : Nat) (signal : Signal) : Except OsError Unit × Host :=
  match h.find? pid with
  | none => (.error .noProcess, h)
  | some _ => (.ok (), if signal == .resume then (h.resume pid).deliver pid signal else h.deliver pid signal)

/-- Sends a signal to every process of a group; fails if it has none. -/
def signalGroup (h : Host) (group : Nat) (signal : Signal) : Except OsError Unit × Host :=
  let members := (h.processes.filter fun p => p.group == group).map Process.pid
  if members.isEmpty then (.error .noProcess, h)
  else (.ok (), members.foldl (fun h pid => (h.signal pid signal).2) h)

end StagedLaunch.Host
