import FloatingIp.Convergence.Talk
import FloatingIp.Host.Script
import FloatingIp.Log
import FloatingIp.Rehearsal.Convergence
import FloatingIp.Setup

/-!
# Rehearsing a service without a store

Where no store can be reached nobody leads, so a running program only removes the address, and
releases it at the end.  It is played on a scripted machine until so many commands have run, with
rechecks in between as they are due, and then called off.
-/

namespace FloatingIp.Rehearsal.ServicePlay

open FloatingIp (Convergence)

/-- A running program. -/
structure State where
  /-- Coordinator and reconciler. -/
  system : Convergence
  /-- The tool for the address. -/
  tool : Host.IpTool
  /-- The machine. -/
  machine : Host.ScriptedMachine
  /-- What the commands to come will do. -/
  replies : List Host.Reply
  /-- The commands that have run, in order. -/
  commands : List Host.Command

/-- The beginning of what was set up. -/
def State.new {Client : Type} (m : Setup Client) (machine : Host.ScriptedMachine)
    (replies : List Host.Reply) : State :=
  ⟨m.convergence, m.tool, machine, replies, []⟩

/-- Makes a move of coordinator and reconciler. -/
def move? (s : State) (m : Convergence.Move) : Option State :=
  (s.system.move? m).map fun system => { s with system }

/-- Leads the conversation of the call that the reconciler is in. -/
def answer? (s : State) : Option State := do
  let call ← s.system.reconciler.phase.call?
  let (a, record, replies) := (call.talk s.tool).lead s.machine.answer s.replies
  let s ← move? s (.answer a)
  some { s with replies, commands := s.commands ++ record.started }

/-- What happens next. -/
def next? (s : State) : Option State :=
  move? s .begin <|> answer? s <|> move? s .join <|> move? s .drain <|> move? s .recheck <|>
    move? s .wake

/-- How a program is driven. -/
def clockwork : Clockwork State where
  now s := s.system.now
  next? := next?
  due? s := ConvergencePlay.recheckTime? s.system
  wait s millis := (move? s (.elapse millis)).getD s

/-- Plays until `count` commands have run, and calls the work off then.  Every recheck runs a
command, if it can be started at all. -/
def playAndCancel (s : State) (count : Nat) : State :=
  let time := (count + 1) * s.system.interval
  let s := clockwork.playUntil (fun s => count ≤ s.commands.length) time s
  clockwork.settle ((move? s .cancel).getD s)

/-- What is told at the end. -/
def closingLine (stats : Convergence.Stats) : Log.Line :=
  ⟨.info, "vip-manager stopped", stats.fields⟩

end FloatingIp.Rehearsal.ServicePlay
