import FloatingIp.Duration
import FloatingIp.Files

/-!
# Commands of the host

What the program asks of the host it asks through two commands, `ip` and `arping`.  A
conversation with the host is data: a `Dialogue` says which command comes next and how it goes on
from the outcome.  Nothing is run here; whoever holds a machine, real or imagined, can lead the
conversation with it, and a statement about a dialogue holds for every machine.
-/

namespace FloatingIp.Host

/-- The commands that are used. -/
inductive Program where
  /-- Inspects and changes addresses. -/
  | ip
  /-- Asks the network whether an address is taken. -/
  | arping
  deriving DecidableEq, Repr

/-- The usual name of a command. -/
def Program.name : Program → String
  | ip => "ip"
  | arping => "arping"

/-- Where the commands are found. -/
structure CommandPaths where
  ip : String
  arping : String
  deriving DecidableEq, Repr

/-- Without further wishes the commands are searched under their usual names. -/
def CommandPaths.standard : CommandPaths :=
  ⟨Program.ip.name, Program.arping.name⟩

/-- The path of a command. -/
def CommandPaths.of (paths : CommandPaths) : Program → String
  | .ip => paths.ip
  | .arping => paths.arping

/-- A command with its arguments. -/
structure Command where
  /-- What is run. -/
  program : Program
  /-- Its arguments. -/
  args : List String
  /-- How long it is waited for, if not for ever. -/
  limit : Option Duration
  deriving DecidableEq, Repr

/-- How a command ended. -/
inductive ExitStatus where
  /-- It ended by itself with a code. -/
  | code (n : Nat)
  /-- It died of a signal. -/
  | signal (n : Nat)
  deriving DecidableEq, Repr

/-- The name of a signal. -/
def signalName? : Nat → Option String
  | 1 => some "SIGHUP"
  | 2 => some "SIGINT"
  | 3 => some "SIGQUIT"
  | 4 => some "SIGILL"
  | 5 => some "SIGTRAP"
  | 6 => some "SIGABRT"
  | 7 => some "SIGBUS"
  | 8 => some "SIGFPE"
  | 9 => some "SIGKILL"
  | 10 => some "SIGUSR1"
  | 11 => some "SIGSEGV"
  | 12 => some "SIGUSR2"
  | 13 => some "SIGPIPE"
  | 14 => some "SIGALRM"
  | 15 => some "SIGTERM"
  | 16 => some "SIGSTKFLT"
  | 17 => some "SIGCHLD"
  | 18 => some "SIGCONT"
  | 19 => some "SIGSTOP"
  | 20 => some "SIGTSTP"
  | 21 => some "SIGTTIN"
  | 22 => some "SIGTTOU"
  | 23 => some "SIGURG"
  | 24 => some "SIGXCPU"
  | 25 => some "SIGXFSZ"
  | 26 => some "SIGVTALRM"
  | 27 => some "SIGPROF"
  | 28 => some "SIGWINCH"
  | 29 => some "SIGIO"
  | 30 => some "SIGPWR"
  | 31 => some "SIGSYS"
  | _ => none

/-- The text of an exit status. -/
def ExitStatus.text : ExitStatus → String
  | code n => "exit status: " ++ Digits.decimal n
  | signal n =>
    "signal: " ++ Digits.decimal n ++
      (match signalName? n with
        | some name => " (" ++ name ++ ")"
        | none => "")

/-- Why a command did not start. -/
inductive StartFault where
  /-- The file of the command cannot be run. -/
  | file (fault : Files.Fault)
  /-- The path or an argument holds the character that ends texts. -/
  | nulByte
  deriving DecidableEq, Repr

/-- The wording of a fault. -/
def StartFault.message : StartFault → String
  | file fault => fault.message
  | nulByte => "nul byte found in provided data"

/-- What became of a command. -/
inductive Outcome where
  /-- It did not start. -/
  | unstarted (fault : StartFault)
  /-- It ended, and wrote this to its two outputs. -/
  | ended (status : ExitStatus) (stdout stderr : List UInt8)
  /-- It was still running when its limit had passed. -/
  | expired
  deriving DecidableEq, Repr

/-- A conversation with the host: commands, notices of type `ν` on the way, and a result. -/
inductive Dialogue (ν α : Type) where
  /-- The conversation is over. -/
  | done (result : α)
  /-- A notice is made. -/
  | note (notice : ν) (next : Dialogue ν α)
  /-- A command is run. -/
  | run (command : Command) (next : Outcome → Dialogue ν α)

/-- What has happened in a conversation: commands with their outcomes, and notices. -/
structure Record (ν : Type) where
  /-- The commands, in order. -/
  commands : List (Command × Outcome)
  /-- The notices, in order. -/
  notices : List ν

namespace Dialogue

variable {ν α β σ : Type}

/-- Goes on with the result of a conversation. -/
def bind : Dialogue ν α → (α → Dialogue ν β) → Dialogue ν β
  | done a, f => f a
  | note n d, f => note n (d.bind f)
  | run c k, f => run c fun o => (k o).bind f

/-- Turns the result of a conversation into another. -/
def map (f : α → β) (d : Dialogue ν α) : Dialogue ν β :=
  d.bind fun a => done (f a)

/-- Leads a conversation with a machine that answers from a state. -/
def lead (machine : σ → Command → Outcome × σ) : Dialogue ν α → σ → α × Record ν × σ
  | done a, s => (a, ⟨[], []⟩, s)
  | note n d, s =>
    let (a, r, s) := d.lead machine s
    (a, { r with notices := n :: r.notices }, s)
  | run c k, s =>
    let (o, s) := machine s c
    let (a, r, s) := (k o).lead machine s
    (a, { r with commands := (c, o) :: r.commands }, s)

end Dialogue
end FloatingIp.Host
