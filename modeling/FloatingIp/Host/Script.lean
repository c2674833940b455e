import FloatingIp.Host.IpTool

/-!
# A scripted machine

A machine for conversations about the address that follows a script: each command that starts
takes the next reply, and a command beyond the script ends with 127, as a shell does that knows
nothing of it.  Commands whose file cannot be run, or whose arguments cannot be passed, do not
start and take no reply.
-/

namespace FloatingIp.Host

/-- What a command does. -/
structure Reply where
  /-- How it ends. -/
  status : ExitStatus
  /-- What it writes to its first output. -/
  stdout : List UInt8
  /-- What it writes to its second output. -/
  stderr : List UInt8
  /-- How long it takes. -/
  takes : Duration
  deriving DecidableEq, Repr

/-- The reply of a shell that does not know a command. -/
def Reply.unknownCommand : Reply :=
  ⟨.code 127, [], [], ⟨0⟩⟩

/-- What becomes of a command that replies so: it is not waited for beyond its limit. -/
def Reply.outcome (r : Reply) (limit : Option Duration) : Outcome :=
  match limit with
  | none => .ended r.status r.stdout r.stderr
  | some d => if d.nanos ≤ r.takes.nanos then .expired else .ended r.status r.stdout r.stderr

/-- A machine that has the usual directories, a file that is not to be run, and commands that
follow a script where no path is given for them. -/
structure ScriptedMachine where
  /-- The paths that take the place of scripted commands. -/
  given : Program → Option String

namespace ScriptedMachine

/-- The files of the machine. -/
def files : Files.Place :=
  ⟨.dir [("dev", .dir [("null", .file [] false)]), ("etc", .dir [("passwd", .file [] false)]),
    ("home", .dir []), ("root", .dir []), ("tmp", .dir []), ("usr", .dir []), ("var", .dir [])], []⟩

/-- Why a command does not start, if it does not.  A name without a slash is not found. -/
def startFault? (m : ScriptedMachine) (c : Command) : Option StartFault :=
  let path := m.given c.program
  if (path.map Files.holdsNul).getD false || c.args.any Files.holdsNul then some .nulByte
  else match path with
    | none => none
    | some path =>
      if path.toList.contains '/' then (files.runFault? path).map .file
      else some (.file .notFound)

/-- The machine's answer to a command. -/
def answer (m : ScriptedMachine) (replies : List Reply) (c : Command) : Outcome × List Reply :=
  match m.startFault? c, replies with
  | some fault, replies => (.unstarted fault, replies)
  | none, r :: replies => (r.outcome c.limit, replies)
  | none, [] => (Reply.unknownCommand.outcome c.limit, [])

end ScriptedMachine

/-- The commands of a record that were started. -/
def Record.started (r : Record ν) : List Command :=
  r.commands.filterMap fun (c, o) =>
    match o with
    | .unstarted _ => none
    | _ => some c

end FloatingIp.Host
