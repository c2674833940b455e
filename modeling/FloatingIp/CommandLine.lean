import FloatingIp.Text.Similar

/-!
# The command line

The program has three options: the configuration file, and the two that only print something,
which happens as soon as one of them is met.  Options may be written short or long; short ones can
be joined, and the file can stand behind its option, joined to it or after an equals sign.

A file that stands as an argument of its own is only looked at when the next option is met, or at
the end: what is wrong with it is told then, and not at all if something worse comes in between.
-/

namespace FloatingIp.CommandLine

/-- The options. -/
inductive Opt where
  | config
  | help
  | version
  deriving DecidableEq, Repr

namespace Opt

/-- All options. -/
def all : List Opt :=
  [config, help, version]

/-- The long name of an option. -/
def long : Opt → String
  | config => "config"
  | help => "help"
  | version => "version"

/-- The short name of an option. -/
def short : Opt → Char
  | config => 'c'
  | help => 'h'
  | version => 'V'

/-- How an option is written in usages and complaints. -/
def usage : Opt → String
  | config => "--config <CONFIG>"
  | help => "--help"
  | version => "--version"

/-- The option of a long name. -/
def ofLong? (name : String) : Option Opt :=
  all.find? fun o => o.long = name

/-- The option of a short name. -/
def ofShort? (c : Char) : Option Opt :=
  all.find? fun o => o.short = c

end Opt

/-- What is wrong with a command line. -/
inductive Fault where
  /-- There is no such argument; `similar` may have been meant, and `used` is what the usage is
  about. -/
  | unexpected (arg : String) (similar : Option Opt) (used : List Opt)
  /-- An option that needs none has a value. -/
  | unexpectedValue (value : String) (option : Opt) (used : List Opt)
  /-- No file is given behind its option. -/
  | missingFile
  /-- The file is given twice. -/
  | repeatedFile
  deriving DecidableEq, Repr

/-- What a command line asks for. -/
inductive Request where
  /-- The program shall run, with a file or without. -/
  | run (file : Option String)
  /-- The help shall be printed. -/
  | help
  /-- The version shall be printed. -/
  | version
  deriving DecidableEq, Repr

/-! ## Reading -/

/-- How reading can end early. -/
inductive Stop where
  | fault (f : Fault)
  | print (r : Request)
  deriving DecidableEq, Repr

/-- What has been read. -/
structure State where
  /-- The file that was given. -/
  file : Option String
  /-- The option of a file that has been met and not looked at, with its value if that was met. -/
  pending : Option (Option String)
  /-- Whether only values may follow. -/
  onlyValues : Bool
  deriving DecidableEq, Repr

namespace State

/-- Nothing has been read. -/
def start : State :=
  ⟨none, none, false⟩

/-- Notes the file.  A second file displaces the first one even though it is refused, and an empty
one is noted even though it is refused. -/
def setFile (s : State) (value : String) : Option Fault × State :=
  match s.file with
  | some _ => (some .repeatedFile, { s with file := none })
  | none => (if value.isEmpty then some .missingFile else none, { s with file := some value })

/-- Looks at the file that has been met. -/
def settle (s : State) : Option Fault × State :=
  match s.pending with
  | none => (none, s)
  | some none => (some .missingFile, { s with pending := none })
  | some (some value) => { s with pending := none }.setFile value

/-- Looks at the file that has been met, and goes on if there is nothing wrong with it. -/
def settled (s : State) : Except Stop State :=
  match s.settle with
  | (none, s) => .ok s
  | (some f, _) => .error (.fault f)

/-- The options that a usage mentions. -/
def used (s : State) : List Opt :=
  if s.file.isSome then [.config] else []

/-- Refuses an argument, whatever is wrong with the file. -/
def refuse (s : State) (arg : String) (similar : Option Opt) (used : List Opt → List Opt) :
    Except Stop State :=
  .error (.fault (.unexpected arg similar (used s.settle.2.used)))

/-- Reads the option of the file, with its value if it is joined to it. -/
def readFile (s : State) (value : Option String) : Except Stop State := do
  let s ← s.settled
  match value with
  | none => .ok { s with pending := some none }
  | some value =>
    match s.setFile value with
    | (none, s) => .ok s
    | (some f, _) => .error (.fault f)

/-- Reads an option that prints something. -/
def readPrint (s : State) (r : Request) : Except Stop State := do
  let _ ← s.settled
  .error (.print r)

/-- How similar a name has to be to be suggested. -/
def leastSimilarity : Float := 0.7

/-- The option that may have been meant by a long name. -/
def meant? (name : String) : Option Opt :=
  (Text.mostSimilar? leastSimilarity name (Opt.all.map Opt.long)).bind Opt.ofLong?

/-- Reads a long option. -/
def readLong (s : State) (name : String) (value : Option String) : Except Stop State :=
  match Opt.ofLong? name, value with
  | some .config, value => s.readFile value
  | some o, some value => .error (.fault (.unexpectedValue value o (s.used ++ [o])))
  | some .help, none => s.readPrint .help
  | some .version, none => s.readPrint .version
  | none, _ =>
    let similar := meant? name
    s.refuse ("--" ++ name) similar fun used =>
      match similar with
      | some o => if used.contains o then used else used ++ [o]
      | none => used

/-- Reads short options that are joined. -/
def readShorts (s : State) : List Char → Except Stop State
  | [] => .ok s
  | c :: rest =>
    match Opt.ofShort? c with
    | some .config =>
      match rest with
      | [] => s.readFile none
      | '=' :: value => s.readFile (some (String.ofList value))
      | value => s.readFile (some (String.ofList value))
    | some .help => s.readPrint .help
    | some .version => s.readPrint .version
    | none => s.refuse (String.ofList ['-', c]) none fun _ => []

/-- Reads an argument that is no option. -/
def readValue (s : State) (arg : String) : Except Stop State :=
  if s.pending = some none ∧ !s.onlyValues then .ok { s with pending := some (some arg) }
  else s.refuse arg none fun _ => []

/-- A long option with what stands behind its first equals sign. -/
def splitLong (body : List Char) : String × Option String :=
  let name := body.takeWhile (· ≠ '=')
  match body.dropWhile (· ≠ '=') with
  | _ :: value => (String.ofList name, some (String.ofList value))
  | [] => (String.ofList name, none)

/-- Reads an argument. -/
def readArg (s : State) (arg : String) : Except Stop State :=
  if s.onlyValues then s.readValue arg
  else match arg.toList with
    | ['-', '-'] => .ok { s with onlyValues := true }
    | '-' :: '-' :: body => let (name, value) := splitLong body; s.readLong name value
    | '-' :: c :: cs => s.readShorts (c :: cs)
    | _ => s.readValue arg

end State

/-- What a command line asks for. -/
def parse (args : List String) : Except Fault Request :=
  match args.foldlM State.readArg State.start >>= State.settled with
  | .ok s => .ok (.run s.file)
  | .error (.print r) => .ok r
  | .error (.fault f) => .error f

/-! ## Printing -/

/-- The name of the program. -/
def programName : String := "vip-manager"

/-- The version of the program. -/
def programVersion : String := "0.1.0"

/-- What the version option prints. -/
def versionText : String :=
  programName ++ " " ++ programVersion ++ "\n"

/-- The usage that mentions some options, or all of them. -/
def usageText (used : List Opt) : String :=
  "Usage: " ++ programName ++ " " ++
    (if used.isEmpty then "[OPTIONS]" else " ".intercalate (used.map Opt.usage))

/-- What the help option prints. -/
def helpText : String :=
  "Keeps a virtual IP on the current leader node\n\n" ++ usageText [] ++ "\n\nOptions:\n" ++
    "  -c, --config <CONFIG>  Configuration file (defaults to the standard search paths)\n" ++
    "  -h, --help             Print help\n" ++
    "  -V, --version          Print version\n"

/-- What is wrong, with a hint and a usage where they help. -/
def Fault.explanation : Fault → String
  | unexpected arg similar used =>
    "unexpected argument '" ++ arg ++ "' found\n\n" ++
      (match similar with
        | some o => "  tip: a similar argument exists: '--" ++ o.long ++ "'\n\n"
        | none => "") ++ usageText used
  | unexpectedValue value o used =>
    "unexpected value '" ++ value ++ "' for '" ++ o.usage ++ "' found; no more were expected\n\n" ++
      usageText used
  | missingFile =>
    "a value is required for '" ++ Opt.config.usage ++ "' but none was supplied"
  | repeatedFile =>
    "the argument '" ++ Opt.config.usage ++ "' cannot be used multiple times\n\n" ++ usageText []

/-- What is printed about a fault. -/
def Fault.message (f : Fault) : String :=
  "error: " ++ f.explanation ++ "\n\nFor more information, try '--help'.\n"

end FloatingIp.CommandLine
