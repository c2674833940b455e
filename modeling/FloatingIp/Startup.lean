import FloatingIp.CommandLine
import FloatingIp.Settings.Loading

/-!
# Starting the program

Between the command line and the first step of the manager the program can end in a few ways: it
has printed what was asked for, the command line is faulty, or there are no settings to run with.
-/

namespace FloatingIp.Startup

/-- How a program has ended. -/
structure Ending where
  /-- The exit code. -/
  code : Nat
  /-- What was printed. -/
  stdout : String
  /-- What was complained about. -/
  stderr : String
  deriving DecidableEq, Repr

/-- The exit code without settings. -/
def noSettings : Nat := 1

/-- The exit code of a faulty command line. -/
def faultyCommandLine : Nat := 2

/-- What is complained about without settings. -/
def complaint (fault : Settings.LoadFault) : String :=
  "Configuration error: " ++ fault.message ++ "\n"

/-- The settings to run with, or how the program ends without running. -/
def start (look : Settings.Look) (home : Option String) (args : List String) :
    Except Ending Settings :=
  match CommandLine.parse args with
  | .error fault => .error ⟨faultyCommandLine, "", fault.message⟩
  | .ok .help => .error ⟨0, CommandLine.helpText, ""⟩
  | .ok .version => .error ⟨0, CommandLine.versionText, ""⟩
  | .ok (.run file) =>
    match Settings.load look home file with
    | .error fault => .error ⟨noSettings, "", complaint fault⟩
    | .ok s => .ok s

end FloatingIp.Startup
