/-!
# Log lines

Each part of the program reports what it does as notices of a type of its own.  A notice is
written as a `Log.Line`: how serious it is, what happened, and named details as text.
-/

namespace FloatingIp.Log

/-- How serious a line is. -/
inductive Level where
  | trace
  | debug
  | info
  | warn
  | error
  deriving DecidableEq, Repr

/-- The name of a level. -/
def Level.name : Level → String
  | trace => "TRACE"
  | debug => "DEBUG"
  | info => "INFO"
  | warn => "WARN"
  | error => "ERROR"

/-- One line of the log. -/
structure Line where
  /-- How serious the line is. -/
  level : Level
  /-- What happened. -/
  message : String
  /-- Details by name. -/
  fields : List (String × String)
  deriving DecidableEq, Repr

/-- The text of a truth value in a log line. -/
def flag (b : Bool) : String :=
  if b then "true" else "false"

/-- The parts of the program that write lines. -/
inductive Part where
  | watcher
  | consul
  | address
  | coordinator
  | reconciler
  | manager
  deriving DecidableEq, Repr

end FloatingIp.Log
