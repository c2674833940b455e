import FloatingIp.Digits
import FloatingIp.Log

/-!
# What is logged

A filter is a list of directives, each for the lines whose origin begins with a certain text, or
for all lines.  The one with the longest such text decides.  A directive that is only a level is
for all lines, one without a level admits all of its lines, and without any directive the errors
are logged.
-/

namespace FloatingIp.Log

/-- How serious a level is, from 1 for errors to 5 for the least serious. -/
def Level.rank : Level → Nat
  | error => 1
  | warn => 2
  | info => 3
  | debug => 4
  | trace => 5

/-- The names of thresholds, from the one that admits nothing to the one that admits everything. -/
def thresholdNames : List String :=
  ["off", "error", "warn", "info", "debug", "trace"]

/-- The threshold of a name in any case, or of a number. -/
def threshold? (name : String) : Option Nat :=
  match Digits.read? 10 name.toList with
  | some n => if n ≤ 5 then some n else none
  | none => thresholdNames.idxOf? (String.ofList (name.toList.map Char.toLower))

/-- A directive. -/
structure Directive where
  /-- How the origin of a line begins. -/
  origin : String
  /-- The greatest rank that is admitted. -/
  threshold : Nat
  deriving DecidableEq, Repr

/-- Whether a character may stand in an origin. -/
def isOriginChar (c : Char) : Bool :=
  c.isAlphanum || c = '_' || c = ':' || c = '-' || c = '.'

/-- The directive of a text. -/
def Directive.ofText? (s : String) : Option Directive :=
  match threshold? s with
  | some threshold => some ⟨"", threshold⟩
  | none =>
    let origin := s.toList.takeWhile (· ≠ '=')
    if origin.isEmpty || !origin.all isOriginChar then none
    else match s.toList.dropWhile (· ≠ '=') with
      | [] => some ⟨s, 5⟩
      | _ :: level =>
        if level.isEmpty then some ⟨String.ofList origin, 5⟩
        else (threshold? (String.ofList level)).map fun n => ⟨String.ofList origin, n⟩

/-- A filter. -/
structure Filter where
  directives : List Directive
  deriving DecidableEq, Repr

namespace Filter

/-- The filter of a text: its directives stand between commas, and what is none is passed over. -/
def ofText (s : String) : Filter :=
  match (s.splitOn ",").filterMap Directive.ofText? with
  | [] => ⟨[⟨"", Level.error.rank⟩]⟩
  | directives => ⟨directives⟩

/-- The directive that decides about the lines of an origin: the longest that applies, the last of
equally long ones. -/
def decisive? (f : Filter) (origin : String) : Option Directive :=
  (f.directives.filter fun d => d.origin.toList.isPrefixOf origin.toList).foldl
    (fun best d => if best.all (·.origin.length ≤ d.origin.length) then some d else best) none

/-- Whether the lines of an origin are logged at a level. -/
def admits (f : Filter) (origin : String) (l : Level) : Bool :=
  (f.decisive? origin).any fun d => l.rank ≤ d.threshold

end Filter
end FloatingIp.Log
