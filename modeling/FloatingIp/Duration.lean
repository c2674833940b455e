import FloatingIp.Digits
import FloatingIp.Text.Blank

/-!
# Durations and their text

A duration is a number of nanoseconds.  `Duration.text` writes it as amounts of decreasing units
with blanks between them, and leaves out the units of which there are none; `Duration.ofText?`
reads that text, and amounts in any order, repeated, with several names for each unit, with
decimal places and with blanks almost anywhere.

Amounts are limited: each has to fit into 64 bits in the unit that it is kept in, seconds or
nanoseconds, so has the total in seconds, and decimal places must not go below that unit.
-/

namespace FloatingIp

/-- A span of time. -/
structure Duration where
  /-- Its length in nanoseconds. -/
  nanos : Nat
  deriving DecidableEq, Repr

namespace Duration

/-- A duration of whole milliseconds. -/
def ofMillis (n : Nat) : Duration := ⟨n * 1000000⟩

/-- A duration of whole seconds. -/
def ofSeconds (n : Nat) : Duration := ⟨n * 1000000000⟩

/-- The whole seconds of a duration. -/
def seconds (d : Duration) : Nat := d.nanos / 1000000000

/-- The nanoseconds of a duration beyond its whole seconds. -/
def subsecondNanos (d : Duration) : Nat := d.nanos % 1000000000

/-- The whole milliseconds of a duration. -/
def millis (d : Duration) : Nat := d.nanos / 1000000

/-- Whether a duration lies in a closed range. -/
def isWithin (d least greatest : Duration) : Bool :=
  least.nanos ≤ d.nanos && d.nanos ≤ greatest.nanos

/-- The longest duration that can be held: as many seconds as 64 bits can count, and all nanoseconds
of a further one but the last. -/
def longest : Duration := ⟨Digits.twoTo 64 * 1000000000 - 1⟩

/-- The sum of two durations, if it can be held. -/
def sum? (d e : Duration) : Option Duration :=
  if d.nanos + e.nanos ≤ longest.nanos then some ⟨d.nanos + e.nanos⟩ else none

/-- One of `n` equal parts of a duration, in whole nanoseconds. -/
def part (d : Duration) (n : Nat) : Duration := ⟨d.nanos / n⟩

/-! ## Units -/

/-- Units of time, shortest first. -/
inductive TimeUnit where
  | nanosecond
  | microsecond
  | millisecond
  | second
  | minute
  | hour
  | day
  | week
  | month
  | year
  deriving DecidableEq, Repr

namespace TimeUnit

/-- The length of a unit in nanoseconds.  A month has 30.44 days and a year 365.25. -/
def nanos : TimeUnit → Nat
  | nanosecond => 1
  | microsecond => 1000
  | millisecond => 1000000
  | second => 1000000000
  | minute => 60 * 1000000000
  | hour => 3600 * 1000000000
  | day => 86400 * 1000000000
  | week => 604800 * 1000000000
  | month => 2630016 * 1000000000
  | year => 31557600 * 1000000000

/-- The names of a unit. -/
def names : TimeUnit → List String
  | nanosecond => ["nanos", "nsec", "ns"]
  | microsecond => ["usec", "us", "µs"]
  | millisecond => ["millis", "msec", "ms"]
  | second => ["seconds", "second", "secs", "sec", "s"]
  | minute => ["minutes", "minute", "min", "mins", "m"]
  | hour => ["hours", "hour", "hrs", "hr", "h"]
  | day => ["days", "day", "d"]
  | week => ["weeks", "week", "wks", "wk", "w"]
  | month => ["months", "month", "M"]
  | year => ["years", "year", "yrs", "yr", "y"]

/-- All units. -/
def all : List TimeUnit :=
  [nanosecond, microsecond, millisecond, second, minute, hour, day, week, month, year]

/-- The unit of a name. -/
def ofName? (name : List Char) : Option TimeUnit :=
  all.find? fun u => u.names.contains (String.ofList name)

/-- The precision in which whole amounts of a unit are kept, in nanoseconds: seconds for units of
a second and more. -/
def grain (u : TimeUnit) : Nat :=
  if second.nanos ≤ u.nanos then second.nanos else 1

/-- The precision in which the decimal places of a unit are kept, in nanoseconds: seconds for
units of an hour and more. -/
def fractionGrain (u : TimeUnit) : Nat :=
  if hour.nanos ≤ u.nanos then second.nanos else 1

end TimeUnit

/-! ## Reading -/

/-- An amount of a unit, as it is written. -/
structure Amount where
  /-- The whole digits. -/
  whole : List Char
  /-- The decimal places, if there is a point. -/
  places : Option (List Char)
  /-- The name of the unit. -/
  unit : List Char
  deriving DecidableEq, Repr

/-- Whether a character belongs to a number or may stand in it. -/
def isNumeric (c : Char) : Bool :=
  Digits.isDigit 10 c || Text.isBlank c

/-- Whether a character may belong to the name of a unit. -/
def isUnitChar (c : Char) : Bool :=
  c.isAlpha || c = 'µ'

/-- Reads the decimal places behind a point, if there is a point. -/
def readPlaces (s : List Char) : Option (Option (List Char) × List Char) :=
  match s with
  | '.' :: rest =>
    let ds := (rest.takeWhile isNumeric).filter (Digits.isDigit 10)
    if ds.isEmpty then none else some (some ds, rest.dropWhile isNumeric)
  | _ => some (none, s)

/-- Reads an amount at the front of a text that starts with no blank. -/
def readAmount (s : List Char) : Option (Amount × List Char) := do
  let whole := (s.takeWhile isNumeric).filter (Digits.isDigit 10)
  let (places, rest) ← readPlaces (s.dropWhile isNumeric)
  let unit := rest.takeWhile isUnitChar
  if whole.isEmpty || unit.isEmpty then none
  else some (⟨whole, places, unit⟩, rest.dropWhile isUnitChar)

/-- The amounts of a text, at most `most` of them. -/
def readAmounts : (most : Nat) → List Char → Option (List Amount)
  | 0, s => if (s.dropWhile Text.isBlank).isEmpty then some [] else none
  | most + 1, s =>
    match s.dropWhile Text.isBlank with
    | [] => some []
    | s => do
      let (a, rest) ← readAmount s
      let more ← readAmounts most rest
      some (a :: more)

/-- A number that fits into 64 bits. -/
def word? (n : Nat) : Option Nat :=
  if n < Digits.twoTo 64 then some n else none

/-- Adds `n` grains of `grain` nanoseconds to a total. -/
def add? (total grain n : Nat) : Option Nat := do
  let sum := total % 1000000000 + (if grain = 1 then n else 0)
  let _ ← word? sum
  let total := total + n * grain
  let _ ← word? (total / 1000000000)
  some total

/-- The decimal places of a unit in grains; nothing if they go below the grain. -/
def placesValue? (unit : TimeUnit) (places : List Char) : Option Nat := do
  let d ← word? (Digits.tenTo places.length)
  let n ← word? (Digits.value 10 places * (unit.nanos / unit.fractionGrain))
  if unit = .nanosecond || n % d ≠ 0 then none else some (n / d)

/-- Adds an amount to a total. -/
def addAmount? (total : Nat) (a : Amount) : Option Nat := do
  let n ← word? (Digits.value 10 a.whole)
  let unit ← TimeUnit.ofName? a.unit
  let grains ← word? (n * (unit.nanos / unit.grain))
  let total ← add? total unit.grain grains
  match a.places with
  | none => some total
  | some places => add? total unit.fractionGrain (← placesValue? unit places)

/-- The duration that a text spells: at least one amount, or a lone zero. -/
def ofText? (s : String) : Option Duration :=
  if s = "0" then some ⟨0⟩
  else do
    let amounts ← readAmounts s.length s.toList
    if amounts.isEmpty then none else (amounts.foldlM addAmount? 0).map Duration.mk

/-! ## Writing -/

/-- An amount of a unit, left out if it is zero; `plural` follows an amount above one. -/
def amountText (n : Nat) (name plural : String) : List String :=
  if n = 0 then []
  else [Digits.decimal n ++ name ++ (if n = 1 then "" else plural)]

/-- The amounts of a duration, longest unit first. -/
def amountTexts (d : Duration) : List String :=
  let s := d.seconds
  let n := d.subsecondNanos
  let ofYear := s % 31557600
  let ofMonth := ofYear % 2630016
  let ofDay := ofMonth % 86400
  amountText (s / 31557600) "year" "s" ++ amountText (ofYear / 2630016) "month" "s" ++
    amountText (ofMonth / 86400) "day" "s" ++ amountText (ofDay / 3600) "h" "" ++
    amountText (ofDay % 3600 / 60) "m" "" ++ amountText (ofDay % 60) "s" "" ++
    amountText (n / 1000000) "ms" "" ++ amountText (n / 1000 % 1000) "us" "" ++
    amountText (n % 1000) "ns" ""

/-- The text of a duration. -/
def text (d : Duration) : String :=
  if d.nanos = 0 then "0s" else " ".intercalate d.amountTexts

end Duration
end FloatingIp
