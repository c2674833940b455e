/-!
# Reading a YAML text

A cursor stands at a position of a text and has the rest of the text before it.  Lines end at any
of five characters, or at a carriage return with a line feed behind it, which counts as one
character of a line's end; blanks are spaces and tabs, and what is neither blank nor line end
belongs to a word.

A gap is what stands between two words: blanks within a line, or line ends with the blanks around
them.  In a folded text a gap reads as one blank if it has one line end, and as the further line
ends if it has more.
-/

namespace FloatingIp.Yaml

/-- Whether a character ends a line. -/
def isBreak (c : Char) : Bool :=
  c = '\n' || c = '\r' || c = '\u0085' || c = '\u2028' || c = '\u2029'

/-- Whether a character is a blank. -/
def isBlank (c : Char) : Bool :=
  c = ' ' || c = '\t'

/-- Whether a character stands between words. -/
def isGap (c : Char) : Bool :=
  isBlank c || isBreak c

/-- Whether a text begins with no word. -/
def startsGap : List Char → Bool
  | [] => true
  | c :: _ => isGap c

/-- Whether a text begins with the end of its line. -/
def startsBreak : List Char → Bool
  | [] => true
  | c :: _ => isBreak c

/-- What a line end is read as: a line feed, or itself if it is one of the Unicode separators. -/
def breakChar (c : Char) : Char :=
  if c = '\u2028' ∨ c = '\u2029' then c else '\n'

/-- Whether a character may stand in a text at all. -/
def isAdmitted (c : Char) : Bool :=
  let n := c.toNat
  n = 0x09 || n = 0x0A || n = 0x0D || (0x20 ≤ n && n ≤ 0x7E) || n = 0x85 ||
    (0xA0 ≤ n && n ≤ 0xD7FF) || (0xE000 ≤ n && n ≤ 0xFFFD) || 0x10000 ≤ n

/-- A position in a text; all three count from zero. -/
structure Position where
  /-- The number of characters before it. -/
  index : Nat
  /-- The number of lines before it. -/
  line : Nat
  /-- The number of characters before it in its line. -/
  column : Nat
  deriving DecidableEq, Repr

namespace Position

/-- The beginning of a text. -/
def start : Position :=
  ⟨0, 0, 0⟩

/-- The position some characters further in the same line. -/
def advance (p : Position) (n : Nat) : Position :=
  ⟨p.index + n, p.line, p.column + n⟩

/-- The beginning of the next line, behind a line end of some characters. -/
def nextLine (p : Position) (n : Nat) : Position :=
  ⟨p.index + n, p.line + 1, 0⟩

end Position

/-- A position with the text behind it. -/
structure Cursor where
  /-- The text that is left. -/
  rest : List Char
  /-- Where it begins. -/
  place : Position
  deriving DecidableEq, Repr

namespace Cursor

/-- The column of a cursor. -/
def column (c : Cursor) : Nat :=
  c.place.column

/-- The cursor behind some characters, none of which ends a line. -/
def advance (c : Cursor) (n : Nat) : Cursor :=
  ⟨c.rest.drop n, c.place.advance n⟩

/-- The longest run of characters that satisfy `p`, which ends with the line at the latest. -/
def takeWhile (c : Cursor) (p : Char → Bool) : List Char × Cursor :=
  let run := c.rest.takeWhile fun x => p x && !isBreak x
  (run, c.advance run.length)

/-- The cursor behind all characters that satisfy `p`, at the end of the line at the latest. -/
def skipWhile (c : Cursor) (p : Char → Bool) : Cursor :=
  (c.takeWhile p).2

/-- Takes a line end: what it is read as, and the cursor behind it. -/
def takeBreak? (c : Cursor) : Option (Char × Cursor) :=
  match c.rest with
  | '\r' :: '\n' :: rest => some ('\n', ⟨rest, c.place.nextLine 2⟩)
  | b :: rest => if isBreak b then some (breakChar b, ⟨rest, c.place.nextLine 1⟩) else none
  | [] => none

/-- The cursor behind a line end, if there is one. -/
def skipBreak (c : Cursor) : Cursor :=
  match c.takeBreak? with
  | some (_, c) => c
  | none => c

/-- Whether three times `mark`, followed by a gap, begin the line. -/
def atMark (c : Cursor) (mark : Char) : Bool :=
  c.column = 0 &&
    match c.rest with
    | x :: y :: z :: rest => x = mark && y = mark && z = mark && startsGap rest
    | _ => false

/-- Whether a document begins or ends here. -/
def atDocumentMark (c : Cursor) : Bool :=
  c.atMark '-' || c.atMark '.'

/-- Takes the blanks and a comment up to the end of the line, and the line end.  There must be
nothing else. -/
def finishLine? (c : Cursor) : Option Cursor :=
  let c := c.skipWhile isBlank
  let c := if c.rest.head? = some '#' then c.skipWhile fun _ => true else c
  if startsBreak c.rest then some c.skipBreak else none

end Cursor

/-! ## Gaps -/

/-- What stands between two words. -/
structure Gap where
  /-- Blanks before the first line end. -/
  blanks : List Char
  /-- Whether there is a line end, or the end of the line was escaped. -/
  broken : Bool
  /-- The first line end, if it was not escaped. -/
  first : Option Char
  /-- Further line ends. -/
  more : List Char
  /-- Whether a tab stands where a line is still to be indented. -/
  tabbed : Bool
  deriving DecidableEq, Repr

namespace Gap

/-- Nothing yet. -/
def empty : Gap :=
  ⟨[], false, none, [], false⟩

/-- Nothing yet, behind an escaped line end. -/
def escaped : Gap :=
  ⟨[], true, none, [], false⟩

/-- Adds a blank at a column; `indent` is where the text of a line may begin. -/
def addBlank (g : Gap) (c : Char) (column indent : Nat) : Gap :=
  if g.broken then { g with tabbed := g.tabbed || (c = '\t' && column < indent) }
  else { g with blanks := g.blanks ++ [c] }

/-- Adds a line end. -/
def addBreak (g : Gap) (c : Char) : Gap :=
  if g.broken then { g with more := g.more ++ [c] } else { g with broken := true, first := some c }

/-- What a gap is read as in a folded text. -/
def text (g : Gap) : List Char :=
  if !g.broken then g.blanks
  else match g.first with
    | some '\n' => if g.more.isEmpty then [' '] else g.more
    | some c => c :: g.more
    | none => g.more

/-- Reads on to the next word. -/
def read (indent : Nat) (g : Gap) (p : Position) : List Char → Gap × Cursor
  | [] => (g, ⟨[], p⟩)
  | '\r' :: '\n' :: rest => read indent (g.addBreak '\n') (p.nextLine 2) rest
  | c :: rest =>
    if isBlank c then read indent (g.addBlank c p.column indent) (p.advance 1) rest
    else if isBreak c then read indent (g.addBreak (breakChar c)) (p.nextLine 1) rest
    else (g, ⟨c :: rest, p⟩)

end Gap

end FloatingIp.Yaml
