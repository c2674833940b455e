import FloatingIp.Digits
import FloatingIp.Yaml.Cursor

/-!
# Scalars

A scalar is a text that is written in one of five styles.  Plain and quoted ones are words with
gaps between them and are folded; in double quotes there are escapes.  Block scalars consist of
whole lines, literally or folded, and the indentation of the first line is taken off all of them.
Each reader begins at the first character of the scalar and returns the text with the cursor
behind it; it returns nothing if the scalar is malformed.
-/

namespace FloatingIp.Yaml

/-- How a scalar is written. -/
inductive Style where
  | plain
  | singleQuoted
  | doubleQuoted
  | literal
  | folded
  deriving DecidableEq, Repr

namespace Scalar

/-! ## Plain scalars -/

/-- The characters that have a meaning of their own between brackets. -/
def flowIndicators : List Char :=
  [',', '[', ']', '{', '}']

/-- Whether a character right behind a colon makes the colon malformed between brackets. -/
def spoilsColon (c : Char) : Bool :=
  c = '?' || flowIndicators.contains c

/-- Takes a word of a plain scalar: it ends before a gap, before a colon with a gap behind it, and
between brackets before a character with a meaning there.  A colon with such a character behind it
is malformed. -/
def plainWord (inFlow : Bool) : List Char → Option (List Char)
  | [] => some []
  | c :: rest =>
    if isGap c then some []
    else if inFlow ∧ c = ':' ∧ rest.head?.any spoilsColon then none
    else if (c = ':' ∧ startsGap rest) ∨ (inFlow ∧ flowIndicators.contains c) then some []
    else (plainWord inFlow rest).map (c :: ·)

/-- A plain scalar that has been read. -/
structure Plain where
  /-- Its text. -/
  text : List Char
  /-- Whether a line end stands behind its last word. -/
  broken : Bool
  /-- The cursor behind it and the gap that follows it. -/
  cursor : Cursor

/-- Reads on in a plain scalar whose text so far is `text`, with `gap` behind it; lines begin at
column `indent` or further right. -/
def plainFrom (inFlow : Bool) (indent : Nat) :
    (most : Nat) → (text : List Char) → (gap : Gap) → Cursor → Option Plain
  | 0, text, gap, c => some ⟨text, gap.broken, c⟩
  | most + 1, text, gap, c =>
    if c.atDocumentMark ∨ c.rest.head? = some '#' then some ⟨text, gap.broken, c⟩
    else
      match plainWord inFlow c.rest with
      | none => none
      | some [] => some ⟨text, gap.broken, c⟩
      | some word =>
        let text := text ++ gap.text ++ word
        let c := c.advance word.length
        let (gap, c) := Gap.read indent Gap.empty c.place c.rest
        if gap.tabbed then none
        else if !gap.broken ∧ gap.blanks.isEmpty then some ⟨text, false, c⟩
        else if !inFlow ∧ c.column < indent then some ⟨text, gap.broken, c⟩
        else plainFrom inFlow indent most text gap c

/-- Reads a plain scalar. -/
def readPlain (inFlow : Bool) (indent : Nat) (c : Cursor) : Option Plain :=
  plainFrom inFlow indent (c.rest.length + 1) [] Gap.empty c

/-! ## Quoted scalars -/

/-- What an escape of one character stands for. -/
def escape? (c : Char) : Option Char :=
  [('0', '\x00'), ('a', '\x07'), ('b', '\x08'), ('t', '\t'), ('\t', '\t'), ('n', '\n'),
    ('v', '\x0B'), ('f', '\x0C'), ('r', '\r'), ('e', '\x1B'), (' ', ' '), ('"', '"'), ('/', '/'),
    ('\\', '\\'), ('N', '\u0085'), ('_', '\u00A0'), ('L', '\u2028'), ('P', '\u2029')].lookup c

/-- The number of digits of an escape that gives a code point. -/
def escapeLength? (c : Char) : Option Nat :=
  [('x', 2), ('u', 4), ('U', 8)].lookup c

/-- The character of a code point in hexadecimal digits. -/
def codePoint? (digits : List Char) : Option Char :=
  match Digits.read? 16 digits with
  | some n => if n.isValidChar then some (Char.ofNat n) else none
  | none => none

/-- A word of a quoted scalar. -/
structure QuotedWord where
  /-- Its text. -/
  text : List Char
  /-- Whether it ends with an escaped line end. -/
  escaped : Bool
  /-- The cursor behind it. -/
  cursor : Cursor

/-- A word with a character in front. -/
def QuotedWord.push (c : Char) (w : QuotedWord) : QuotedWord :=
  { w with text := c :: w.text }

/-- The quote of a style. -/
def quote (double : Bool) : Char :=
  if double then '"' else '\''

/-- Takes a word of a quoted scalar: it ends before a gap, before the closing quote, and behind an
escaped line end.  In single quotes a quote is written twice. -/
def quotedWord (double : Bool) (p : Position) : List Char → Option QuotedWord
  | [] => some ⟨[], false, ⟨[], p⟩⟩
  | c :: rest =>
    if isGap c then some ⟨[], false, ⟨c :: rest, p⟩⟩
    else if !double ∧ c = '\'' ∧ rest.head? = some '\'' then
      (quotedWord double (p.advance 2) rest.tail).map (.push c)
    else if c = quote double then some ⟨[], false, ⟨c :: rest, p⟩⟩
    else if double ∧ c = '\\' then
      match Cursor.takeBreak? ⟨rest, p.advance 1⟩ with
      | some (_, c) => some ⟨[], true, c⟩
      | none =>
        match rest with
        | [] => none
        | e :: rest =>
          match escape? e, escapeLength? e with
          | some c, _ => (quotedWord double (p.advance 2) rest).map (.push c)
          | none, none => none
          | none, some n =>
            match if n ≤ rest.length then codePoint? (rest.take n) else none with
            | none => none
            | some c => (quotedWord double (p.advance (2 + n)) (rest.drop n)).map (.push c)
    else (quotedWord double (p.advance 1) rest).map (.push c)
termination_by s => s.length
decreasing_by all_goals simp_all <;> omega

/-- Reads on in a quoted scalar whose text so far is `text`. -/
def quotedFrom (double : Bool) :
    (most : Nat) → (text : List Char) → Cursor → Option (List Char × Cursor)
  | 0, _, _ => none
  | most + 1, text, c =>
    if c.atDocumentMark then none
    else do
      let w ← quotedWord double c.place c.rest
      let text := text ++ w.text
      if w.cursor.rest.head? = some (quote double) then some (text, w.cursor.advance 1)
      else if w.cursor.rest.isEmpty then none
      else
        let (gap, c) := Gap.read 0 (if w.escaped then Gap.escaped else Gap.empty)
          w.cursor.place w.cursor.rest
        quotedFrom double most (text ++ gap.text) c

/-- Reads a quoted scalar from its opening quote. -/
def readQuoted (double : Bool) (c : Cursor) : Option (List Char × Cursor) :=
  quotedFrom double c.rest.length [] (c.advance 1)

/-! ## Block scalars -/

/-- What becomes of the line ends behind the last line of a block scalar. -/
inductive Chomping where
  /-- None of them counts. -/
  | strip
  /-- The first one counts. -/
  | clip
  /-- All of them count. -/
  | keep
  deriving DecidableEq, Repr

/-- What the first line of a block scalar says. -/
structure Header where
  chomping : Chomping
  /-- The indentation of the text, counted from that of the surroundings. -/
  indentation : Option Nat
  deriving DecidableEq, Repr

/-- The chomping that a sign asks for. -/
def chomping? (c : Char) : Option Chomping :=
  if c = '+' then some .keep else if c = '-' then some .strip else none

/-- The indentation that a digit asks for; a zero is malformed. -/
def indentation? (c : Char) : Option (Option Nat) :=
  match Digits.value? 10 c with
  | some 0 => some none
  | some n => some (some n)
  | none => none

/-- Reads the header behind the indicator: a sign and a digit, in either order, or one of them. -/
def readHeader (c : Cursor) : Option (Header × Cursor) :=
  let digit (h : Header) (c : Cursor) : Option (Header × Cursor) :=
    match c.rest.head?.bind indentation? with
    | some none => none
    | some n => some ({ h with indentation := n }, c.advance 1)
    | none => some (h, c)
  let sign (h : Header) (c : Cursor) : Header × Cursor :=
    match c.rest.head?.bind chomping? with
    | some chomping => ({ h with chomping }, c.advance 1)
    | none => (h, c)
  let plain : Header := ⟨.clip, none⟩
  match c.rest.head?.bind chomping? with
  | some _ => let (h, c) := sign plain c; digit h c
  | none => (digit plain c).map fun (h, c) => if h.indentation.isSome then sign h c else (h, c)

/-- Reads the empty lines before a line of text and the indentation of that line: the line ends,
and the greatest column that was reached.  No tab may stand where a line is still to be indented. -/
def readMargin (indent : Option Nat) (breaks : List Char) (reached : Nat) (p : Position) :
    List Char → Option (List Char × Nat × Cursor)
  | [] => some (breaks, max reached p.column, ⟨[], p⟩)
  | '\r' :: '\n' :: rest =>
    readMargin indent (breaks ++ ['\n']) (max reached p.column) (p.nextLine 2) rest
  | c :: rest =>
    let isDue := indent.all (p.column < ·)
    if isDue && c = ' ' then readMargin indent breaks reached (p.advance 1) rest
    else if isDue && c = '\t' then none
    else if isBreak c then
      readMargin indent (breaks ++ [breakChar c]) (max reached p.column) (p.nextLine 1) rest
    else some (breaks, max reached p.column, ⟨c :: rest, p⟩)

/-- A block scalar that has been read so far. -/
structure Block where
  /-- Its text up to the last line. -/
  text : List Char
  /-- The end of that line. -/
  lead : Option Char
  /-- The line ends of empty lines behind it. -/
  trail : List Char
  /-- Whether that line began with a blank. -/
  blank : Bool
  /-- The cursor behind all of that. -/
  cursor : Cursor

/-- What a line end and the empty lines behind it are read as before the next line.  Between two
lines that begin with no blank, a folded scalar reads a single line end as a blank. -/
def Block.joint (b : Block) (literal blank : Bool) : List Char :=
  if !literal && b.lead = some '\n' && !b.blank && !blank then
    if b.trail.isEmpty then [' '] else b.trail
  else b.lead.toList ++ b.trail

/-- Reads the lines of a block scalar. -/
def readLines (literal : Bool) (indent : Nat) : (most : Nat) → Block → Option Block
  | 0, b => some b
  | most + 1, b =>
    if b.cursor.column = indent ∧ !b.cursor.rest.isEmpty then do
      let blank := b.cursor.rest.head?.any isBlank
      let (line, c) := b.cursor.takeWhile fun _ => true
      let text := b.text ++ b.joint literal blank ++ line
      match c.takeBreak? with
      | none => some ⟨text, none, [], blank, c⟩
      | some (lead, c) =>
        let (trail, _, c) ← readMargin (some indent) [] 0 c.place c.rest
        readLines literal indent most ⟨text, some lead, trail, blank, c⟩
    else some b

/-- The text of a block scalar. -/
def Block.chomped (b : Block) : Chomping → List Char
  | .strip => b.text
  | .clip => b.text ++ b.lead.toList
  | .keep => b.text ++ b.lead.toList ++ b.trail

/-- Reads a block scalar from its indicator; `margin` is the least column for text inside of the
surroundings. -/
def readBlock (literal : Bool) (margin : Nat) (c : Cursor) : Option (List Char × Cursor) := do
  let (header, c) ← readHeader (c.advance 1)
  let c ← c.finishLine?
  let (trail, reached, c) ←
    readMargin (header.indentation.map (margin - 1 + ·)) [] 0 c.place c.rest
  let indent := match header.indentation with
    | some n => margin - 1 + n
    | none => max reached (max margin 1)
  let b ← readLines literal indent (c.rest.length + 1) ⟨[], none, trail, false, c⟩
  some (b.chomped header.chomping, b.cursor)

end Scalar
end FloatingIp.Yaml
