import FloatingIp.Yaml.Scalar
import FloatingIp.Yaml.Tag

/-!
# Tokens

A YAML text is a row of tokens, in which indentation has become explicit: a block collection
begins and ends with tokens of its own.  Whether a piece of text is a key shows only at the colon
behind it, so the token that marks a key, and the one that begins its mapping, are put in
afterwards, in front of the first token of the piece.  Such a piece has to stand within one line
and within 1024 characters, and it must be a key if it begins where a collection's entries do.

`Scanner` holds what has to be known between two tokens; its `margin` is the least column for text
inside of the innermost block collection, so zero outside of all of them.
-/

namespace FloatingIp.Yaml

/-- What a token stands for. -/
inductive Token.Kind where
  | version (major minor : Nat)
  | tagPrefix (handle uri : String)
  | documentStart
  | documentEnd
  | blockSequence
  | blockMapping
  | blockEnd
  | flowSequence
  | flowSequenceEnd
  | flowMapping
  | flowMappingEnd
  | blockEntry
  | flowEntry
  | key
  | value
  | «alias» (name : String)
  | anchor (name : String)
  | tag (t : Tag)
  | scalar (style : Style) (text : String)
  deriving DecidableEq, Repr

/-- A token with the position at which it begins. -/
structure Token where
  kind : Token.Kind
  place : Position
  deriving DecidableEq, Repr

/-- A piece of text that may turn out to be a key. -/
structure PossibleKey where
  /-- How many tokens come before it. -/
  index : Nat
  /-- Where it begins. -/
  place : Position
  /-- Whether it has to be a key. -/
  required : Bool
  deriving DecidableEq, Repr

/-- What is known between two tokens. -/
structure Scanner where
  /-- The text that is left. -/
  cursor : Cursor
  /-- The tokens so far, last one first. -/
  tokens : List Token
  /-- How many tokens there are. -/
  count : Nat
  /-- The least column for text inside of the innermost block collection. -/
  margin : Nat
  /-- The same for the collections around it, innermost first. -/
  margins : List Nat
  /-- The piece that may turn out to be a key: in the innermost brackets, or outside of them. -/
  candidate : Option PossibleKey
  /-- The same for the brackets around them, innermost first. -/
  candidates : List (Option PossibleKey)
  /-- Whether a piece that begins here may be a key. -/
  keyAllowed : Bool
  deriving DecidableEq, Repr

namespace Scanner

/-- The longest piece that can be a key. -/
def maxKeyLength : Nat := 1024

/-- The beginning. -/
def start (text : List Char) : Scanner :=
  ⟨⟨text, Position.start⟩, [], 0, 0, [], none, [], true⟩

/-- Whether the text that follows stands between brackets. -/
def inFlow (s : Scanner) : Bool :=
  !s.candidates.isEmpty

/-- Adds a token. -/
def push (s : Scanner) (kind : Token.Kind) (place : Position) : Scanner :=
  { s with tokens := ⟨kind, place⟩ :: s.tokens, count := s.count + 1 }

/-- Puts a token in behind the first `index` ones. -/
def insert (s : Scanner) (index : Nat) (kind : Token.Kind) (place : Position) : Scanner :=
  { s with tokens := s.tokens.insertIdx (s.count - index) ⟨kind, place⟩, count := s.count + 1 }

/-- Adds a token of some characters. -/
def pushChars (s : Scanner) (kind : Token.Kind) (n : Nat) : Scanner :=
  { s.push kind s.cursor.place with cursor := s.cursor.advance n }

/-! ### Between tokens -/

/-- Skips blanks, comments and line ends: whether a key may begin behind them, and the cursor
there.  A byte order mark that begins a line is skipped, and tabs count as blanks only where no
key may begin. -/
def skipGap (inFlow comment keyAllowed : Bool) (p : Position) : List Char → Bool × Cursor
  | [] => (keyAllowed, ⟨[], p⟩)
  | '\r' :: '\n' :: rest => skipGap inFlow false (keyAllowed || !inFlow) (p.nextLine 2) rest
  | c :: rest =>
    if isBreak c then skipGap inFlow false (keyAllowed || !inFlow) (p.nextLine 1) rest
    else if comment then skipGap inFlow true keyAllowed (p.advance 1) rest
    else if (p.column = 0 && c = '\uFEFF') || c = ' ' || (c = '\t' && (inFlow || !keyAllowed)) then
      skipGap inFlow false keyAllowed (p.advance 1) rest
    else if c = '#' then skipGap inFlow true keyAllowed (p.advance 1) rest
    else (keyAllowed, ⟨c :: rest, p⟩)

/-- Gives up a piece that can no longer be a key; nothing if it had to be one. -/
def refresh? (here : Position) (k : Option PossibleKey) : Option (Option PossibleKey) :=
  match k with
  | none => some none
  | some key =>
    if key.place.line < here.line ∨ key.place.index + maxKeyLength < here.index then
      if key.required then none else some none
    else some k

/-- Goes on to the next token. -/
def approach? (s : Scanner) : Option Scanner := do
  let (keyAllowed, cursor) := skipGap s.inFlow false s.keyAllowed s.cursor.place s.cursor.rest
  let candidate ← refresh? cursor.place s.candidate
  let candidates ← s.candidates.mapM (refresh? cursor.place)
  some { s with cursor, keyAllowed, candidate, candidates }

/-- Gives up the piece that may turn out to be a key; nothing if it has to be one. -/
def dropKey? (s : Scanner) : Option Scanner :=
  if s.candidate.any (·.required) then none else some { s with candidate := none }

/-- Notes that a piece begins that may turn out to be a key. -/
def noteKey? (s : Scanner) : Option Scanner :=
  if s.keyAllowed then do
    let s ← s.dropKey?
    let required := !s.inFlow && s.margin = s.cursor.column + 1
    some { s with candidate := some ⟨s.count, s.cursor.place, required⟩ }
  else some s

/-- Begins a block collection at a column, if it is further right than the innermost one. -/
def indent (s : Scanner) (column index : Nat) (kind : Token.Kind) (place : Position) : Scanner :=
  if !s.inFlow && s.margin ≤ column then
    { s with margin := column + 1, margins := s.margin :: s.margins }.insert index kind place
  else s

/-- Ends block collections until `margin` is at most `least`. -/
def dedentTo (least : Nat) (s : Scanner) : List Nat → Scanner
  | [] => s
  | margin :: margins =>
    if least < s.margin then
      dedentTo least { s.push .blockEnd s.cursor.place with margin, margins } margins
    else s

/-- Ends the block collections that text at a column is not part of; `least` is one more than that
column. -/
def dedent (s : Scanner) (least : Nat) : Scanner :=
  if s.inFlow then s else s.dedentTo least s.margins

/-! ### Tokens -/

/-- A directive behind its percent sign. -/
def directive? (c : Cursor) : Option (Token.Kind × Cursor) :=
  let (name, c) := c.takeWhile Tag.isNameChar
  if name = "YAML".toList then do
    let number (c : Cursor) : Option (Nat × Cursor) := do
      let (ds, c) := c.takeWhile (Digits.isDigit 10)
      let n ← Digits.read? 10 ds
      if 9 < ds.length then none else some (n, c)
    let (major, c) ← number (c.skipWhile isBlank)
    if c.rest.head? ≠ some '.' then none
    else
      let (minor, c) ← number (c.advance 1)
      some (.version major minor, c)
  else if name = "TAG".toList ∧ startsGap c.rest then do
    let (handle, c) ← Tag.readHandle (c.skipWhile isBlank)
    if !(handle.length = 1 || Tag.isHandle handle) || !c.rest.head?.any isBlank then none
    else
      let (uri, c) ← Tag.readUri true (c.skipWhile isBlank)
      if uri.isEmpty || !startsGap c.rest then none
      else some (.tagPrefix (String.ofList handle) (String.ofList uri), c)
  else none

/-- Adds a directive. -/
def pushDirective? (s : Scanner) : Option Scanner := do
  let s ← (s.dedent 0).dropKey?
  let (kind, c) ← directive? (s.cursor.advance 1)
  let c ← c.finishLine?
  some { s.push kind s.cursor.place with cursor := c, keyAllowed := false }

/-- Adds the beginning or the end of a document. -/
def pushDocumentMark? (s : Scanner) (kind : Token.Kind) : Option Scanner := do
  let s ← (s.dedent 0).dropKey?
  some { s.pushChars kind 3 with keyAllowed := false }

/-- Adds an opening bracket. -/
def pushOpening? (s : Scanner) (kind : Token.Kind) : Option Scanner := do
  let s ← s.noteKey?
  some { s.pushChars kind 1 with
    candidate := none, candidates := s.candidate :: s.candidates, keyAllowed := true }

/-- Adds a closing bracket. -/
def pushClosing? (s : Scanner) (kind : Token.Kind) : Option Scanner := do
  let s ← s.dropKey?
  let s := { s.pushChars kind 1 with keyAllowed := false }
  match s.candidates with
  | [] => some s
  | candidate :: candidates => some { s with candidate, candidates }

/-- Adds a comma between brackets. -/
def pushComma? (s : Scanner) : Option Scanner := do
  let s ← s.dropKey?
  some { s.pushChars .flowEntry 1 with keyAllowed := true }

/-- Adds an indicator of an entry or a key, which begins a collection outside of brackets. -/
def pushIndicator? (s : Scanner) (kind collection : Token.Kind) (keyAllowed : Bool) :
    Option Scanner := do
  if !s.inFlow && !s.keyAllowed then none
  else
    let s ← (s.indent s.cursor.column s.count collection s.cursor.place).dropKey?
    some { s.pushChars kind 1 with keyAllowed }

/-- Adds a colon, and the tokens in front of the key that it shows to be one. -/
def pushColon? (s : Scanner) : Option Scanner :=
  match s.candidate with
  | some k =>
    let s := (s.insert k.index .key k.place).indent k.place.column k.index .blockMapping k.place
    some { s.pushChars .value 1 with candidate := none, keyAllowed := false }
  | none =>
    if !s.inFlow && !s.keyAllowed then none
    else
      let s := s.indent s.cursor.column s.count .blockMapping s.cursor.place
      some { s.pushChars .value 1 with keyAllowed := !s.inFlow }

/-- The name of an anchor behind its indicator; a gap or an indicator stands behind it. -/
def anchorName? (c : Cursor) : Option (String × Cursor) :=
  let (name, c) := c.takeWhile Tag.isNameChar
  let ends := startsGap c.rest ||
    c.rest.head?.any fun d => ['?', ':', ',', ']', '}', '%', '@', '\x60'].contains d
  if name.isEmpty || !ends then none else some (String.ofList name, c)

/-- Adds an anchor or an alias. -/
def pushAnchor? (s : Scanner) (kind : String → Token.Kind) : Option Scanner := do
  let s ← s.noteKey?
  let (name, c) ← anchorName? (s.cursor.advance 1)
  some { s.push (kind name) s.cursor.place with cursor := c, keyAllowed := false }

/-- Adds a tag. -/
def pushTag? (s : Scanner) : Option Scanner := do
  let s ← s.noteKey?
  let (tag, c) ← Tag.read s.inFlow s.cursor
  some { s.push (.tag tag) s.cursor.place with cursor := c, keyAllowed := false }

/-- Adds a block scalar. -/
def pushBlock? (s : Scanner) (style : Style) : Option Scanner := do
  let s ← s.dropKey?
  let (text, c) ← Scalar.readBlock (style = .literal) s.margin s.cursor
  some { s.push (.scalar style (String.ofList text)) s.cursor.place with
    cursor := c, keyAllowed := true }

/-- Adds a quoted scalar. -/
def pushQuoted? (s : Scanner) (style : Style) : Option Scanner := do
  let s ← s.noteKey?
  let (text, c) ← Scalar.readQuoted (style = .doubleQuoted) s.cursor
  some { s.push (.scalar style (String.ofList text)) s.cursor.place with
    cursor := c, keyAllowed := false }

/-- Adds a plain scalar. -/
def pushPlain? (s : Scanner) : Option Scanner := do
  let s ← s.noteKey?
  let p ← Scalar.readPlain s.inFlow s.margin s.cursor
  some { s.push (.scalar .plain (String.ofList p.text)) s.cursor.place with
    cursor := p.cursor, keyAllowed := p.broken }

/-- The characters with which no plain scalar begins, whatever follows. -/
def indicators : List Char :=
  [',', '[', ']', '{', '}', '#', '&', '*', '!', '|', '>', '\'', '"', '%', '@', '\x60']

/-- Whether a plain scalar begins here. -/
def startsPlain (inFlow : Bool) (c : Char) (rest : List Char) : Bool :=
  if c = '-' then !rest.head?.any isBlank
  else if c = '?' || c = ':' then !inFlow && !startsGap rest
  else !isGap c && !indicators.contains c

/-- Adds the token that begins with the character `c`. -/
def pushToken? (s : Scanner) (c : Char) (rest : List Char) : Option Scanner :=
  if s.cursor.column = 0 ∧ c = '%' then s.pushDirective?
  else if s.cursor.atMark '-' then s.pushDocumentMark? .documentStart
  else if s.cursor.atMark '.' then s.pushDocumentMark? .documentEnd
  else if c = '[' then s.pushOpening? .flowSequence
  else if c = '{' then s.pushOpening? .flowMapping
  else if c = ']' then s.pushClosing? .flowSequenceEnd
  else if c = '}' then s.pushClosing? .flowMappingEnd
  else if c = ',' then s.pushComma?
  else if c = '-' ∧ startsGap rest then s.pushIndicator? .blockEntry .blockSequence true
  else if c = '?' ∧ (s.inFlow ∨ startsGap rest) then
    s.pushIndicator? .key .blockMapping !s.inFlow
  else if c = ':' ∧ (s.inFlow ∨ startsGap rest) then s.pushColon?
  else if c = '*' then s.pushAnchor? .alias
  else if c = '&' then s.pushAnchor? .anchor
  else if c = '!' then s.pushTag?
  else if c = '|' ∧ !s.inFlow then s.pushBlock? .literal
  else if c = '>' ∧ !s.inFlow then s.pushBlock? .folded
  else if c = '\'' then s.pushQuoted? .singleQuoted
  else if c = '"' then s.pushQuoted? .doubleQuoted
  else if startsPlain s.inFlow c rest then s.pushPlain?
  else none

/-- Ends all block collections at the end of the text. -/
def finish? (s : Scanner) : Option (List Token) :=
  ((s.dedent 0).dropKey?).map fun s => s.tokens.reverse

/-- Reads on to the end of the text, in at most `most` tokens. -/
def run? : (most : Nat) → Scanner → Option (List Token)
  | 0, _ => none
  | most + 1, s => do
    let s ← s.approach?
    let s := s.dedent (s.cursor.column + 1)
    match s.cursor.rest with
    | [] => s.finish?
    | c :: rest => run? most (← s.pushToken? c rest)

end Scanner

/-- The tokens of a text, if every character of it may stand in a text and every piece of it is
well formed. -/
def Token.ofText? (text : String) : Option (List Token) :=
  if text.toList.all isAdmitted then
    Scanner.run? (text.length + 1) (Scanner.start text.toList)
  else none

end FloatingIp.Yaml
