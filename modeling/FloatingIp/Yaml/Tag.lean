import FloatingIp.Digits
import FloatingIp.Text.Utf8
import FloatingIp.Yaml.Cursor

/-!
# Tags

A tag is written in full between angle brackets, or as a handle with a suffix; directives say
which prefix a handle stands for.  The handle `!` is its own prefix unless a directive changes
that, and a lone `!` is a tag without handle.  Directives and tags share the two readers at the
bottom of this: one for handles and one for what may stand in a URI, escapes decoded.
-/

namespace FloatingIp.Yaml

/-- A tag as it is written. -/
structure Tag where
  /-- The handle; empty for a tag that is written in full. -/
  handle : String
  /-- The rest. -/
  suffix : String
  deriving DecidableEq, Repr

namespace Tag

/-- Whether a character may stand in a name. -/
def isNameChar (c : Char) : Bool :=
  c.isAlphanum || c = '_' || c = '-'

/-- The characters other than those of names that may stand in a URI. -/
def uriChars : List Char :=
  [';', '/', '?', ':', '@', '&', '=', '+', '$', '.', '!', '~', '*', '\'', '(', ')']

/-- Whether a character may stand in a URI as it is; `full` admits those with a meaning between
brackets. -/
def isUriChar (full : Bool) (c : Char) : Bool :=
  isNameChar c || uriChars.contains c || (full && [',', '[', ']'].contains c)

/-- Takes escaped bytes from the front of a text, as many as there are. -/
def escapedBytes : List Char → Option (List UInt8 × List Char)
  | '%' :: a :: b :: rest =>
    match Digits.value? 16 a, Digits.value? 16 b with
    | some high, some low =>
      (escapedBytes rest).map fun (bytes, rest) => (UInt8.ofNat (16 * high + low) :: bytes, rest)
    | _, _ => none
  | '%' :: _ => none
  | s => some ([], s)

/-- Takes the longest piece of a URI from the front of a text, its escapes decoded, which have to
be characters in UTF-8. -/
def uriPiece (full : Bool) : (most : Nat) → List Char → Option (List Char × List Char)
  | 0, s => some ([], s)
  | most + 1, s =>
    match s with
    | [] => some ([], [])
    | '%' :: _ => do
      let (bytes, rest) ← escapedBytes s
      let decoded ← Text.Utf8.strict? bytes
      let (piece, rest) ← uriPiece full most rest
      some (decoded ++ piece, rest)
    | c :: rest =>
      if isUriChar full c then
        (uriPiece full most rest).map fun (piece, rest) => (c :: piece, rest)
      else some ([], s)

/-- Takes a piece of a URI. -/
def readUri (full : Bool) (c : Cursor) : Option (List Char × Cursor) :=
  (uriPiece full c.rest.length c.rest).map fun (piece, rest) =>
    (piece, c.advance (c.rest.length - rest.length))

/-- Takes a handle, or the beginning of a tag that has none: an exclamation mark, a name, and
another exclamation mark if there is one. -/
def readHandle (c : Cursor) : Option (List Char × Cursor) :=
  match c.rest with
  | '!' :: _ =>
    let (name, c) := (c.advance 1).takeWhile isNameChar
    if c.rest.head? = some '!' then some ('!' :: name ++ ['!'], c.advance 1)
    else some ('!' :: name, c)
  | _ => none

/-- Whether what `readHandle` took is a handle of its own. -/
def isHandle (h : List Char) : Bool :=
  2 ≤ h.length && h.getLast? = some '!'

/-- Takes a tag; behind it stands a gap, or a comma between brackets. -/
def read (inFlow : Bool) (c : Cursor) : Option (Tag × Cursor) := do
  let (tag, c) ← match c.rest with
    | '!' :: '<' :: _ => do
      let (uri, c) ← readUri true (c.advance 2)
      if uri.isEmpty || c.rest.head? ≠ some '>' then none
      else some (⟨"", String.ofList uri⟩, c.advance 1)
    | _ => do
      let (h, c) ← readHandle c
      let (uri, c) ← readUri false c
      if isHandle h then
        if uri.isEmpty then none else some (⟨String.ofList h, String.ofList uri⟩, c)
      else
        let suffix := h.tail ++ uri
        if suffix.isEmpty then some (⟨"", "!"⟩, c) else some (⟨"!", String.ofList suffix⟩, c)
  if startsGap c.rest || (inFlow && c.rest.head? = some ',') then some (tag, c) else none

/-- What the handles stand for without directives. -/
def standardPrefixes : List (String × String) :=
  [("!", "!"), ("!!", "tag:yaml.org,2002:")]

/-- The tag in full; nothing if its handle is unknown. -/
def resolve? (prefixes : List (String × String)) (t : Tag) : Option String :=
  if t.handle.isEmpty then some t.suffix
  else (prefixes.lookup t.handle).map (· ++ t.suffix)

end Tag
end FloatingIp.Yaml
