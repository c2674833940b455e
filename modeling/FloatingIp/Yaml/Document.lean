import FloatingIp.Yaml.Node

/-!
# Documents

A text is read as one document.  Directives may stand in front of it, then three dashes have to;
three dots may stand behind it, and nothing else.
-/

namespace FloatingIp.Yaml

/-- A document. -/
structure Document where
  /-- Its node; a text without any tokens has none. -/
  root : Option Node
  /-- The nodes of its anchors by number. -/
  anchored : List (Nat × Node)

namespace Document

/-- The node of an anchor: the last one of that number. -/
def find? (d : Document) (number : Nat) : Option Node :=
  d.anchored.reverse.lookup number

/-- What an alias stands for; any other node stands for itself. -/
def resolve (d : Document) : Node → Node
  | .alias place number => (d.find? number).getD (.alias place number)
  | n => n

/-- How many steps it takes to go through a document. -/
def size (d : Document) : Nat :=
  match d.root with
  | some n => n.size
  | none => 1

/-- The directives in front of a document. -/
structure Directives where
  /-- Whether the version was given. -/
  versioned : Bool
  /-- The prefixes that were given. -/
  prefixes : List (String × String)
  deriving DecidableEq, Repr

/-- Takes directives: the version at most once, and each handle at most once. -/
def takeDirectives? (d : Directives) : List Token → Option (Directives × List Token)
  | ⟨.version major minor, _⟩ :: rest =>
    if d.versioned || major ≠ 1 || !(minor = 1 || minor = 2) then none
    else takeDirectives? { d with versioned := true } rest
  | ⟨.tagPrefix handle uri, _⟩ :: rest =>
    if d.prefixes.any (·.1 = handle) then none
    else takeDirectives? { d with prefixes := d.prefixes ++ [(handle, uri)] } rest
  | tokens => some (d, tokens)

/-- Whether a token ends the document in front of it. -/
def isBoundary : Token.Kind → Bool
  | .version _ _ => true
  | .tagPrefix _ _ => true
  | .documentStart => true
  | .documentEnd => true
  | _ => false

/-- More steps than composing some tokens takes. -/
def stepBound (tokens : List Token) : Nat :=
  4 * tokens.length + 8

/-- The document of some tokens. -/
def ofTokens? (tokens : List Token) : Option Document := do
  if tokens.isEmpty then some ⟨none, []⟩
  else
    let (directives, rest) ← takeDirectives? ⟨false, []⟩ tokens
    let isExplicit := tokens.head?.any fun t => isBoundary t.kind && t.kind ≠ .documentEnd
    let prefixes := directives.prefixes ++ Tag.standardPrefixes
    let c : Composer := ⟨rest, prefixes, [], Position.start⟩
    let (root, c) ←
      if isExplicit then
        if c.kind? ≠ some .documentStart then none
        else
          let c := c.skip
          if c.kind?.all isBoundary then some (c.nothing, c)
          else Composer.node (stepBound tokens) true false c
      else Composer.node (stepBound tokens) true false c
    if c.tokens.all fun t => t.kind = .documentEnd then some ⟨some root, root.anchored⟩ else none

/-- The document of a text. -/
def ofText? (text : String) : Option Document :=
  (Token.ofText? text).bind ofTokens?

end Document
end FloatingIp.Yaml
