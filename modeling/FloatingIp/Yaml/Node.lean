import FloatingIp.Yaml.Token

/-!
# Nodes

The tokens of a text make up one document: a tree of scalars, sequences and mappings.  A node may
have a tag and an anchor, and an alias stands for the node of an anchor that comes before it.

Anchors are counted by their names: the number of an anchor is how many different names there were
before it, and an alias has the number that its name had last.  The document keeps the node of
each number; where a name was used twice, numbers can meet, and then the last node counts.

Composing follows the tokens from left to right.  Each function takes its piece from the front of
what is left; the number that bounds the recursion is out of its reach.
-/

namespace FloatingIp.Yaml

/-- A node of a document. -/
inductive Node where
  | scalar (place : Position) (tag : Option String) (anchor : Option Nat) (style : Style)
      (text : String)
  | sequence (place : Position) (tag : Option String) (anchor : Option Nat) (items : List Node)
  | mapping (place : Position) (tag : Option String) (anchor : Option Nat)
      (entries : List (Node × Node))
  /-- Stands for another node. -/
  | «alias» (place : Position) (number : Nat)

namespace Node

/-- Where a node begins. -/
def place : Node → Position
  | scalar p .. => p
  | sequence p .. => p
  | mapping p .. => p
  | «alias» p _ => p

mutual

/-- How many steps it takes to go through a node, counting both ends of a collection. -/
def size : Node → Nat
  | scalar .. => 1
  | sequence _ _ _ items => 2 + sizeAll items
  | mapping _ _ _ entries => 2 + sizePairs entries
  | «alias» .. => 1

/-- The steps through some nodes. -/
def sizeAll : List Node → Nat
  | [] => 0
  | n :: ns => n.size + sizeAll ns

/-- The steps through some entries. -/
def sizePairs : List (Node × Node) → Nat
  | [] => 0
  | (k, v) :: rest => k.size + v.size + sizePairs rest

end

/-- A node under the number of its anchor. -/
def named (n : Node) : Option Nat → List (Nat × Node)
  | some i => [(i, n)]
  | none => []

mutual

/-- The nodes that have an anchor, in the order in which they begin. -/
def anchored (n : Node) : List (Nat × Node) :=
  match n with
  | scalar _ _ a _ _ => n.named a
  | sequence _ _ a items => n.named a ++ anchoredAll items
  | mapping _ _ a entries => n.named a ++ anchoredPairs entries
  | «alias» .. => []

/-- The same for some nodes. -/
def anchoredAll : List Node → List (Nat × Node)
  | [] => []
  | n :: ns => n.anchored ++ anchoredAll ns

/-- The same for some entries. -/
def anchoredPairs : List (Node × Node) → List (Nat × Node)
  | [] => []
  | (k, v) :: rest => k.anchored ++ v.anchored ++ anchoredPairs rest

end

end Node

/-! ## Composing -/

/-- What is left to compose, and what is known. -/
structure Composer where
  /-- The tokens that are left. -/
  tokens : List Token
  /-- The prefixes of tag handles. -/
  prefixes : List (String × String)
  /-- Numbers of anchor names. -/
  names : List (String × Nat)
  /-- Where the text ends that has been composed. -/
  place : Position

namespace Composer

/-- The next token, if there is one. -/
def kind? (c : Composer) : Option Token.Kind :=
  c.tokens.head?.map (·.kind)

/-- Whether one of some tokens comes next. -/
def sees (c : Composer) (kinds : List Token.Kind) : Bool :=
  c.kind?.any kinds.contains

/-- Passes over a token. -/
def skip (c : Composer) : Composer :=
  match c.tokens with
  | t :: tokens => { c with tokens, place := t.place }
  | [] => c

/-- Where the next token begins. -/
def here (c : Composer) : Position :=
  match c.tokens with
  | t :: _ => t.place
  | [] => c.place

/-- Counts an anchor and returns its number. -/
def number (c : Composer) (name : String) : Nat × Composer :=
  let n := c.names.length
  (n, { c with names := (name, n) :: c.names.filter fun e => e.1 ≠ name })

/-- A scalar without text that nothing was written for. -/
def nothing (c : Composer) : Node :=
  .scalar c.place none none .plain ""

/-- What stands in front of a node. -/
structure Properties where
  anchor : Option String
  tag : Option Tag

/-- Takes an anchor and a tag, in either order, or one of them. -/
def properties (c : Composer) : Properties × Composer :=
  match c.kind? with
  | some (.anchor a) =>
    match c.skip.kind? with
    | some (.tag t) => (⟨some a, some t⟩, c.skip.skip)
    | _ => (⟨some a, none⟩, c.skip)
  | some (.tag t) =>
    match c.skip.kind? with
    | some (.anchor a) => (⟨some a, some t⟩, c.skip.skip)
    | _ => (⟨none, some t⟩, c.skip)
  | _ => (⟨none, none⟩, c)

/-- The tag in full, if there is one; nothing if its handle is unknown. -/
def tagText? (c : Composer) (p : Properties) : Option (Option String) :=
  match p.tag with
  | none => some none
  | some t => (t.resolve? c.prefixes).map some

/-- Counts the anchor, if there is one. -/
def anchorNumber (c : Composer) (p : Properties) : Option Nat × Composer :=
  match p.anchor with
  | some name => let (n, c) := c.number name; (some n, c)
  | none => (none, c)

mutual

/-- Takes a node.  Block collections are taken only if `inBlock`, entries without a collection of
their own only if `bare`. -/
def node : (most : Nat) → (inBlock bare : Bool) → Composer → Option (Node × Composer)
  | 0, _, _, _ => none
  | most + 1, inBlock, bare, c => do
    let place := c.here
    if let some (.alias name) := c.kind? then
      (c.names.lookup name).map fun n => (.alias place n, c.skip)
    else
      let (p, c) := c.properties
      let tag ← c.tagText? p
      let (anchor, c) := c.anchorNumber p
      match c.kind? with
      | some .blockEntry =>
        if bare then
          let (items, c) ← bareEntries most c
          some (.sequence place tag anchor items, c)
        else empty place tag anchor c
      | some (.scalar style text) =>
        some (.scalar place tag anchor style text, c.skip)
      | some .flowSequence =>
        let (items, c) ← flowItems most true c.skip
        some (.sequence place tag anchor items, c)
      | some .flowMapping =>
        let (entries, c) ← flowEntries most true c.skip
        some (.mapping place tag anchor entries, c)
      | some .blockSequence =>
        if inBlock then
          let (items, c) ← blockEntries most c.skip
          some (.sequence place tag anchor items, c)
        else empty place tag anchor c
      | some .blockMapping =>
        if inBlock then
          let (entries, c) ← blockPairs most c.skip
          some (.mapping place tag anchor entries, c)
        else empty place tag anchor c
      | _ => empty place tag anchor c

/-- A scalar without text, which there is only behind an anchor or a tag. -/
def empty (place : Position) (tag : Option String) (anchor : Option Nat) (c : Composer) :
    Option (Node × Composer) :=
  if tag.isSome || anchor.isSome then some (.scalar place tag anchor .plain "", c) else none

/-- Takes a node, or nothing before one of some tokens. -/
def nodeUnless (stops : List Token.Kind) :
    (most : Nat) → (inBlock bare : Bool) → Composer → Option (Node × Composer)
  | 0, _, _, _ => none
  | most + 1, inBlock, bare, c =>
    if c.sees stops then some (c.nothing, c) else node most inBlock bare c

/-- Takes the entries of a block sequence, and its end. -/
def blockEntries : (most : Nat) → Composer → Option (List Node × Composer)
  | 0, _ => none
  | most + 1, c =>
    match c.kind? with
    | some .blockEntry => do
      let (n, c) ← nodeUnless [.blockEntry, .blockEnd] most true false c.skip
      let (ns, c) ← blockEntries most c
      some (n :: ns, c)
    | some .blockEnd => some ([], c.skip)
    | _ => none

/-- Takes the entries of a sequence that is no deeper than the mapping around it. -/
def bareEntries : (most : Nat) → Composer → Option (List Node × Composer)
  | 0, _ => none
  | most + 1, c =>
    match c.kind? with
    | some .blockEntry => do
      let (n, c) ← nodeUnless [.blockEntry, .key, .value, .blockEnd] most true false c.skip
      let (ns, c) ← bareEntries most c
      some (n :: ns, c)
    | _ => some ([], c)

/-- Takes the entries of a block mapping, and its end. -/
def blockPairs : (most : Nat) → Composer → Option (List (Node × Node) × Composer)
  | 0, _ => none
  | most + 1, c =>
    match c.kind? with
    | some .blockEnd => some ([], c.skip)
    | some .key => do
      let (k, c) ← nodeUnless [.key, .value, .blockEnd] most true true c.skip
      let (v, c) ← blockValue most c
      let (rest, c) ← blockPairs most c
      some ((k, v) :: rest, c)
    | _ => none

/-- Takes the value of an entry of a block mapping. -/
def blockValue : (most : Nat) → Composer → Option (Node × Composer)
  | 0, _ => none
  | most + 1, c =>
    if c.kind? = some .value then
      nodeUnless [.key, .value, .blockEnd] most true true c.skip
    else some (c.nothing, c)

/-- Takes the items of a sequence in brackets, and its end. -/
def flowItems : (most : Nat) → (first : Bool) → Composer → Option (List Node × Composer)
  | 0, _, _ => none
  | most + 1, first, c => do
    if c.kind? = some .flowSequenceEnd then some ([], c.skip)
    else
      let c ← if first then some c else if c.kind? = some .flowEntry then some c.skip else none
      match c.kind? with
      | some .flowSequenceEnd => some ([], c.skip)
      | some .key =>
        let (n, c) ← flowPair most c.here c.skip
        let (ns, c) ← flowItems most false c
        some (n :: ns, c)
      | _ =>
        let (n, c) ← node most false false c
        let (ns, c) ← flowItems most false c
        some (n :: ns, c)

/-- Takes an entry that is an item of a sequence in brackets and makes a mapping of its own.  Where
there is no key, the token in its place is passed over. -/
def flowPair : (most : Nat) → Position → Composer → Option (Node × Composer)
  | 0, _, _ => none
  | most + 1, place, c => do
    let (k, c) ← if c.sees [.value, .flowEntry, .flowSequenceEnd] then some (c.nothing, c.skip)
      else node most false false c
    let (v, c) ← flowValue [.flowEntry, .flowSequenceEnd] most c
    some (.mapping place none none [(k, v)], c)

/-- Takes the entries of a mapping in braces, and its end. -/
def flowEntries : (most : Nat) → (first : Bool) → Composer → Option (List (Node × Node) × Composer)
  | 0, _, _ => none
  | most + 1, first, c => do
    if c.kind? = some .flowMappingEnd then some ([], c.skip)
    else
      let c ← if first then some c else if c.kind? = some .flowEntry then some c.skip else none
      match c.kind? with
      | some .flowMappingEnd => some ([], c.skip)
      | some .key =>
        let (k, c) ← nodeUnless [.value, .flowEntry, .flowMappingEnd] most false false c.skip
        let (v, c) ← flowValue [.flowEntry, .flowMappingEnd] most c
        let (rest, c) ← flowEntries most false c
        some ((k, v) :: rest, c)
      | _ =>
        let (k, c) ← node most false false c
        let v := c.nothing
        let (rest, c) ← flowEntries most false c
        some ((k, v) :: rest, c)

/-- Takes the value of an entry between brackets. -/
def flowValue (stops : List Token.Kind) : (most : Nat) → Composer → Option (Node × Composer)
  | 0, _ => none
  | most + 1, c =>
    if c.kind? = some .value then nodeUnless stops most false false c.skip
    else some (c.nothing, c)

end

end Composer
end FloatingIp.Yaml
