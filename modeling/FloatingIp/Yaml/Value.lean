import FloatingIp.Yaml.Core
import FloatingIp.Yaml.Document

/-!
# Values

A value is what a document says when style, anchors and tags of the core schema are forgotten.
Not every document has one: no two keys of a mapping may have the same value, integers are limited
to 64 bits, collections to a depth, and aliases may not be followed too often.

Two values are the same if they say the same.  The order of a mapping's entries does not count.
-/

namespace FloatingIp.Yaml

mutual

/-- A value. -/
inductive Value where
  | null
  | flag (b : Bool)
  | integer (i : Int)
  | float (x : Float)
  | text (s : String)
  | sequence (items : List Value)
  | mapping (entries : List Entry)
  /-- A value with a tag of the text's own. -/
  | tagged (tag : String) (content : Value)

/-- An entry of a mapping. -/
inductive Entry where
  | mk (key value : Value)

end

/-- Whether two floats are the same; there is one value that is no number. -/
def sameFloat (x y : Float) : Bool :=
  x == y || (x.isNaN && y.isNaN)

mutual

/-- Whether two values are the same. -/
def Value.same : Value → Value → Bool
  | .null, .null => true
  | .flag a, .flag b => a == b
  | .integer a, .integer b => a == b
  | .float a, .float b => sameFloat a b
  | .text a, .text b => a == b
  | .sequence a, .sequence b => sameAll a b
  | .mapping a, .mapping b => a.length == b.length && allAmong a b
  | .tagged s a, .tagged t b => s == t && a.same b
  | _, _ => false

/-- Whether two lists have the same values. -/
def sameAll : List Value → List Value → Bool
  | [], [] => true
  | a :: as, b :: bs => a.same b && sameAll as bs
  | _, _ => false

/-- Whether two entries are the same. -/
def Entry.same : Entry → Entry → Bool
  | .mk k v, .mk k' v' => k.same k' && v.same v'

/-- Whether every entry of a list is one of another. -/
def allAmong : List Entry → List Entry → Bool
  | [], _ => true
  | e :: es, others => others.any e.same && allAmong es others

end

namespace Value

/-- The deepest nesting of collections. -/
def maxDepth : Nat := 128

/-- How often aliases may be followed for each step through a document. -/
def aliasesPerStep : Nat := 100

/-- Adds an entry to a mapping that does not have its key. -/
def addEntry? (entries : List Entry) (k v : Value) : Option (List Entry) :=
  if entries.any fun | .mk key _ => key.same k then none else some (entries ++ [.mk k v])

/-- A value under the tag of its node; a tag without name is none. -/
def withTag? (tag : Option String) (v : Value) : Option Value :=
  match Core.ownTag? tag with
  | none => some v
  | some "" => none
  | some name => some (.tagged name v)

/-- The value of a meaning. -/
def ofMeaning? : Meaning → Option Value
  | .null => some .null
  | .flag b => some (.flag b)
  | .integer i => some (.integer i)
  | .wide => none
  | .float x => some (.float x)
  | .text s => some (.text s)

/-- The value of a node in a document, with at most `aliases` aliases followed, and how many are
left. -/
def ofNode? (d : Document) : (depth aliases : Nat) → Node → Option (Value × Nat)
  | depth, aliases, n => do
    let isAlias := match n with
      | .alias .. => true
      | _ => false
    let aliases ←
      if !isAlias then some aliases else if aliases = 0 then none else some (aliases - 1)
    match depth, d.resolve n with
    | _, .alias .. => none
    | _, .scalar _ tag _ style s => do
      let v ← (Core.meaning? tag style s).bind ofMeaning?
      some (← withTag? tag v, aliases)
    | 0, _ => none
    | depth + 1, .sequence _ tag _ items => do
      let (vs, aliases) ← items.foldlM (fun (vs, aliases) item => do
        let (v, aliases) ← ofNode? d depth aliases item
        some (vs ++ [v], aliases)) ([], aliases)
      some (← withTag? tag (.sequence vs), aliases)
    | depth + 1, .mapping _ tag _ entries => do
      let (es, aliases) ← entries.foldlM (fun (es, aliases) (key, value) => do
        let (k, aliases) ← ofNode? d depth aliases key
        let (v, aliases) ← ofNode? d depth aliases value
        some (← addEntry? es k v, aliases)) ([], aliases)
      some (← withTag? tag (.mapping es), aliases)

/-- The value of a document. -/
def ofDocument? (d : Document) : Option Value :=
  match d.root with
  | none => some .null
  | some n => (ofNode? d maxDepth (aliasesPerStep * d.size) n).map (·.1)

end Value
end FloatingIp.Yaml
