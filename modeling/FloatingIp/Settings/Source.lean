import FloatingIp.Decimal
import FloatingIp.Digits
import FloatingIp.Text.Quoted
import FloatingIp.Yaml.Value

/-!
# What settings are read from

Settings are read from a tree, and it does not matter from which kind: a `Source` says what can be
asked of the nodes of one.  There are two kinds.  A node of a document is lenient: a text may be
any scalar, and an empty place counts as a mapping without entries.  A value is strict.

What cannot be read is a `Complaint`: what is wrong, and where, as a path from the root.
-/

namespace FloatingIp.Settings

open Yaml

/-- What was found. -/
inductive Found where
  | null
  | flag (b : Bool)
  | integer (i : Int)
  | float (x : Float)
  | text (s : String)
  | sequence
  | mapping

/-- The text of an integer. -/
def integerText (i : Int) : String :=
  if i < 0 then "-" ++ Digits.decimal i.natAbs else Digits.decimal i.natAbs

/-- The wording of what was found. -/
def Found.message : Found → String
  | null => "unit value"
  | flag b => "boolean \x60" ++ (if b then "true" else "false") ++ "\x60"
  | integer i => "integer \x60" ++ integerText i ++ "\x60"
  | float x => "floating point \x60" ++ Decimal.Layout.plain.text x ++ "\x60"
  | text s => "string " ++ Text.quoted s
  | sequence => "sequence"
  | mapping => "map"

/-- What is wrong. -/
inductive Mismatch where
  /-- Something else was expected. -/
  | wrongType (found : Found) (expected : String)
  /-- It is of the right kind, and cannot be used. -/
  | badValue (found : Found) (expected : String)
  /-- The text is no address. -/
  | noAddress
  /-- There is no such choice. -/
  | unknownChoice (name : String) (choices : List String)
  /-- A field is not there. -/
  | missing (field : String)
  /-- A field is there twice. -/
  | duplicate (field : String)

/-- A name in the quotes of messages. -/
def ticked (name : String) : String :=
  "\x60" ++ name ++ "\x60"

/-- The wording of what is wrong. -/
def Mismatch.message : Mismatch → String
  | wrongType found expected => "invalid type: " ++ found.message ++ ", expected " ++ expected
  | badValue found expected => "invalid value: " ++ found.message ++ ", expected " ++ expected
  | noAddress => "invalid IP address syntax"
  | unknownChoice name choices =>
    "unknown variant " ++ ticked name ++ ", expected " ++ " or ".intercalate (choices.map ticked)
  | missing field => "missing field " ++ ticked field
  | duplicate field => "duplicate field " ++ ticked field

/-- Why settings cannot be read. -/
structure Complaint where
  /-- What is wrong. -/
  mismatch : Mismatch
  /-- Where it is wrong. -/
  path : List String
  /-- The position there, if there is a text. -/
  place : Option Position
  /-- Whether it is about a tag, which counts as a part of the mapping around it. -/
  inTag : Bool

namespace Complaint

/-- A complaint about the root of a tree. -/
def ofMismatch (m : Mismatch) (place : Option Position) : Complaint :=
  ⟨m, [], place, false⟩

/-- A complaint about the value of a field, as one about the mapping at `place`. -/
def within (label : String) (place : Option Position) (c : Complaint) : Complaint :=
  if c.inTag then { c with inTag := false, place } else { c with path := label :: c.path }

/-- The wording of a position; the beginning of a text needs none. -/
def placeText : Option Position → String
  | none => ""
  | some p =>
    if p.line = 0 ∧ p.column = 0 then ""
    else " at line " ++ Digits.decimal (p.line + 1) ++ " column " ++ Digits.decimal (p.column + 1)

/-- The wording of a complaint. -/
def message (c : Complaint) : String :=
  (if c.path.isEmpty then "" else ".".intercalate c.path ++ ": ") ++ c.mismatch.message ++
    placeText c.place

end Complaint

/-- A field of a mapping. -/
structure Field (τ : Type) where
  /-- How it appears in a path. -/
  label : String
  /-- Its name, or what stands in place of one. -/
  name : Except (Found × Option Position) String
  /-- Its value. -/
  value : τ

/-- A choice by name. -/
structure Choice where
  /-- The name. -/
  name : String
  /-- Whether the name is a tag of the place itself. -/
  inTag : Bool
  /-- What is wrong with what stands behind the tag. -/
  content? : Option Mismatch

/-- What can be asked of the nodes of a tree. -/
structure Source (τ : Type) where
  /-- Where a node stands. -/
  place : τ → Option Position
  /-- What a node is. -/
  found : τ → Found
  /-- The fields of a mapping. -/
  fields? : τ → Option (List (Field τ))
  /-- A text. -/
  text? : τ → Option String
  /-- A natural number of at most 64 bits. -/
  natural? : τ → Option Nat
  /-- A truth value. -/
  flag? : τ → Option Bool
  /-- Whether there is nothing, or what is wrong where a tag says so and there is something. -/
  isNull : τ → Except Mismatch Bool
  /-- A choice by name. -/
  choice? : τ → Option Choice

/-! ## Documents -/

namespace Source

/-- What a scalar is. -/
def foundScalar (tag : Option String) (style : Style) (s : String) : Found :=
  match Core.meaning? tag style s with
  | some .null => .null
  | some (.flag b) => .flag b
  | some (.integer i) => .integer i
  | some (.float x) => .float x
  | _ => .text s

/-- What a node of a document is. -/
def foundNode : Node → Found
  | .scalar _ tag _ style s => foundScalar tag style s
  | .sequence .. => .sequence
  | .mapping .. => .mapping
  | .alias .. => .null

/-- The text of a scalar. -/
def textOf? : Node → Option String
  | .scalar _ _ _ _ s => some s
  | _ => none

/-- A field of a mapping in a document.  A key that is an alias has no label. -/
def fieldOf (d : Document) (key value : Node) : Field Node :=
  let k := d.resolve key
  let name := match textOf? k with
    | some s => .ok s
    | none => .error (foundNode k, some k.place)
  ⟨(textOf? key).getD "?", name, value⟩

/-- The text of a scalar that may be read as something else: a plain one, or a literal one with a
certain tag. -/
def readable? (name : String) : Node → Option String
  | .scalar _ tag _ style s =>
    if style = .plain ∨ (style = .literal ∧ tag = some (Core.tagOf name)) then some s else none
  | _ => none

/-- Whether a node stands for nothing.  Under the tag for nothing only a word for it may stand. -/
def isNothing : Node → Except Mismatch Bool
  | .scalar _ tag _ .plain s =>
    match tag with
    | none => .ok (s.isEmpty || Core.isNull s)
    | some t =>
      if t ≠ Core.tagOf "null" then .ok false
      else if Core.isNull s then .ok true
      else .error (.badValue (.text s) "null")
  | _ => .ok false

/-- What is wrong with what stands behind a tag that needs nothing behind it. -/
def contentFault? (n : Node) : Option Mismatch :=
  match n with
  | .scalar _ _ _ style s =>
    if style = .plain && (s.isEmpty || Core.isNull s) then none
    else some (.badValue (.text s) "null")
  | n => some (.wrongType (foundNode n) "unit")

/-- The tag of a node. -/
def tagOf? : Node → Option String
  | .scalar _ tag .. => tag
  | .sequence _ tag .. => tag
  | .mapping _ tag .. => tag
  | .alias .. => none

/-- The choice of a node: its tag, or its text. -/
def choiceOf? (isAlias : Bool) (n : Node) : Option Choice :=
  match Core.ownTag? (tagOf? n) with
  | some name => some ⟨name, !isAlias, contentFault? n⟩
  | none => (textOf? n).map fun s => ⟨s, false, none⟩

/-- Whether a node is an alias. -/
def isAlias : Node → Bool
  | .alias .. => true
  | _ => false

/-- The nodes of a document. -/
def document (d : Document) : Source Node where
  place n := some (d.resolve n).place
  found n := foundNode (d.resolve n)
  fields? n := match d.resolve n with
    | .mapping _ _ _ entries => some (entries.map fun (k, v) => fieldOf d k v)
    | .scalar _ _ _ .plain "" => some []
    | _ => none
  text? n := textOf? (d.resolve n)
  natural? n := (readable? "int" (d.resolve n)).bind Core.natural?
  flag? n := (readable? "bool" (d.resolve n)).bind Core.flag?
  isNull n := isNothing (d.resolve n)
  choice? n := choiceOf? (isAlias n) (d.resolve n)

/-! ## Values -/

/-- What a value is. -/
def foundValue : Value → Found
  | .null => .null
  | .flag b => .flag b
  | .integer i => .integer i
  | .float x => .float x
  | .text s => .text s
  | .sequence _ => .sequence
  | .mapping _ => .mapping
  | .tagged _ v => foundValue v

/-- A field of a mapping value. -/
def fieldOfEntry : Entry → Field Value
  | .mk (.text s) v => ⟨s, .ok s, v⟩
  | .mk k v => ⟨"?", .error (foundValue k, none), v⟩

/-- Values. -/
def value : Source Value where
  place _ := none
  found := foundValue
  fields?
    | .mapping entries => some (entries.map fieldOfEntry)
    | _ => none
  text?
    | .text s => some s
    | _ => none
  natural?
    | .integer i => if 0 ≤ i then some i.toNat else none
    | _ => none
  flag?
    | .flag b => some b
    | _ => none
  isNull
    | .null => .ok true
    | _ => .ok false
  choice?
    | .text s => some ⟨s, false, none⟩
    | _ => none

end Source
end FloatingIp.Settings
