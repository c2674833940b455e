import FloatingIp.Base64
import FloatingIp.Json.Reader
import FloatingIp.Marker

/-!
# The body of a key read

The store answers a read with a JSON list of entries, of which the first one counts.  An entry
carries its value as Base64 text under `Value`, null or absent for an empty value, and its version
under `ModifyIndex`; other fields are passed over.  A list of the two is taken for an entry as
well.  All entries have to be readable, and the value is read as UTF-8 with U+FFFD for each part
that is none.
-/

namespace FloatingIp.Consul

open Json (Token Refusal Reader)

/-- One entry of an answer. -/
structure Entry where
  /-- The value as it was sent. -/
  value : Option String
  /-- The version of the entry. -/
  index : Nat
  deriving DecidableEq, Repr

/-- Why a body holds no marker. -/
inductive BodyFault where
  /-- The body is no list of entries. -/
  | json (refusal : Refusal)
  /-- The value of the first entry is no Base64. -/
  | base64 (refusal : Base64.Refusal)
  deriving DecidableEq, Repr

namespace Entry

/-- An entry from the fields that were there. -/
def ofFields (value : Option (Option String)) (index : Option Nat) : Except Refusal Entry :=
  match index with
  | some n => .ok ⟨value.getD none, n⟩
  | none => .error (.missingField "ModifyIndex")

/-- The value behind a key. -/
def afterColon (read : Reader α) : Reader α
  | .colon :: rest => read rest
  | _ => .error .malformed

/-- The key that is next in a map, or nothing at the map's end. -/
def nextKey (first : Bool) : List Token → Except Refusal (Option String × List Token)
  | .mapClose :: rest => .ok (none, rest)
  | .comma :: .string ps :: rest =>
    match first, Token.content? ps with
    | false, some key => .ok (some key, rest)
    | _, _ => .error .malformed
  | .string ps :: rest =>
    match first, Token.content? ps with
    | true, some key => .ok (some key, rest)
    | _, _ => .error .malformed
  | _ => .error .malformed

/-- Reads the fields of an entry, at most `most` of them, up to the end of its map. -/
def fields : (most : Nat) → (first : Bool) → Option (Option String) → Option Nat → Reader Entry
  | 0, _, _, _, _ => .error .malformed
  | most + 1, first, value, index, tokens => do
    match ← nextKey first tokens with
    | (none, rest) => .ok (← ofFields value index, rest)
    | (some "Value", rest) =>
      if value.isSome then .error (.duplicateField "Value")
      else
        let (v, rest) ← afterColon Reader.string? rest
        fields most false (some v) index rest
    | (some "ModifyIndex", rest) =>
      if index.isSome then .error (.duplicateField "ModifyIndex")
      else
        let (n, rest) ← afterColon Reader.natural rest
        fields most false value (some n) rest
    | (some _, rest) =>
      let (_, rest) ← afterColon (fun tokens => do .ok ((), ← Reader.skip tokens)) rest
      fields most false value index rest

/-- Reads the rest of an entry that is given as a list. -/
def listed : Reader Entry
  | .listClose :: _ => .error (.tooShort 0 "struct KvPair with 2 elements")
  | tokens => do
    let (value, rest) ← Reader.string? tokens
    match rest with
    | .listClose :: _ => .error (.tooShort 1 "struct KvPair with 2 elements")
    | .comma :: rest =>
      let (index, rest) ← Reader.natural rest
      match rest with
      | .listClose :: rest => .ok (⟨value, index⟩, rest)
      | _ => .error .malformed
    | _ => .error .malformed

/-- Reads an entry. -/
def read : Reader Entry
  | .mapOpen :: rest => fields (rest.length + 1) true none none rest
  | .listOpen :: rest => listed rest
  | tokens => Reader.refuse "struct KvPair" tokens

/-- Reads the entries that are left in a list, at most `most` of them. -/
def more : (most : Nat) → Reader (List Entry)
  | 0, _ => .error .malformed
  | most + 1, .comma :: rest => do
    let (e, rest) ← read rest
    let (es, rest) ← more most rest
    .ok (e :: es, rest)
  | _ + 1, .listClose :: rest => .ok ([], rest)
  | _ + 1, _ => .error .malformed

/-- Reads a list of entries. -/
def readList : Reader (List Entry)
  | .listOpen :: .listClose :: rest => .ok ([], rest)
  | .listOpen :: rest => do
    let (e, rest) ← read rest
    let (es, rest) ← more (rest.length + 1) rest
    .ok (e :: es, rest)
  | tokens => Reader.refuse "a sequence" tokens

/-- The entries of a body, all of it. -/
def ofBody (body : List UInt8) : Except Refusal (List Entry) := do
  match ← readList (Token.list body) with
  | (es, []) => .ok es
  | _ => .error .malformed

/-- The marker that an entry stands for. -/
def marker (e : Entry) : Except Base64.Refusal Marker :=
  match e.value with
  | none => .ok ⟨"", e.index⟩
  | some text => do
    let raw ← Base64.decode (Text.Utf8.encode text.toList)
    .ok ⟨String.ofList (Text.Utf8.lenient raw), e.index⟩

end Entry

/-- The marker in the body of an answer; a list without entries holds none. -/
def markerOfBody (body : List UInt8) : Except BodyFault (Option Marker) :=
  match Entry.ofBody body with
  | .error refusal => .error (.json refusal)
  | .ok [] => .ok none
  | .ok (e :: _) =>
    match e.marker with
    | .ok m => .ok (some m)
    | .error refusal => .error (.base64 refusal)

end FloatingIp.Consul
