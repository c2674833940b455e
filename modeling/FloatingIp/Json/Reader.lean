import FloatingIp.Json.Token
import FloatingIp.Text.Quoted

/-!
# Typed reading of JSON tokens

A reader takes the value that it wants off the front of a token list, or says why it cannot.  It
looks no further than its value, so the reason given is the first one in the text: a value of the
wrong type counts even if the text breaks off later.

A text that is no JSON, or ends early, has no reason of its own beyond `malformed`.
-/

namespace FloatingIp.Json

/-- What a reader found in place of the value that it wanted. -/
inductive Found where
  | null
  | flag (value : Bool)
  | number (n : Numeral)
  | string (s : String)
  | list
  | map
  deriving DecidableEq, Repr

/-- The wording of a number. -/
def Number.message : Number → String
  | natural n => "integer \x60" ++ Digits.decimal n ++ "\x60"
  | negative n => "integer \x60-" ++ Digits.decimal n ++ "\x60"
  | float x => "floating point \x60" ++ Decimal.Layout.scientific.text x ++ "\x60"

/-- The wording of what was found. -/
def Found.message : Found → String
  | null => "null"
  | flag b => "boolean " ++ "\x60" ++ (if b then "true" else "false") ++ "\x60"
  | number n => (n.number?.map Number.message).getD ""
  | string s => "string " ++ Text.quoted s
  | list => "sequence"
  | map => "map"

/-- Why a JSON text cannot be read. -/
inductive Refusal where
  /-- The text is no JSON. -/
  | malformed
  /-- A value has another type than the one that is wanted. -/
  | wrongType (found : Found) (wanted : String)
  /-- A value has the right type and is out of range. -/
  | wrongValue (found : Found) (wanted : String)
  /-- A field that has to be there is not. -/
  | missingField (name : String)
  /-- A field is there twice. -/
  | duplicateField (name : String)
  /-- A list in place of a record has too few entries. -/
  | tooShort (length : Nat) (wanted : String)
  deriving DecidableEq, Repr

/-- The wording of a refusal; a text that is no JSON has none. -/
def Refusal.message? : Refusal → Option String
  | malformed => none
  | wrongType found wanted => some ("invalid type: " ++ found.message ++ ", expected " ++ wanted)
  | wrongValue found wanted => some ("invalid value: " ++ found.message ++ ", expected " ++ wanted)
  | missingField name => some ("missing field \x60" ++ name ++ "\x60")
  | duplicateField name => some ("duplicate field \x60" ++ name ++ "\x60")
  | tooShort n wanted => some ("invalid length " ++ Digits.decimal n ++ ", expected " ++ wanted)

/-- A reader of values from the front of a token list. -/
abbrev Reader (α : Type) :=
  List Token → Except Refusal (α × List Token)

namespace Reader

/-- What the token at the front of a value says about its type. -/
def found : List Token → Except Refusal Found
  | .null :: _ => .ok .null
  | .flag b :: _ => .ok (.flag b)
  | .number n :: _ =>
    if n.number?.isSome then .ok (.number n) else .error .malformed
  | .string ps :: _ =>
    match Token.content? ps with
    | some s => .ok (.string s)
    | none => .error .malformed
  | .listOpen :: _ => .ok .list
  | .mapOpen :: _ => .ok .map
  | _ => .error .malformed

/-- Refuses the value at the front, which is not the `wanted` one. -/
def refuse (wanted : String) (tokens : List Token) : Except Refusal α := do
  .error (.wrongType (← found tokens) wanted)

/-- A text. -/
def string : Reader String
  | .string ps :: rest =>
    match Token.content? ps with
    | some s => .ok (s, rest)
    | none => .error .malformed
  | tokens => refuse "a string" tokens

/-- A text, or null. -/
def string? : Reader (Option String)
  | .null :: rest => .ok (none, rest)
  | tokens => do
    let (s, rest) ← string tokens
    .ok (some s, rest)

/-- An integer from zero to 2^64 - 1. -/
def natural : Reader Nat
  | .number n :: rest =>
    match n.number? with
    | some (.natural n) => .ok (n, rest)
    | some (.negative _) => .error (.wrongValue (.number n) "u64")
    | some (.float _) => .error (.wrongType (.number n) "u64")
    | none => .error .malformed
  | tokens => refuse "u64" tokens

/-! ## Values that are passed over -/

/-- An enclosing list or map of a value that is passed over. -/
inductive Frame where
  | list
  | map
  deriving DecidableEq

/-- What may come next in a value that is passed over. -/
inductive Due where
  /-- A value, or the end of the list if `close` says so. -/
  | value (close : Bool)
  /-- A key, or the end of the map if `close` says so. -/
  | key (close : Bool)
  /-- The colon behind a key. -/
  | colon
  /-- A comma or the end of the innermost frame. -/
  | separator
  deriving DecidableEq

/-- Passes over the rest of a value inside `frames`, innermost first. -/
def skipFrom : List Frame → Due → List Token → Except Refusal (List Token)
  | [], .separator, tokens => .ok tokens
  | _, _, [] => .error .malformed
  | frames, due, t :: rest =>
    match due, t with
    | .value _, .listOpen => skipFrom (.list :: frames) (.value true) rest
    | .value _, .mapOpen => skipFrom (.map :: frames) (.key true) rest
    | .value _, .null => skipFrom frames .separator rest
    | .value _, .flag _ => skipFrom frames .separator rest
    | .value _, .number _ => skipFrom frames .separator rest
    | .value _, .string _ => skipFrom frames .separator rest
    | .value true, .listClose => skipFrom (frames.drop 1) .separator rest
    | .key _, .string _ => skipFrom frames .colon rest
    | .key true, .mapClose => skipFrom (frames.drop 1) .separator rest
    | .colon, .colon => skipFrom frames (.value false) rest
    | .separator, .comma =>
      match frames with
      | .list :: _ => skipFrom frames (.value false) rest
      | _ => skipFrom frames (.key false) rest
    | .separator, .listClose =>
      match frames with
      | .list :: frames => skipFrom frames .separator rest
      | _ => .error .malformed
    | .separator, .mapClose =>
      match frames with
      | .map :: frames => skipFrom frames .separator rest
      | _ => .error .malformed
    | _, _ => .error .malformed

/-- Any value, which is passed over. -/
def skip (tokens : List Token) : Except Refusal (List Token) :=
  skipFrom [] (.value false) tokens

end Reader
end FloatingIp.Json
