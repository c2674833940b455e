import FloatingIp.Json.Numeral
import FloatingIp.Text.Utf8

/-!
# Tokens of JSON texts

A JSON text is read as a list of tokens.  Where the bytes break the lexical rules the list ends in
`malformed`, so that a reader that stops earlier for a reason of its own never looks at it.

A string token keeps its content in pieces, plain bytes and escaped code units: whether they make
up a text matters only to a reader that wants the text.
-/

namespace FloatingIp.Json

/-- A piece of the content of a string. -/
inductive Piece where
  /-- A byte that stands for itself. -/
  | byte (b : UInt8)
  /-- A code unit of sixteen bits, written in hexadecimal. -/
  | unit (n : Nat)
  deriving DecidableEq, Repr

/-- A token of a JSON text. -/
inductive Token where
  | listOpen
  | listClose
  | mapOpen
  | mapClose
  | comma
  | colon
  | null
  | flag (value : Bool)
  | number (n : Numeral)
  | string (content : List Piece)
  /-- The bytes from here on are no token. -/
  | malformed
  deriving DecidableEq, Repr

namespace Token

/-- The character behind a backslash that stands for one byte. -/
def escaped? (b : UInt8) : Option UInt8 :=
  if b = 0x22 ∨ b = 0x5C ∨ b = 0x2F then some b
  else if b = 0x62 then some 8
  else if b = 0x66 then some 12
  else if b = 0x6E then some 10
  else if b = 0x72 then some 13
  else if b = 0x74 then some 9
  else none

/-- The value of a hexadecimal digit. -/
def hex? (b : UInt8) : Option Nat :=
  Digits.value? 16 (Char.ofNat b.toNat)

/-- The pieces up to the closing quote, and what follows it. -/
def pieces : List UInt8 → Option (List Piece × List UInt8)
  | [] => none
  | b :: rest =>
    if b = 0x22 then some ([], rest)
    else if b = 0x5C then
      match rest with
      | 0x75 :: w :: x :: y :: z :: rest => do
        let unit := (((← hex? w) * 16 + (← hex? x)) * 16 + (← hex? y)) * 16 + (← hex? z)
        let (ps, rest) ← pieces rest
        some (.unit unit :: ps, rest)
      | c :: rest => do
        let c ← escaped? c
        let (ps, rest) ← pieces rest
        some (.byte c :: ps, rest)
      | [] => none
    else if b.toNat < 0x20 then none
    else do
      let (ps, rest) ← pieces rest
      some (.byte b :: ps, rest)

/-- The bytes of a string's content.  A unit from D800 to DBFF has to stand right before one from
DC00 to DFFF, and the two are one character. -/
def contentBytes? : List Piece → Option (List UInt8)
  | [] => some []
  | .byte b :: rest => (contentBytes? rest).map (b :: ·)
  | .unit n :: rest =>
    if 0xDC00 ≤ n ∧ n ≤ 0xDFFF then none
    else if 0xD800 ≤ n ∧ n ≤ 0xDBFF then
      match rest with
      | .unit low :: rest =>
        if 0xDC00 ≤ low ∧ low ≤ 0xDFFF then
          let c := Char.ofNat (0x10000 + (n - 0xD800) * 0x400 + (low - 0xDC00))
          (contentBytes? rest).map (String.utf8EncodeChar c ++ ·)
        else none
      | _ => none
    else (contentBytes? rest).map (String.utf8EncodeChar (Char.ofNat n) ++ ·)

/-- The text of a string's content, if it is one. -/
def content? (ps : List Piece) : Option String :=
  ((contentBytes? ps).bind Text.Utf8.strict?).map String.ofList

/-- Whether a byte is a decimal digit. -/
def isDigit (b : UInt8) : Bool :=
  48 ≤ b.toNat && b.toNat ≤ 57

/-- The leading digits of a byte string, as values. -/
def digits (bytes : List UInt8) : List Nat :=
  (bytes.takeWhile isDigit).map fun b => b.toNat - 48

/-- What follows the leading digits of a byte string. -/
def afterDigits (bytes : List UInt8) : List UInt8 :=
  bytes.dropWhile isDigit

/-- Reads the whole digits of a numeral: a zero stands alone. -/
def wholeDigits? (bytes : List UInt8) : Option (List Nat × List UInt8) :=
  let ds := digits bytes
  if ds.isEmpty || (ds.head? == some 0 && ds.length > 1) then none
  else some (ds, afterDigits bytes)

/-- Reads a point with the digits after it, if there is a point. -/
def fractionDigits? (bytes : List UInt8) : Option (List Nat × List UInt8) :=
  match bytes with
  | 0x2E :: rest => if (digits rest).isEmpty then none else some (digits rest, afterDigits rest)
  | _ => some ([], bytes)

/-- Reads the sign of an exponent: whether it is a minus. -/
def exponentSign : List UInt8 → Bool × List UInt8
  | 0x2B :: rest => (false, rest)
  | 0x2D :: rest => (true, rest)
  | bytes => (false, bytes)

/-- Reads an exponent, if there is one. -/
def exponentDigits? (bytes : List UInt8) : Option (Option (Bool × List Nat) × List UInt8) :=
  match bytes with
  | b :: rest =>
    if b = 0x65 ∨ b = 0x45 then
      let (down, rest) := exponentSign rest
      if (digits rest).isEmpty then none else some (some (down, digits rest), afterDigits rest)
    else some (none, bytes)
  | [] => some (none, bytes)

/-- Reads a numeral behind its sign. -/
def unsigned? (negative : Bool) (bytes : List UInt8) : Option (Token × List UInt8) := do
  let (whole, rest) ← wholeDigits? bytes
  let (fraction, rest) ← fractionDigits? rest
  let (exponent, rest) ← exponentDigits? rest
  some (.number ⟨negative, whole, fraction, exponent⟩, rest)

/-- Reads the token at the front of a byte string that starts with no blank. -/
def first? : List UInt8 → Option (Token × List UInt8)
  | 0x5B :: rest => some (.listOpen, rest)
  | 0x5D :: rest => some (.listClose, rest)
  | 0x7B :: rest => some (.mapOpen, rest)
  | 0x7D :: rest => some (.mapClose, rest)
  | 0x2C :: rest => some (.comma, rest)
  | 0x3A :: rest => some (.colon, rest)
  | 0x6E :: 0x75 :: 0x6C :: 0x6C :: rest => some (.null, rest)
  | 0x74 :: 0x72 :: 0x75 :: 0x65 :: rest => some (.flag true, rest)
  | 0x66 :: 0x61 :: 0x6C :: 0x73 :: 0x65 :: rest => some (.flag false, rest)
  | 0x22 :: rest => (pieces rest).map fun (ps, rest) => (.string ps, rest)
  | 0x2D :: rest => unsigned? true rest
  | bytes => unsigned? false bytes

/-- Whether a byte may stand between tokens. -/
def isBlank (b : UInt8) : Bool :=
  b = 0x20 || b = 0x0A || b = 0x09 || b = 0x0D

/-- The tokens of a text, at most `most` of them. -/
def listUpTo : (most : Nat) → List UInt8 → List Token
  | 0, _ => []
  | most + 1, bytes =>
    match bytes.dropWhile isBlank with
    | [] => []
    | bytes =>
      match first? bytes with
      | some (t, rest) => t :: listUpTo most rest
      | none => [.malformed]

/-- The tokens of a text; each takes at least one byte. -/
def list (bytes : List UInt8) : List Token :=
  listUpTo bytes.length bytes

end Token
end FloatingIp.Json
