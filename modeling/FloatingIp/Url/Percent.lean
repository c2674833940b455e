import FloatingIp.Digits
import FloatingIp.Text.Utf8

/-!
# Percent-encoding

Outside ASCII, and for the controls, a character always stands in a URL as its UTF-8 bytes, each
written as a percent sign and two upper-case digits.  Which other characters are written so
depends on the part of the URL; each part has its set.  Percent signs themselves are never
encoded, so that a text which is encoded already stays as it is.
-/

namespace FloatingIp.Url.Percent

/-- Characters that a fragment encodes. -/
def inFragment (c : Char) : Bool :=
  c = ' ' || c = '"' || c = '<' || c = '>' || c = '\x60'

/-- Characters that the query of a special URL encodes. -/
def inQuery (c : Char) : Bool :=
  c = ' ' || c = '"' || c = '#' || c = '<' || c = '>' || c = '\''

/-- Characters that a path encodes. -/
def inPath (c : Char) : Bool :=
  inFragment c || c = '#' || c = '?' || c = '\x7b' || c = '\x7d'

/-- Characters that user name and password encode. -/
def inUserinfo (c : Char) : Bool :=
  inPath c || c = '/' || c = ':' || c = ';' || c = '=' || c = '@' || c = '[' || c = '\\' ||
    c = ']' || c = '^' || c = '|'

/-- A hexadecimal digit in upper case. -/
def upperDigit (n : Nat) : Char :=
  if n < 10 then Char.ofNat (48 + n) else Char.ofNat (55 + n)

/-- One byte as a percent sign and two digits. -/
def byteText (b : UInt8) : List Char :=
  ['%', upperDigit (b.toNat / 16), upperDigit (b.toNat % 16)]

/-- One character in a part of a URL that encodes the characters of `set`. -/
def encodeChar (set : Char → Bool) (c : Char) : List Char :=
  if c.toNat < 0x20 ∨ 0x7F ≤ c.toNat ∨ set c then (String.utf8EncodeChar c).flatMap byteText
  else [c]

/-- A text in a part of a URL that encodes the characters of `set`. -/
def encode (set : Char → Bool) (s : List Char) : List Char :=
  s.flatMap (encodeChar set)

/-- The value of a byte that is a hexadecimal digit. -/
def hex? (b : UInt8) : Option Nat :=
  Digits.value? 16 (Char.ofNat b.toNat)

/-- The byte that two digits stand for, if both are digits. -/
def pair? (x y : UInt8) : Option UInt8 := do
  some (UInt8.ofNat ((← hex? x) * 16 + (← hex? y)))

/-- Bytes with each percent sign and its two digits replaced by the byte they stand for.  A
percent sign without two digits stays. -/
def decode : List UInt8 → List UInt8
  | b :: x :: y :: rest =>
    match if b = 0x25 then pair? x y else none with
    | some v => v :: decode rest
    | none => b :: decode (x :: y :: rest)
  | short => short

end FloatingIp.Url.Percent
