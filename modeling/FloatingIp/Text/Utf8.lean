/-!
# UTF-8

Bytes are read through `units`: one entry for each well-formed character, and one empty entry
for each maximal part that begins a character and cannot go on.  Reading leniently puts U+FFFD
for an empty entry; reading strictly refuses it.  The byte that breaks a part off is read again
as the start of the next one.
-/

namespace FloatingIp.Text.Utf8

/-- The bytes of a text. -/
def encode (s : List Char) : List UInt8 :=
  s.flatMap String.utf8EncodeChar

/-- A character that has begun: the bits so far, how many bytes are due, and the range in which
the next one has to lie. -/
structure Begun where
  /-- Bits read so far. -/
  bits : Nat
  /-- Bytes still due, at least one. -/
  due : Nat
  /-- Least admitted next byte. -/
  least : Nat
  /-- Greatest admitted next byte. -/
  greatest : Nat
  deriving DecidableEq

/-- What the first byte of a longer character begins.  The ranges for the second byte leave out
overlong forms, surrogates and everything above U+10FFFF. -/
def begin? (b : UInt8) : Option Begun :=
  let n := b.toNat
  if 0xC2 ≤ n ∧ n ≤ 0xDF then some ⟨n - 0xC0, 1, 0x80, 0xBF⟩
  else if n = 0xE0 then some ⟨0, 2, 0xA0, 0xBF⟩
  else if n = 0xED then some ⟨0xD, 2, 0x80, 0x9F⟩
  else if 0xE1 ≤ n ∧ n ≤ 0xEF then some ⟨n - 0xE0, 2, 0x80, 0xBF⟩
  else if n = 0xF0 then some ⟨0, 3, 0x90, 0xBF⟩
  else if n = 0xF4 then some ⟨4, 3, 0x80, 0x8F⟩
  else if 0xF1 ≤ n ∧ n ≤ 0xF3 then some ⟨n - 0xF0, 3, 0x80, 0xBF⟩
  else none

/-- Reads a byte as the start of something: the entry that it completes, if any, and the
character that it begins, if any. -/
def start (b : UInt8) : List (Option Char) × Option Begun :=
  if b.toNat < 0x80 then ([some (Char.ofNat b.toNat)], none)
  else match begin? b with
    | some begun => ([], some begun)
    | none => ([none], none)

/-- Reads one byte: the entries that it completes, and the character that is begun after it. -/
def step (pending : Option Begun) (b : UInt8) : List (Option Char) × Option Begun :=
  match pending with
  | none => start b
  | some p =>
    if p.least ≤ b.toNat ∧ b.toNat ≤ p.greatest then
      let bits := p.bits * 64 + b.toNat % 64
      if p.due ≤ 1 then ([some (Char.ofNat bits)], none)
      else ([], some ⟨bits, p.due - 1, 0x80, 0xBF⟩)
    else
      let (entries, begun) := start b
      (none :: entries, begun)

/-- Entries of the bytes after `pending`. -/
def unitsFrom (pending : Option Begun) : List UInt8 → List (Option Char)
  | [] => if pending.isSome then [none] else []
  | b :: rest => (step pending b).1 ++ unitsFrom (step pending b).2 rest

/-- The characters of a byte string, with an empty entry for each maximal part that is none. -/
def units (bytes : List UInt8) : List (Option Char) :=
  unitsFrom none bytes

/-- The text of a byte string, each maximal invalid part read as U+FFFD. -/
def lenient (bytes : List UInt8) : List Char :=
  (units bytes).map fun u => u.getD '\uFFFD'

/-- The text of a byte string, if the whole of it is well formed. -/
def strict? (bytes : List UInt8) : Option (List Char) :=
  (units bytes).mapM id

end FloatingIp.Text.Utf8
