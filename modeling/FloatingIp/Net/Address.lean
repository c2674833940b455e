import FloatingIp.Digits
import FloatingIp.Text.Blank

/-!
# Internet addresses and their text

An address is four octets or eight groups of sixteen bits.  `Address.text` is the canonical
text: four plain decimals, or groups in lower-case hexadecimal of which the longest run of at
least two zero groups (the first one of equally long runs) is written `::`, and an address that
embeds an IPv4 address behind `ffff` ends in its dotted form.  `Address.ofText?` reads that
text and every other admitted spelling: groups with leading zeros, `::` for any number of zero
groups, a dotted tail behind any six groups.  Octets admit no leading zero.
-/

namespace FloatingIp.Net

open Digits

/-- An IPv4 or IPv6 address. -/
inductive Address where
  /-- Four octets. -/
  | v4 (octets : Vector UInt8 4)
  /-- Eight groups of sixteen bits. -/
  | v6 (groups : Vector UInt16 8)
  deriving DecidableEq

namespace Address

/-- The longest network prefix of the address family. -/
def maxPrefixLen : Address → UInt8
  | v4 _ => 32
  | v6 _ => 128

/-! ## Writing -/

/-- Four decimals with dots between them. -/
def dotted (octets : List UInt8) : List Char :=
  Text.join ['.'] (octets.map fun o => Digits.text 10 o.toNat)

/-- Hexadecimal groups with colons between them. -/
def groupsText (groups : List UInt16) : List Char :=
  Text.join [':'] (groups.map fun g => Digits.text 16 g.toNat)

/-- How many zero groups a list starts with. -/
def leadingZeros : List UInt16 → Nat
  | [] => 0
  | g :: rest => if g = 0 then leadingZeros rest + 1 else 0

/-- Start and length of the longest run of zero groups, the first one of equally long runs;
`start` is the position of the list's head. -/
def longestZeros (start : Nat) : List UInt16 → Nat × Nat
  | [] => (start, 0)
  | g :: rest =>
    let here := leadingZeros (g :: rest)
    let later := longestZeros (start + 1) rest
    if later.2 ≤ here then (start, here) else later

/-- Groups with their longest run of at least two zeros shortened to `::`. -/
def compressed (groups : List UInt16) : List Char :=
  let run := longestZeros 0 groups
  if run.2 ≤ 1 then groupsText groups
  else groupsText (groups.take run.1) ++ [':', ':'] ++ groupsText (groups.drop (run.1 + run.2))

/-- The octets of the IPv4 address that an IPv6 address maps, if it maps one. -/
def mapped? : List UInt16 → Option (List UInt8)
  | [0, 0, 0, 0, 0, 0xffff, hi, lo] =>
    some [(hi >>> 8).toUInt8, hi.toUInt8, (lo >>> 8).toUInt8, lo.toUInt8]
  | _ => none

/-- The canonical text of an address. -/
def chars : Address → List Char
  | v4 octets => dotted octets.toList
  | v6 groups =>
    match mapped? groups.toList with
    | some octets => "::ffff:".toList ++ dotted octets
    | none => compressed groups.toList

/-- The canonical text of an address. -/
def text (a : Address) : String :=
  String.ofList a.chars

/-! ## Reading -/

/-- Reads a number of at most `most` digits off the front.  More digits are refused, and so is a
needless zero in front unless `zeros` admits it. -/
def readNumber (base most : Nat) (zeros : Bool) (s : List Char) : Option (Nat × List Char) :=
  let digits := s.takeWhile (isDigit base)
  let needless := digits.head? == some '0' && digits.length > 1
  if digits.isEmpty || digits.length > most || (needless && !zeros) then none
  else some (value base digits, s.dropWhile (isDigit base))

/-- Reads an octet. -/
def readOctet (s : List Char) : Option (UInt8 × List Char) := do
  let (n, rest) ← readNumber 10 3 false s
  if n < 256 then some (UInt8.ofNat n, rest) else none

/-- Reads a separator that is due except before the first item. -/
def readSeparator (sep : Char) (first : Bool) (s : List Char) : Option (List Char) :=
  if first then some s
  else match s with
    | c :: rest => if c = sep then some rest else none
    | [] => none

/-- Reads `n` octets with dots between them. -/
def readOctets : (n : Nat) → (first : Bool) → List Char → Option (List UInt8 × List Char)
  | 0, _, s => some ([], s)
  | n + 1, first, s => do
    let (octet, rest) ← readOctet (← readSeparator '.' first s)
    let (octets, rest) ← readOctets n false rest
    some (octet :: octets, rest)

/-- Two groups from four octets. -/
def groupsOfOctets : List UInt8 → List UInt16
  | [a, b, c, d] => [a.toUInt16 <<< 8 ||| b.toUInt16, c.toUInt16 <<< 8 ||| d.toUInt16]
  | _ => []

/-- Reads up to `limit` groups with colons between them, as many as there are.  Where two places
are left a dotted quad may fill both; then the flag is set and reading ends. -/
def readGroups : (limit : Nat) → (first : Bool) → List Char → List UInt16 × Bool × List Char
  | 0, _, s => ([], false, s)
  | limit + 1, first, s =>
    let quad := if limit = 0 then none else (readSeparator ':' first s).bind (readOctets 4 true)
    match quad with
    | some (octets, rest) => (groupsOfOctets octets, true, rest)
    | none =>
      match (readSeparator ':' first s).bind (readNumber 16 4 true) with
      | none => ([], false, s)
      | some (g, rest) =>
        let (gs, dottedTail, rest) := readGroups limit false rest
        (UInt16.ofNat g :: gs, dottedTail, rest)

/-- The groups of an IPv6 text: eight of them, or fewer around one `::`. -/
def readV6 (s : List Char) : Option (List UInt16 × List Char) :=
  let (front, dottedTail, rest) := readGroups 8 true s
  if front.length = 8 then some (front, rest)
  else if dottedTail then none
  else match rest with
    | ':' :: ':' :: rest =>
      let (back, _, rest) := readGroups (7 - front.length) true rest
      some (front ++ List.replicate (8 - front.length - back.length) 0 ++ back, rest)
    | _ => none

/-- Four octets as an address. -/
def ofOctets? (octets : List UInt8) : Option Address :=
  if h : octets.length = 4 then some (v4 ⟨octets.toArray, by simpa using h⟩) else none

/-- Eight groups as an address. -/
def ofGroups? (groups : List UInt16) : Option Address :=
  if h : groups.length = 8 then some (v6 ⟨groups.toArray, by simpa using h⟩) else none

/-- The address that a text spells, all of it. -/
def ofChars? (s : List Char) : Option Address :=
  match readOctets 4 true s with
  | some (octets, []) => ofOctets? octets
  | some _ => none
  | none =>
    match readV6 s with
    | some (groups, []) => ofGroups? groups
    | _ => none

/-- The address that a text spells, all of it. -/
def ofText? (s : String) : Option Address :=
  ofChars? s.toList

end Address
end FloatingIp.Net
