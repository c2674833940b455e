import FloatingIp.Net.Domain.Direction
import FloatingIp.Net.Domain.Folding
import FloatingIp.Net.Domain.Joiner
import FloatingIp.Net.Domain.Punycode
import FloatingIp.Text.Utf8

/-!
# Domain names in ASCII

A domain name reaches a name server in ASCII.  `Domain.toAscii?` brings a name to that form: it is
folded, and each of its labels that is not ASCII then is written in digits, with a mark in front
that tells so.  A label that carries the mark already has to be one that would have got it.

What a name may hold is checked label by label, in the form that is shown to people.
-/

namespace FloatingIp.Net.Domain

/-- ASCII characters that no domain name holds: controls, the space, and those with a meaning in
URLs. -/
def isDenied (c : Char) : Bool :=
  c.toNat ≤ 0x20 || c.toNat = 0x7F || c = '%' || c = '#' || c = '/' || c = ':' || c = '<' ||
    c = '>' || c = '?' || c = '@' || c = '[' || c = '\\' || c = ']' || c = '^' || c = '|'

/-- Whether a character is one of ASCII. -/
def isAscii (c : Char) : Bool :=
  c.toNat < 0x80

/-- The labels of a name, between its dots. -/
def labels : List Char → List (List Char)
  | [] => [[]]
  | c :: rest =>
    if c = '.' then [] :: labels rest
    else match labels rest with
      | [] => [[c]]
      | l :: ls => (c :: l) :: ls

/-- The name with these labels. -/
def ofLabels (ls : List (List Char)) : List Char :=
  ['.'].intercalate ls

/-- The mark of labels in digits. -/
def mark : List Char := ['x', 'n', '-', '-']

/-- The greatest number of characters behind a mark. -/
def maxDigits : Nat := 2000

/-- The greatest number of characters of a label that is to be written in digits. -/
def maxLength : Nat := 1000

/-- What stands behind the mark of a label, if it carries one. -/
def unmarked? (label : List Char) : Option (List Char) :=
  if mark.isPrefixOf label then some (label.drop mark.length) else none

/-- The label that digits stand for.  There has to be something beyond ASCII in it, and it has to
be stable. -/
def ofDigits? (digits : List Char) : Option (List Char) :=
  if digits.isEmpty || digits.getLast? = some '-' || maxDigits < digits.length then none
  else (Punycode.decode? digits).filter fun label => folded? label = some label

/-- A folded label as it is shown to people. -/
def shown? (label : List Char) : Option (List Char) :=
  match unmarked? label with
  | some digits => ofDigits? digits
  | none => some label

/-- Whether a name can hold a label, whatever its other labels are. -/
def isSound (label : List Char) : Bool :=
  !label.any isDenied && !label.head?.any Text.isMark && Joiner.allFit [] label

/-- A label in ASCII. -/
def labelAscii? (label : List Char) : Option (List Char) :=
  if label.all isAscii then some label
  else if maxLength < label.length then none
  else some (mark ++ Punycode.encode label)

/-- The ASCII form of a name, if it has one. -/
def toAscii? (bytes : List UInt8) : Option (List Char) := do
  let shown ← (labels (← folded? (← Text.Utf8.strict? bytes))).mapM shown?
  if shown.all isSound && keepDirections shown then
    (shown.mapM labelAscii?).map ofLabels
  else none

end FloatingIp.Net.Domain
