import FloatingIp.Digits
import FloatingIp.Yaml.Scalar

/-!
# What scalars mean

A plain scalar is read as null, as a truth value, as an integer or as a float if it looks like
one, and as a text otherwise; a scalar in any other style is a text.  Integers are decimal without
leading zeros, or have a base in front.  A tag of the core schema asks for one of these readings.
Floats beyond the finite ones are texts.
-/

namespace FloatingIp.Yaml

/-- What a scalar means. -/
inductive Meaning where
  | null
  | flag (b : Bool)
  /-- An integer from -2^63 to 2^64 - 1. -/
  | integer (i : Int)
  /-- An integer of up to 128 bits that is none of those. -/
  | wide
  | float (x : Float)
  | text (s : String)

namespace Core

/-- Whether a plain scalar is null. -/
def isNull (s : String) : Bool :=
  s = "null" || s = "Null" || s = "NULL" || s = "~"

/-- The truth value of a plain scalar. -/
def flag? (s : String) : Option Bool :=
  if s = "true" ∨ s = "True" ∨ s = "TRUE" then some true
  else if s = "false" ∨ s = "False" ∨ s = "FALSE" then some false
  else none

/-- Whether a character is a sign. -/
def isSign (c : Char) : Bool :=
  c = '+' || c = '-'

/-- Whether a text is digits behind a needless zero, with or without a sign. -/
def isPadded (s : List Char) : Bool :=
  match (if s.head?.any isSign then s.tail else s) with
  | '0' :: d :: ds => (d :: ds).all (Digits.isDigit 10)
  | _ => false

/-- The number of digits in a base that stands in front of them. -/
def based? : List Char → Option Nat
  | '0' :: 'x' :: ds => Digits.read? 16 ds
  | '0' :: 'o' :: ds => Digits.read? 8 ds
  | '0' :: 'b' :: ds => Digits.read? 2 ds
  | _ => none

/-- The number of a text without minus sign. -/
def unsigned? (s : List Char) : Option Nat :=
  let t := if s.head? = some '+' then s.tail else s
  match based? t with
  | some n => some n
  | none => if isPadded s then none else Digits.read? 10 t

/-- The number behind a minus sign. -/
def negated? : List Char → Option Nat
  | '-' :: t =>
    match based? t with
    | some n => some n
    | none => if isPadded t then none else Digits.read? 10 t
  | _ => none

/-- The natural number of a plain scalar, of at most 64 bits. -/
def natural? (s : String) : Option Nat :=
  (unsigned? s.toList).filter (· < Digits.twoTo 64)

/-- The integer that a text means, if it means one of at most 128 bits. -/
def integer? (s : List Char) : Option Meaning :=
  match unsigned? s with
  | some n =>
    if n < Digits.twoTo 64 then some (.integer n)
    else if n < Digits.twoTo 128 then some .wide else none
  | none =>
    match negated? s with
    | some n =>
      if n ≤ Digits.twoTo 63 then some (.integer (-n))
      else if n ≤ Digits.twoTo 127 then some .wide else none
    | none => none

/-- Takes an exponent with its mark. -/
def exponent? : List Char → Option Int
  | [] => some 0
  | e :: t =>
    if e = 'e' ∨ e = 'E' then
      let ds := if t.head?.any isSign then t.tail else t
      (Digits.read? 10 ds).map fun n => if t.head? = some '-' then -n else n
    else none

/-- The float nearest to `digits · 10^power`; nothing beyond the finite ones. -/
def nearest? (digits : Nat) (power : Int) : Option Float :=
  let size : Int := (Digits.text 10 digits).length + power
  if digits = 0 ∨ size < -400 then some 0.0
  else if 400 < size then none
  else
    let x := if 0 ≤ power then Float.ofScientific digits false power.toNat
      else Float.ofScientific digits true power.natAbs
    if x.isFinite then some x else none

/-- The float of a decimal without sign. -/
def decimal? (s : List Char) : Option Float :=
  let whole := s.takeWhile (Digits.isDigit 10)
  let rest := s.dropWhile (Digits.isDigit 10)
  let (places, rest) := match rest with
    | '.' :: t => (t.takeWhile (Digits.isDigit 10), t.dropWhile (Digits.isDigit 10))
    | t => ([], t)
  if whole.isEmpty && places.isEmpty then none
  else (exponent? rest).bind fun e =>
    nearest? (Digits.value 10 (whole ++ places)) (e - places.length)

/-- The float of a text. -/
def float? (s : String) : Option Float :=
  let infinite (t : List Char) := t = ".inf".toList || t = ".Inf".toList || t = ".INF".toList
  match s.toList with
  | '+' :: t => if infinite t then some (1.0 / 0.0) else decimal? t
  | '-' :: t => if infinite t then some (-(1.0 / 0.0)) else (decimal? t).map fun x => -x
  | t =>
    if infinite t then some (1.0 / 0.0)
    else if s = ".nan" ∨ s = ".NaN" ∨ s = ".NAN" then some (0.0 / 0.0)
    else decimal? t

/-- What a plain scalar without tag means. -/
def meaning (s : String) : Meaning :=
  if s.isEmpty || isNull s then .null
  else match flag? s, integer? s.toList with
    | some b, _ => .flag b
    | none, some m => m
    | none, none =>
      match if isPadded s.toList then none else float? s with
      | some x => .float x
      | none => .text s

/-- The tags of the core schema. -/
def tagOf (name : String) : String :=
  "tag:yaml.org,2002:" ++ name

/-- Whether a tag is one of the text's own, and what comes behind its mark. -/
def ownTag? (tag : Option String) : Option String :=
  match tag.map String.toList with
  | some ('!' :: name) => some (String.ofList name)
  | _ => none

/-- What a scalar means; nothing if its tag asks for something that it is not. -/
def meaning? (tag : Option String) (style : Style) (s : String) : Option Meaning :=
  match tag with
  | none => some (if style = .plain then meaning s else .text s)
  | some t =>
    if t = tagOf "bool" then (flag? s).map .flag
    else if t = tagOf "int" then integer? s.toList
    else if t = tagOf "float" then (float? s).map .float
    else if t = tagOf "null" then if isNull s then some .null else none
    else if (ownTag? tag).isSome ∧ style = .plain then some (meaning s)
    else some (.text s)

end Core
end FloatingIp.Yaml
