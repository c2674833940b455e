import FloatingIp.Decimal

/-!
# Numbers in JSON texts

A numeral is kept as it stands: sign, whole digits, fraction digits and exponent.  What it means
depends on its form.  Without fraction and exponent it is an integer as long as it fits into 64
bits; everything else, negative zero included, is a float.

A float is computed from a significand of at most 64 bits and a power of ten: digits are taken
into the significand as long as it does not overflow, those after it only move the point.  One
multiplication or division by a power of ten then gives the value, so the result is not always
the nearest float.
-/

namespace FloatingIp.Json

/-- A numeral as it is written. -/
structure Numeral where
  /-- Whether a minus sign stands in front. -/
  negative : Bool
  /-- The digits before the point, at least one. -/
  whole : List Nat
  /-- The digits after the point, none if there is no point. -/
  fraction : List Nat
  /-- Whether the exponent is negative, and its digits, if there is an exponent. -/
  exponent : Option (Bool × List Nat)
  deriving DecidableEq, Repr

/-- What a numeral means. -/
inductive Number where
  /-- An integer from zero to 2^64 - 1. -/
  | natural (n : Nat)
  /-- The negative of an integer from one to 2^63. -/
  | negative (n : Nat)
  /-- A float. -/
  | float (x : Float)

namespace Numeral

/-- The value of decimal digits. -/
def digitsValue (ds : List Nat) : Nat :=
  ds.foldl (fun acc d => acc * 10 + d) 0

/-- Takes digits into a significand as long as it stays within 64 bits; returns it with the
digits that are left. -/
def absorb (significand : Nat) : List Nat → Nat × List Nat
  | [] => (significand, [])
  | d :: ds =>
    if significand * 10 + d < Digits.twoTo 64 then absorb (significand * 10 + d) ds
    else (significand, d :: ds)

/-- `significand · 10^power`, or nothing above the greatest float.  Powers beyond the greatest
power of ten that is a float are divided off in steps. -/
def scaled? : (steps : Nat) → Float → Int → Option Float
  | 0, x, _ => some x
  | steps + 1, x, power =>
    if power.natAbs ≤ 308 then
      if 0 ≤ power then
        let y := x * Float.ofScientific 1 false power.toNat
        if y.isInf then none else some y
      else some (x / Float.ofScientific 1 false power.natAbs)
    else if x == 0 then some x
    else if 0 ≤ power then none
    else scaled? steps (x / Float.ofScientific 1 false 308) (power + 308)

/-- The float of a significand and a power of ten. -/
def float? (negative : Bool) (significand : Nat) (power : Int) : Option Float :=
  (scaled? 4 (Float.ofNat significand) power).map fun x => if negative then -x else x

/-- The float of a numeral, or nothing if it is too large for one. -/
def toFloat? (n : Numeral) : Option Float :=
  let (w, wholeLeft) := absorb 0 n.whole
  let (s, fractionLeft) := absorb w n.fraction
  let power : Int := (wholeLeft.length : Int) - (n.fraction.length - fractionLeft.length : Nat)
  match n.exponent with
  | none => float? n.negative s power
  | some (down, ds) =>
    let e := digitsValue ds
    if Digits.twoTo 31 ≤ e then
      if s ≠ 0 && !down then none else some (if n.negative then -0.0 else 0.0)
    else float? n.negative s (if down then power - e else power + e)

/-- What a numeral means, or nothing if it is too large. -/
def number? (n : Numeral) : Option Number :=
  let v := digitsValue n.whole
  if n.fraction.isEmpty && n.exponent.isNone && v < Digits.twoTo 64 then
    if !n.negative then some (.natural v)
    else if v = 0 ∨ Digits.twoTo 63 < v then some (.float (-(Float.ofNat v)))
    else some (.negative v)
  else n.toFloat?.map .float

end Numeral
end FloatingIp.Json
