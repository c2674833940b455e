import FloatingIp.Digits

/-!
# The shortest decimal of a binary float

A positive finite float is m · 2^q.  The reals that round to it form an interval around it, ends
included if m is even.  `shortest` looks for a decimal in that interval with one digit, then with
two, and so on: on each grid only the two neighbours of the float can be the nearest point inside
the interval, and the first grid with a hit wins.  All arithmetic is exact, on naturals.

A `Layout` says how such a decimal is written; the two layouts in use differ in whether very
large and very small numbers get an exponent.
-/

namespace FloatingIp.Decimal

/-- A positive decimal `digits · 10^exponent`. -/
structure Shortest where
  /-- The significant digits as one number, without trailing zeros. -/
  digits : Nat
  /-- The power of ten of the last digit. -/
  exponent : Int
  deriving DecidableEq, Repr

/-- What the bits of a double stand for. -/
inductive Value where
  | nan
  | infinite (negative : Bool)
  | zero (negative : Bool)
  /-- `± m · 2^q`; `lowest` marks the least `m` of its power of two, below which floats are
  twice as dense. -/
  | finite (negative : Bool) (m : Nat) (q : Int) (lowest : Bool)
  deriving DecidableEq, Repr

/-- Reads the sign, exponent and fraction fields of a double. -/
def Value.ofBits (bits : UInt64) : Value :=
  let n := bits.toNat
  let negative := n / Digits.twoTo 63 == 1
  let e : Nat := n / Digits.twoTo 52 % Digits.twoTo 11
  let f : Nat := n % Digits.twoTo 52
  if e = 2047 then (if f = 0 then infinite negative else nan)
  else if e = 0 then (if f = 0 then zero negative else finite negative f (-1074) false)
  else finite negative (Digits.twoTo 52 + f) ((e : Int) - 1075) (f == 0 && e != 1)

/-- The power of ten of the leading digit of `num / den`, which is positive. -/
def leadingPower (num den : Nat) : Int :=
  if den ≤ num then (Digits.text 10 (num / den)).length - 1
  else - ((List.range 400).find? (fun k => den ≤ num * Digits.tenTo (k + 1))).getD 0 - 1

/-- A fraction times a power of ten. -/
def scale (num den : Nat) (e : Int) : Nat × Nat :=
  if 0 ≤ e then (num * Digits.tenTo e.toNat, den) else (num, den * Digits.tenTo (-e).toNat)

/-- Drops trailing zeros. -/
def dropZeros (digits : Nat) (exponent : Int) : Shortest :=
  if digits ≠ 0 ∧ digits % 10 = 0 then dropZeros (digits / 10) (exponent + 1)
  else ⟨digits, exponent⟩
termination_by digits
decreasing_by exact Nat.div_lt_self (by omega) (by omega)

/-- The nearest decimal on the grid of step `10^step` to `v / den`, if it lies between `lo / den`
and `hi / den`, ends included if `closed`. -/
def onGrid? (v lo hi den : Nat) (closed : Bool) (step : Int) : Option Shortest :=
  let inside (k : Nat) : Bool :=
    let (kn, kd) := scale k 1 step
    let x := kn * den
    if closed then lo * kd ≤ x && x ≤ hi * kd else lo * kd < x && x < hi * kd
  let (vn, vd) := scale v den (-step)
  let k := vn / vd
  let twice := 2 * (vn % vd)
  let above := vd < twice || (twice == vd && k % 2 == 1)
  match inside k && 0 < k, inside (k + 1) with
  | true, true => some (dropZeros (if above then k + 1 else k) step)
  | true, false => some (dropZeros k step)
  | false, true => some (dropZeros (k + 1) step)
  | false, false => none

/-- The shortest decimal that rounds to `m · 2^q`, the nearest one of equally short ones. -/
def shortest (m : Nat) (q : Int) (lowest : Bool) : Shortest :=
  -- Four units are one step of `m`, so that the ends of the interval are whole.
  let up := if 2 ≤ q then Digits.twoTo (q - 2).toNat else 1
  let den := if 2 ≤ q then 1 else Digits.twoTo (2 - q).toNat
  let v := 4 * m * up
  let lo := (4 * m - (if lowest then 1 else 2)) * up
  let hi := (4 * m + 2) * up
  let e := leadingPower v den
  let found := (List.range 17).findSome? fun (n : Nat) =>
    onGrid? v lo hi den (m % 2 == 0) (e - (n : Int))
  found.getD ⟨m, 0⟩

/-! ## Writing -/

/-- How a float is written. -/
structure Layout where
  /-- Whether a number whose leading digit stands for `10^e` is written without exponent. -/
  positional : Int → Bool
  /-- The text of infinity. -/
  infinity : String
  /-- The text of no number. -/
  nan : String

/-- Every number is written out. -/
def Layout.plain : Layout :=
  ⟨fun _ => true, "inf", "NaN"⟩

/-- Numbers from 0.00001 up to sixteen whole digits are written out, others get an exponent. -/
def Layout.scientific : Layout :=
  ⟨fun e => -5 ≤ e && e ≤ 15, "null", "null"⟩

/-- A decimal written out, with at least one digit on either side of the point. -/
def positionalText (d : Shortest) : List Char :=
  let ds := Digits.text 10 d.digits
  if 0 ≤ d.exponent then ds ++ List.replicate d.exponent.toNat '0' ++ ['.', '0']
  else
    let after := (-d.exponent).toNat
    if after < ds.length then ds.take (ds.length - after) ++ '.' :: ds.drop (ds.length - after)
    else ['0', '.'] ++ List.replicate (after - ds.length) '0' ++ ds

/-- A decimal with an exponent, which always has a sign and no leading zero. -/
def exponentText (d : Shortest) : List Char :=
  let ds := Digits.text 10 d.digits
  let e : Int := d.exponent + ds.length - 1
  ds.take 1 ++ (if ds.length ≤ 1 then [] else '.' :: ds.drop 1) ++
    ['e', if e < 0 then '-' else '+'] ++ Digits.text 10 e.natAbs

/-- The text of a float in a layout. -/
def Layout.text (layout : Layout) (x : Float) : String :=
  let signed (negative : Bool) (s : List Char) := String.ofList (if negative then '-' :: s else s)
  match Value.ofBits x.toBits with
  | .nan => layout.nan
  | .infinite negative => signed negative layout.infinity.toList
  | .zero negative => signed negative ['0', '.', '0']
  | .finite negative m q lowest =>
    let d := shortest m q lowest
    let e : Int := d.exponent + (Digits.text 10 d.digits).length - 1
    signed negative (if layout.positional e then positionalText d else exponentText d)

end FloatingIp.Decimal
