/-!
# Numbers as digits

The digits of a natural number in a base from 2 to 16, most significant first and without
leading zeros, and the value of a list of digits.  Addresses, durations, URLs and lengths all
write their numbers through `text`.
-/

namespace FloatingIp.Digits

/-- The digit for a value below 16; letters are lower case. -/
def digit (d : Nat) : Char :=
  if d < 10 then Char.ofNat (48 + d) else Char.ofNat (87 + d)

/-- The value of a digit in `base`; letters count in either case. -/
def value? (base : Nat) (c : Char) : Option Nat :=
  let n := c.toNat
  let v :=
    if 48 ≤ n ∧ n ≤ 57 then n - 48
    else if 97 ≤ n ∧ n ≤ 122 then n - 87
    else if 65 ≤ n ∧ n ≤ 90 then n - 55
    else base
  if v < base then some v else none

/-- Whether `c` is a digit in `base`. -/
def isDigit (base : Nat) (c : Char) : Bool :=
  (value? base c).isSome

/-- The digits of `n` in `base`, without leading zeros; zero is one digit. -/
def text (base n : Nat) : List Char :=
  if base < 2 ∨ n < base then [digit n]
  else text base (n / base) ++ [digit (n % base)]
termination_by n
decreasing_by exact Nat.div_lt_self (by omega) (by omega)

/-- The decimal digits of `n`. -/
def decimal (n : Nat) : String :=
  String.ofList (text 10 n)

/-- The value of a list of digits; a character that is no digit counts as zero. -/
def value (base : Nat) (digits : List Char) : Nat :=
  digits.foldl (fun acc c => acc * base + (value? base c).getD 0) 0

/-- The value of a text that consists of digits only, and of at least one. -/
def read? (base : Nat) (s : List Char) : Option Nat :=
  if s.isEmpty || !s.all (isDigit base) then none else some (value base s)

/-! ## Powers

The powers that numbers are measured by: how many numbers a word of so many bits can hold, and what
a decimal digit so many places before the point is worth. -/

/-- Two to the power `n`. -/
def twoTo (n : Nat) : Nat :=
  Nat.pow 2 n

/-- Ten to the power `n`. -/
def tenTo (n : Nat) : Nat :=
  Nat.pow 10 n

end FloatingIp.Digits
