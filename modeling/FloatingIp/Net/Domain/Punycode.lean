/-!
# Labels in ASCII digits

A label beyond ASCII is written as its ASCII characters, a hyphen if there are any, and digits that
say which other characters are inserted where.  Insertions are in the order of code points and, for
equal ones, of places; each is told as the number of chances to insert something that are passed
by since the last one.  A chance is a place together with a code point, and there is one place more
than characters are there by then.

Digits are letters and then decimal digits.  Of a number the least digit comes first, and a digit
below a threshold is the last one.  Thresholds depend on a bias that follows the numbers.
-/

namespace FloatingIp.Net.Domain.Punycode

/-- The number of digits. -/
def base : Nat := 36

/-- The first code point beyond ASCII. -/
def firstCode : Nat := 0x80

/-- The bias at the beginning. -/
def firstBias : Nat := 72

/-- A digit. -/
def digit (d : Nat) : Char :=
  if d < 26 then Char.ofNat (97 + d) else Char.ofNat (22 + d)

/-- The value of a digit. -/
def value? (c : Char) : Option Nat :=
  if c.isLower then some (c.toNat - 97) else if c.isDigit then some (c.toNat - 22) else none

/-- The threshold for a digit; `place` counts in steps of the base from the least one. -/
def threshold (bias place : Nat) : Nat :=
  min 26 (max 1 (place - bias))

/-- No number is without a digit. -/
theorem one_le_threshold (bias place : Nat) : 1 ≤ threshold bias place := by
  unfold threshold
  omega

/-- Divides a number as long as it is too large for the bias; the bias is counted up. -/
def settle (n bias : Nat) : Nat :=
  if 455 < n then settle (n / 35) (bias + base) else bias + base * n / (n + 38)
termination_by n
decreasing_by exact Nat.div_lt_self (by omega) (by omega)

/-- The bias after a number; `count` is the number of characters by then. -/
def adapt (n count : Nat) (isFirst : Bool) : Nat :=
  let n := if isFirst then n / 700 else n / 2
  settle (n + n / count) 0

/-! ## Writing -/

/-- The digits of a number. -/
def digits (bias place n : Nat) : List Char :=
  let t := threshold bias place
  if n < t then [digit n]
  else digit (t + (n - t) % (base - t)) :: digits bias (place + base) ((n - t) / (base - t))
termination_by n
decreasing_by
  have := one_le_threshold bias place
  exact Nat.lt_of_le_of_lt (Nat.div_le_self ..) (by omega)

/-- What has been written. -/
structure Written where
  /-- The digits. -/
  text : List Char
  /-- The chances that have been passed by since the last insertion. -/
  passed : Nat
  bias : Nat
  /-- The number of characters by now. -/
  count : Nat
  deriving DecidableEq

/-- Passes one character on the way to those of a code point. -/
def pass (ascii code : Nat) (w : Written) (c : Char) : Written :=
  if c.toNat < code then { w with passed := w.passed + 1 }
  else if c.toNat = code then
    ⟨w.text ++ digits w.bias base w.passed, 0, adapt w.passed (w.count + 1) (w.count = ascii),
      w.count + 1⟩
  else w

/-- Inserts the characters of some code points, listed in order, where `next` is the first one
that has not been passed. -/
def insertAll (label : List Char) (ascii : Nat) :
    (codes : List Nat) → (next : Nat) → Written → Written
  | [], _, w => w
  | code :: codes, next, w =>
    let w := { w with passed := w.passed + (code - next) * (w.count + 1) }
    let w := label.foldl (pass ascii code) w
    insertAll label ascii codes (code + 1) { w with passed := w.passed + 1 }

/-- Inserts a number into a list in order, unless it is there. -/
def insertCode (n : Nat) : List Nat → List Nat
  | [] => [n]
  | m :: rest =>
    if n < m then n :: m :: rest else if n = m then m :: rest else m :: insertCode n rest

/-- A label in digits. -/
def encode (label : List Char) : List Char :=
  let (ascii, others) := label.partition fun c => c.toNat < firstCode
  let codes := others.foldr (fun c => insertCode c.toNat) []
  let start : Written := ⟨[], 0, firstBias, ascii.length⟩
  ascii ++ (if ascii.isEmpty then [] else ['-']) ++
    (insertAll label ascii.length codes firstCode start).text

/-! ## Reading -/

/-- Reads a number in front of other digits.  `weight` is what the next digit is worth, and `n`
the value of those before it. -/
def number? (bias : Nat) : (place weight n : Nat) → List Char → Option (Nat × List Char)
  | _, _, _, [] => none
  | place, weight, n, c :: rest => do
    let d ← value? c
    let t := threshold bias place
    if d < t then some (n + d * weight, rest)
    else number? bias (place + base) (weight * (base - t)) (n + d * weight) rest

/-- A number has a digit at least. -/
theorem length_of_number? {bias place weight n m : Nat} {s rest : List Char}
    (h : number? bias place weight n s = some (m, rest)) : rest.length < s.length := by
  induction s generalizing place weight n with
  | nil => simp [number?] at h
  | cons c s ih =>
    rw [number?] at h
    cases hd : value? c with
    | none => simp [hd] at h
    | some d =>
      simp only [hd, Option.bind_eq_bind, Option.bind_some] at h
      split at h
      · simp_all
      · exact Nat.lt_succ_of_lt (ih h)

/-- The character at a code point. -/
def charAt? (code : Nat) : Option Char :=
  if code.isValidChar then some (Char.ofNat code) else none

/-- Inserts what digits tell into a text; `code` and `place` are the next chance. -/
def insert? (bias code place : Nat) (text s : List Char) : Option (List Char) :=
  if s.isEmpty then some text
  else match _h : number? bias base 1 0 s with
    | none => none
    | some (n, rest) =>
      let count := text.length + 1
      let code' := code + (place + n) / count
      let place' := (place + n) % count
      match charAt? code' with
      | none => none
      | some c =>
        insert? (adapt n count (code = firstCode && place = 0)) code' (place' + 1)
          (text.insertIdx place' c) rest
termination_by s.length
decreasing_by exact length_of_number? _h

/-- What stands before and behind the last hyphen; all stands behind if there is none. -/
def splitLast (s : List Char) : List Char × List Char :=
  match s.reverse.dropWhile (· ≠ '-') with
  | _ :: before => (before.reverse, (s.reverse.takeWhile (· ≠ '-')).reverse)
  | [] => ([], s)

/-- The label that digits spell. -/
def decode? (s : List Char) : Option (List Char) :=
  let (ascii, digits) := splitLast s
  insert? firstBias firstCode 0 ascii digits

end FloatingIp.Net.Domain.Punycode
