import FloatingIp.Digits

/-!
# Base64

The standard alphabet with padding.  `decode` takes exactly the texts that `encode` writes: the
last group is padded, and the bits that its last symbol carries beyond the last byte are zero.
A text that is refused has one `Refusal`, the first that holds:

1. the text is one symbol too long and its last byte is neither a symbol nor padding;
2. a byte before the last group is no symbol;
3. the last group has padding before its third place, padding before a symbol, or a byte that is
   no symbol;
4. the last group has fewer than two symbols, is not padded to four, or carries stray bits.
-/

namespace FloatingIp.Base64

/-- Why a text is not Base64. -/
inductive Refusal where
  /-- A byte that has no place where it stands. -/
  | symbol (byte : UInt8) (offset : Nat)
  /-- A last symbol with bits beyond the last byte. -/
  | lastSymbol (byte : UInt8) (offset : Nat)
  /-- A lone symbol in the last group. -/
  | length (length : Nat)
  /-- A last group that is not padded to four. -/
  | padding
  deriving DecidableEq, Repr

/-- The wording of a refusal. -/
def Refusal.message : Refusal → String
  | symbol b n =>
    "Invalid symbol " ++ Digits.decimal b.toNat ++ ", offset " ++ Digits.decimal n ++ "."
  | lastSymbol b n =>
    "Invalid last symbol " ++ Digits.decimal b.toNat ++ ", offset " ++ Digits.decimal n ++ "."
  | length n => "Invalid input length: " ++ Digits.decimal n
  | padding => "Invalid padding"

/-- The padding byte. -/
def pad : UInt8 := 61

/-- The six bits of a symbol. -/
def value? (b : UInt8) : Option Nat :=
  let n := b.toNat
  if 65 ≤ n ∧ n ≤ 90 then some (n - 65)
  else if 97 ≤ n ∧ n ≤ 122 then some (n - 71)
  else if 48 ≤ n ∧ n ≤ 57 then some (n + 4)
  else if n = 43 then some 62
  else if n = 47 then some 63
  else none

/-- The symbol of six bits. -/
def symbol (v : Nat) : UInt8 :=
  UInt8.ofNat <|
    if v < 26 then v + 65
    else if v < 52 then v + 71
    else if v < 62 then v - 4
    else if v = 62 then 43
    else 47

/-! ## Encoding -/

/-- The padded Base64 text of a byte string. -/
def encode : List UInt8 → List UInt8
  | [] => []
  | [a] =>
    let n := a.toNat * 16
    [symbol (n / 64), symbol (n % 64), pad, pad]
  | [a, b] =>
    let n := (a.toNat * 256 + b.toNat) * 4
    [symbol (n / 4096), symbol (n / 64 % 64), symbol (n % 64), pad]
  | a :: b :: c :: rest =>
    let n := (a.toNat * 256 + b.toNat) * 256 + c.toNat
    symbol (n / 262144) :: symbol (n / 4096 % 64) :: symbol (n / 64 % 64) :: symbol (n % 64) ::
      encode rest

/-! ## Decoding -/

/-- The value of a byte that has to be a symbol. -/
def expect (offset : Nat) (b : UInt8) : Except Refusal Nat :=
  match value? b with
  | some v => .ok v
  | none => .error (.symbol b offset)

/-- The last group's symbols with their places, or the byte that has no place in it.  `padAt` is
the place of the first padding byte. -/
def lastSymbols (offset place : Nat) (padAt : Option Nat) :
    List UInt8 → Except Refusal (List (UInt8 × Nat))
  | [] => .ok []
  | b :: rest =>
    if b = pad then
      if place < 2 then .error (.symbol b (offset + place))
      else lastSymbols offset (place + 1) (padAt <|> some place) rest
    else match padAt with
      | some p => .error (.symbol pad (offset + p))
      | none => do
        let v ← expect (offset + place) b
        let vs ← lastSymbols offset (place + 1) none rest
        .ok ((b, v) :: vs)

/-- Decodes the last group, of at most four bytes, which stands at `offset`. -/
def decodeLast (offset : Nat) (group : List UInt8) : Except Refusal (List UInt8) :=
  if group.isEmpty then .ok []
  else do
    match ← lastSymbols offset 0 none group with
    | [(_, v), (b, w)] =>
      if group.length ≠ 4 then .error .padding
      else if w % 16 ≠ 0 then .error (.lastSymbol b (offset + 1))
      else .ok [UInt8.ofNat (v * 4 + w / 16)]
    | [(_, v), (_, w), (b, x)] =>
      if group.length ≠ 4 then .error .padding
      else if x % 4 ≠ 0 then .error (.lastSymbol b (offset + 2))
      else .ok [UInt8.ofNat (v * 4 + w / 16), UInt8.ofNat (w % 16 * 16 + x / 4)]
    | [(_, v), (_, w), (_, x), (_, y)] =>
      .ok [UInt8.ofNat (v * 4 + w / 16), UInt8.ofNat (w % 16 * 16 + x / 4),
        UInt8.ofNat (x % 4 * 64 + y)]
    | symbols => .error (.length (offset + symbols.length))

/-- Decodes the bytes at `offset`: groups of four, of which the last one may be padded. -/
def decodeFrom (offset : Nat) : List UInt8 → Except Refusal (List UInt8)
  | a :: b :: c :: d :: e :: rest => do
    let v ← expect offset a
    let w ← expect (offset + 1) b
    let x ← expect (offset + 2) c
    let y ← expect (offset + 3) d
    let bytes ← decodeFrom (offset + 4) (e :: rest)
    .ok (UInt8.ofNat (v * 4 + w / 16) :: UInt8.ofNat (w % 16 * 16 + x / 4) ::
      UInt8.ofNat (x % 4 * 64 + y) :: bytes)
  | group => decodeLast offset group

/-- The stray byte at the end of a text that is one symbol too long. -/
def strayEnd? (text : List UInt8) : Option Refusal :=
  match text.getLast? with
  | some b =>
    if text.length % 4 = 1 && b != pad && (value? b).isNone then
      some (.symbol b (text.length - 1))
    else none
  | none => none

/-- The bytes of a Base64 text. -/
def decode (text : List UInt8) : Except Refusal (List UInt8) :=
  match strayEnd? text with
  | some refusal => .error refusal
  | none => decodeFrom 0 text

end FloatingIp.Base64
