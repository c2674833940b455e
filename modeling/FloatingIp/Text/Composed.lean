import FloatingIp.Text.Composition
import FloatingIp.Text.Images
import FloatingIp.Text.Mark

/-!
# Composing

A character with marks on it can be written in one piece or in several, and the marks in more than
one order.  `composed` brings a text to the form in which everything that can be in one piece is.
First all is taken apart, then the marks behind each character are sorted by their combining
classes, and then each is joined to the character that it belongs to, unless another mark of its
class or a higher one stands between them.

Characters that can be taken apart but not be put together again are left alone.
-/

namespace FloatingIp.Text

/-- What characters are composed of. -/
def components : Images :=
  Images.ofRuns compositions

/-! ## Hangul

The syllables are numbered by their first consonant, their vowel and their last consonant, if they
have one. -/

/-- The number of vowels. -/
def vowelCount : Nat := 21

/-- The number of last consonants, with the missing one. -/
def lastCount : Nat := 28

/-- The number of first consonants. -/
def firstCount : Nat := 19

/-- The letters of a syllable. -/
def letters? (c : Char) : Option (List Char) :=
  let n := c.toNat - 0xAC00
  if 0xAC00 ≤ c.toNat && n < firstCount * vowelCount * lastCount then
    let pair := [Char.ofNat (0x1100 + n / (vowelCount * lastCount)),
      Char.ofNat (0x1161 + n / lastCount % vowelCount)]
    some (if n % lastCount = 0 then pair else pair ++ [Char.ofNat (0x11A7 + n % lastCount)])
  else none

/-- The syllable of a first consonant with a vowel, or of a syllable with a last consonant. -/
def syllable? (a b : Char) : Option Char :=
  let first := a.toNat - 0x1100
  let vowel := b.toNat - 0x1161
  let last := b.toNat - 0x11A7
  let n := a.toNat - 0xAC00
  if 0x1100 ≤ a.toNat && first < firstCount && 0x1161 ≤ b.toNat && vowel < vowelCount then
    some (Char.ofNat (0xAC00 + (first * vowelCount + vowel) * lastCount))
  else if 0xAC00 ≤ a.toNat && n < firstCount * vowelCount * lastCount && n % lastCount = 0 &&
      0x11A7 < b.toNat && last < lastCount then
    some (Char.ofNat (a.toNat + last))
  else none

/-! ## Taking apart -/

/-- What a character is composed of. -/
def apart (c : Char) : List Char :=
  if c.toNat < 0x80 then [c] else (letters? c <|> components.find? c).getD [c]

/-- Inserts a mark of a class among others behind those that are not of a higher one. -/
def insertMark (c : Char) : List Char → List Char
  | [] => [c]
  | d :: rest =>
    if combiningClass c < combiningClass d then c :: d :: rest else d :: insertMark c rest

/-- Sorts the marks between characters of class zero; `marks` are those in front of the text. -/
def sortMarks (marks : List Char) : List Char → List Char
  | [] => marks
  | c :: rest =>
    if combiningClass c = 0 then marks ++ c :: sortMarks [] rest
    else sortMarks (insertMark c marks) rest

/-! ## Putting together -/

/-- The character that stands for two others. -/
def together? (a b : Char) : Option Char :=
  syllable? a b <|> components.origin? (apart a ++ [b])

/-- Puts a text together behind a character.  `between` are the marks that have not been joined to
it, and `top` is the class of the last one of them. -/
def joinTo (base : Char) (between : List Char) (top : Option Nat) : List Char → List Char
  | [] => base :: between
  | c :: rest =>
    let rank := combiningClass c
    let free := match top with
      | none => true
      | some t => t < rank
    match if free then together? base c else none with
    | some joined => joinTo joined between top rest
    | none =>
      if rank = 0 then base :: between ++ joinTo c [] none rest
      else joinTo base (between ++ [c]) (some rank) rest

/-- Puts a text together. -/
def putTogether : List Char → List Char
  | [] => []
  | c :: rest => if combiningClass c = 0 then joinTo c [] none rest else c :: putTogether rest

/-- The composed form of a text. -/
def composed (s : List Char) : List Char :=
  if s.all fun c => c.toNat < 0x80 then s else putTogether (sortMarks [] (s.flatMap apart))

end FloatingIp.Text
