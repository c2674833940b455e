/-!
# Blanks, fields and lines

Command output and configuration text are cut at *blanks*: the 25 characters of the Unicode
property White_Space.  A field is a longest run without a blank, so fields are never empty; a
line ends at a line feed, and a carriage return right before that feed belongs to the ending.

All functions are on lists of characters, by recursion on the list.
-/

namespace FloatingIp.Text

/-- The characters of the property White_Space. -/
def isBlank (c : Char) : Bool :=
  let n := c.toNat
  (9 ≤ n && n ≤ 13) || n == 0x20 || n == 0x85 || n == 0xA0 || n == 0x1680 ||
    (0x2000 ≤ n && n ≤ 0x200A) || n == 0x2028 || n == 0x2029 || n == 0x202F || n == 0x205F ||
    n == 0x3000

/-! ## Fields -/

/-- Fields of a text, the characters of the current one held back in reverse. -/
def fieldsFrom (held : List Char) : List Char → List (List Char)
  | [] => if held.isEmpty then [] else [held.reverse]
  | c :: rest =>
    if isBlank c then
      if held.isEmpty then fieldsFrom [] rest else held.reverse :: fieldsFrom [] rest
    else fieldsFrom (c :: held) rest

/-- The longest runs without a blank, in order. -/
def fields (s : List Char) : List (List Char) :=
  fieldsFrom [] s

/-- A text without the blanks at its two ends. -/
def trim (s : List Char) : List Char :=
  ((s.dropWhile isBlank).reverse.dropWhile isBlank).reverse

/-! ## Lines -/

/-- Takes one carriage return off the reversed line that a line feed has just ended. -/
def dropReturn : List Char → List Char
  | '\r' :: held => held
  | held => held

/-- Lines of a text, the characters of the current one held back in reverse. -/
def linesFrom (held : List Char) : List Char → List (List Char)
  | [] => if held.isEmpty then [] else [held.reverse]
  | c :: rest =>
    if c = '\n' then (dropReturn held).reverse :: linesFrom [] rest
    else linesFrom (c :: held) rest

/-- The lines of a text without their endings.  What follows the last line feed is a line of its
own unless it is empty. -/
def lines (s : List Char) : List (List Char) :=
  linesFrom [] s

/-! ## Joining -/

/-- The pieces one after another, with `sep` between neighbours. -/
def join (sep : List Char) : List (List Char) → List Char
  | [] => []
  | [piece] => piece
  | piece :: rest => piece ++ sep ++ join sep rest

end FloatingIp.Text
