import FloatingIp.Digits

/-!
# Images of characters

A table of what characters stand for is written in runs: the first code point of a run, and the
images of that code point and those behind it, in hexadecimal.  A blank divides images, and a plus
the characters of one image.
-/

namespace FloatingIp.Text

/-- Runs of images. -/
abbrev Images := List (Nat × List (List Char))

namespace Images

/-- The parts of a text between marks. -/
def parts (mark : Char) : List Char → List (List Char)
  | [] => [[]]
  | c :: rest =>
    if c = mark then [] :: parts mark rest
    else match parts mark rest with
      | [] => [[c]]
      | p :: ps => (c :: p) :: ps

/-- The image that a text spells. -/
def image (s : List Char) : List Char :=
  (parts '+' s).map fun digits => Char.ofNat (Digits.value 16 digits)

/-- The runs that are written so. -/
def ofRuns (runs : List (Nat × String)) : Images :=
  runs.map fun (first, s) => (first, (parts ' ' s.toList).map image)

/-- The image of a character, if it has one. -/
def find? (images : Images) (c : Char) : Option (List Char) :=
  images.findSome? fun (first, run) => if first ≤ c.toNat then run[c.toNat - first]? else none

/-- The first character with an image, if there is one. -/
def origin? (images : Images) (image : List Char) : Option Char :=
  images.findSome? fun (first, run) => (run.idxOf? image).map fun i => Char.ofNat (first + i)

end Images
end FloatingIp.Text
