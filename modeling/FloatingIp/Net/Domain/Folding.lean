import FloatingIp.Net.Domain.Folding.Table
import FloatingIp.Text.Composed

/-!
# Folding names

Names that differ in case, in width or in similar ways are one name: a name is folded before
anything else is done with it.  Each character becomes those that it stands for, or vanishes, and
the whole is composed.  Characters that no name can hold have no folded form.  A name that is its
own folded form is stable.
-/

namespace FloatingIp.Net.Domain

namespace Folding

/-- What characters stand for, but for those of `shifts`. -/
def images : Text.Images :=
  Text.Images.ofRuns runs

/-- What a character of `shifts` stands for. -/
def shifted? (c : Char) : Option Char :=
  (shifts.find? fun (first, last, step, _) =>
    first ≤ c.toNat && c.toNat ≤ last && (c.toNat - first) % step = 0).map
      fun (_, _, _, distance) => Char.ofNat (c.toNat + distance).toNat

/-- Whether a character joins or divides the letters beside it, and does not show itself. -/
def isJoiner (c : Char) : Bool :=
  c.toNat = 0x200C || c.toNat = 0x200D

/-- Whether a character that stands for itself can be in a name. -/
def isHeld (c : Char) : Bool :=
  isJoiner c || (Text.shows c && !Text.inRanges refused c.toNat)

/-- What a character stands for. -/
def ofChar? (c : Char) : Option (List Char) :=
  if c.toNat < 0x80 then some [c.toLower]
  else match (shifted? c).map ([·]) <|> images.find? c with
    | some image => some image
    | none =>
      if Text.inRanges dropped c.toNat then some [] else if isHeld c then some [c] else none

end Folding

/-- The folded form of a name, if it has one. -/
def folded? (name : List Char) : Option (List Char) :=
  (name.mapM Folding.ofChar?).map fun images => Text.composed images.flatten

end FloatingIp.Net.Domain
