/-!
# Similar texts

How similar two texts are, as a number from 0 to 1.  Two characters match if they are equal and
not too far apart, and each is matched at most once.  Counted are the share of matched characters
in either text, and the share of matches that are in the same order in both.
-/

namespace FloatingIp.Text

/-- How far apart two matching characters may be. -/
def matchReach (a b : List Char) : Nat :=
  max a.length b.length / 2 - 1

/-- Matches a character of position `i` with the first unmatched equal one within reach, whose
position `j` counts on from that of the head; the marks afterwards, if there is one. -/
def markMatch? (c : Char) (i reach : Nat) :
    (j : Nat) → List (Char × Bool) → Option (List (Char × Bool))
  | _, [] => none
  | j, (d, marked) :: rest =>
    if i + reach < j then none
    else if i ≤ j + reach ∧ c = d ∧ !marked then some ((d, true) :: rest)
    else (markMatch? c i reach (j + 1) rest).map ((d, marked) :: ·)

/-- The characters of the first text that have a match, in order, and the marks of the second. -/
def matchAll (reach : Nat) : (i : Nat) → List Char → List (Char × Bool) →
    List Char × List (Char × Bool)
  | _, [], marks => ([], marks)
  | i, c :: rest, marks =>
    match markMatch? c i reach 0 marks with
    | none => matchAll reach (i + 1) rest marks
    | some marks =>
      let (matched, marks) := matchAll reach (i + 1) rest marks
      (c :: matched, marks)

/-- The similarity of two texts. -/
def similarity (a b : List Char) : Float :=
  if a.isEmpty && b.isEmpty then 1.0
  else
    let (matched, marks) := matchAll (matchReach a b) 0 a (b.map fun c => (c, false))
    let others := (marks.filter (·.2)).map (·.1)
    let n := matched.length
    let displaced := ((matched.zip others).filter fun (c, d) => c ≠ d).length / 2
    if n = 0 then 0.0
    else
      (n.toFloat / a.length.toFloat + n.toFloat / b.length.toFloat +
        (n - displaced).toFloat / n.toFloat) / 3.0

/-- The most similar of some texts, the last one of equally similar ones, if its similarity is
above `least`. -/
def mostSimilar? (least : Float) (text : String) (candidates : List String) : Option String :=
  (candidates.foldl (fun (best : Option (String × Float)) c =>
    let x := similarity text.toList c.toList
    if least < x && best.all (·.2 ≤ x) then some (c, x) else best) none).map (·.1)

end FloatingIp.Text
