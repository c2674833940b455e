import FloatingIp.Text.Blank
import Mathlib.Data.List.Basic
import Mathlib.Tactic.Lemma

/-!
# Fields and lines of a text that is put together

What has a property is taken off the front of a text up to the first character without it.  A text
that is made of blanks and words has the words for its fields, and a text that is made of lines with
a line feed after each has the lines for its lines, but for a carriage return at their ends.
-/

namespace FloatingIp.Text

/-! ### The front -/

/-- A front of characters with a property is taken off what goes on without it. -/
lemma span_append {p : Char → Bool} {front rest : List Char} (all : ∀ c ∈ front, p c = true)
    (stops : ∀ c, rest.head? = some c → p c = false) :
    (front ++ rest).takeWhile p = front ∧ (front ++ rest).dropWhile p = rest := by
  rw [List.takeWhile_append_of_pos all, List.dropWhile_append_of_pos all]
  cases rest with
  | nil => exact ⟨List.append_nil front, rfl⟩
  | cons c rest => simp [stops c rfl]

/-- Texts of such fronts are equal only if the fronts are, and what follows them. -/
lemma append_inj_of_span {p : Char → Bool} {front rest front' rest' : List Char}
    (all : ∀ c ∈ front, p c = true) (stops : ∀ c, rest.head? = some c → p c = false)
    (all' : ∀ c ∈ front', p c = true) (stops' : ∀ c, rest'.head? = some c → p c = false)
    (same : front ++ rest = front' ++ rest') : front = front' ∧ rest = rest' := by
  have taken := span_append all stops
  have taken' := span_append all' stops'
  rw [same] at taken
  exact ⟨taken.1.symm.trans taken'.1, taken.2.symm.trans taken'.2⟩

/-! ### Fields -/

/-- Blanks in front belong to no field. -/
lemma fields_blanks {blanks : List Char} (blank : ∀ c ∈ blanks, isBlank c = true) (s : List Char) :
    fields (blanks ++ s) = fields s := by
  induction blanks with
  | nil => rfl
  | cons c blanks ih =>
      have here : isBlank c = true := blank c (.head blanks)
      rw [← ih fun d mem => blank d (.tail c mem)]
      simp [fields, fieldsFrom, here]

/-- What is no blank is held back. -/
lemma fieldsFrom_word {word : List Char} (dense : ∀ c ∈ word, isBlank c = false)
    (held s : List Char) : fieldsFrom held (word ++ s) = fieldsFrom (word.reverse ++ held) s := by
  induction word generalizing held with
  | nil => rfl
  | cons c word ih =>
      have here : isBlank c = false := dense c (.head word)
      simp [fieldsFrom, here, ih fun d mem => dense d (.tail c mem)]

/-- A text that goes on with a blank, or not at all. -/
def Parts (s : List Char) : Prop :=
  ∀ c, s.head? = some c → isBlank c = true

/-- A word with a blank or the end after it is a field. -/
lemma fields_word {word : List Char} (nonempty : word ≠ []) (dense : ∀ c ∈ word, isBlank c = false)
    {s : List Char} (parts : Parts s) : fields (word ++ s) = word :: fields s := by
  rw [fields, fieldsFrom_word dense]
  cases s with
  | nil => simp [fieldsFrom, fields, nonempty]
  | cons c s =>
      have here : isBlank c = true := parts c rfl
      simp [fieldsFrom, fields, here, nonempty]

/-- A blank at the end belongs to no field. -/
lemma fieldsFrom_concat {c : Char} (blank : isBlank c = true) (held s : List Char) :
    fieldsFrom held (s ++ [c]) = fieldsFrom held s := by
  induction s generalizing held with
  | nil => simp [fieldsFrom, blank]
  | cons d s ih =>
      rw [List.cons_append, fieldsFrom, fieldsFrom, ih, ih]

/-! ### Lines -/

/-- A line as it is cut off at its line feed. -/
def cut (line : List Char) : List Char :=
  (dropReturn line.reverse).reverse

/-- A carriage return that is cut off belongs to no field. -/
lemma fields_cut (line : List Char) : fields (cut line) = fields line := by
  obtain ⟨held, rfl⟩ : ∃ held : List Char, line = held.reverse :=
    ⟨line.reverse, line.reverse_reverse.symm⟩
  rw [cut, List.reverse_reverse]
  unfold dropReturn
  split
  · rw [List.reverse_cons, fields, fields, fieldsFrom_concat (by decide)]
  · rfl

/-- What is no line feed is held back. -/
lemma linesFrom_append {line : List Char} (none : '\n' ∉ line) (held s : List Char) :
    linesFrom held (line ++ s) = linesFrom (line.reverse ++ held) s := by
  induction line generalizing held with
  | nil => rfl
  | cons c line ih =>
      have other : c ≠ '\n' := fun same => none (same ▸ .head line)
      simp [linesFrom, other, ih fun mem => none (.tail c mem)]

/-- A line feed ends the line before it. -/
lemma lines_append_feed {line : List Char} (none : '\n' ∉ line) (s : List Char) :
    lines (line ++ '\n' :: s) = cut line :: lines s := by
  rw [lines, linesFrom_append none, List.append_nil, linesFrom, if_pos rfl]
  rfl

/-- A carriage return before a line feed belongs to the ending. -/
lemma lines_append_returnFeed {line : List Char} (none : '\n' ∉ line) (s : List Char) :
    lines (line ++ '\r' :: '\n' :: s) = line :: lines s := by
  have still : '\n' ∉ line ++ ['\r'] := by simpa using none
  have ended := lines_append_feed still s
  rw [List.append_assoc] at ended
  simpa [cut, dropReturn] using ended

/-- What has no line feed is one line, if it is anything. -/
lemma lines_of_no_feed {line : List Char} (none : '\n' ∉ line) :
    lines line = if line.isEmpty then [] else [line] := by
  have held := linesFrom_append none [] []
  rw [List.append_nil, List.append_nil] at held
  simp [lines, held, linesFrom]

/-- Lines that are each ended by a line feed are the lines. -/
theorem lines_flatMap_feed {ls : List (List Char)} (none : ∀ line ∈ ls, '\n' ∉ line) :
    lines (ls.flatMap (· ++ ['\n'])) = ls.map cut := by
  induction ls with
  | nil => rfl
  | cons line ls ih =>
      have rest := ih fun other mem => none other (.tail line mem)
      rw [List.flatMap_cons, List.append_assoc, List.singleton_append,
        lines_append_feed (none line (.head ls)), rest, List.map_cons]

end FloatingIp.Text
