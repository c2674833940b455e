import FloatingIp.Url
import Mathlib.Data.List.Basic
import Mathlib.Data.List.Induction
import Mathlib.Tactic.Lemma

/-!
# Walks below a directory

A path is walked part by part from a directory, and `..` may lead out of it again.  A walk that never
climbs above its start leads to the same segments wherever it starts (`foldl_enter_append`).  Where a
walk ends below its directory, it has come back to it at some point and has not climbed above it since
(`below_walk_iff`); a walk that never climbs is the simplest case of that.
-/

namespace FloatingIp.Url

/-! ### Parts -/

/-- A text has at least one part. -/
@[simp] lemma splitPath_ne_nil (s : List Char) : splitPath s ≠ [] := by
  cases s with
  | nil => simp [splitPath]
  | cons c s =>
      unfold splitPath
      split
      · simp
      · split <;> simp

/-- A slash begins a new part. -/
lemma splitPath_slash {c : Char} (slash : isSlash c = true) (s : List Char) :
    splitPath (c :: s) = [] :: splitPath s := by
  have either : c = '/' ∨ c = '\\' := by simpa [isSlash] using slash
  rw [splitPath, if_pos either]

/-- Any other character belongs to the first part. -/
lemma splitPath_cons {c : Char} (noSlash : isSlash c = false) (s : List Char) :
    splitPath (c :: s) = (splitPath s).modifyHead (c :: ·) := by
  have neither : ¬(c = '/' ∨ c = '\\') := by simpa [isSlash] using noSlash
  rw [splitPath, if_neg neither]
  split <;> simp_all

/-- The parts of a text are those between its slashes. -/
lemma splitPath_eq_splitOnP (s : List Char) : splitPath s = s.splitOnP isSlash := by
  induction s with
  | nil => rfl
  | cons c s ih =>
      rw [List.splitOnP_cons_eq_if_modifyHead]
      by_cases slash : isSlash c = true
      · rw [if_pos slash, splitPath_slash slash, ih]
      · rw [if_neg slash, splitPath_cons (by simpa using slash), ih]

/-- What stands in a part stands in the text, and is no slash. -/
lemma of_mem_splitPath {s part : List Char} (mem : part ∈ splitPath s) {c : Char}
    (inPart : c ∈ part) : c ∈ s ∧ isSlash c = false := by
  induction s generalizing part with
  | nil =>
      obtain rfl : part = [] := by simpa [splitPath] using mem
      simp at inPart
  | cons d s ih =>
      by_cases slash : isSlash d = true
      · rw [splitPath_slash slash, List.mem_cons] at mem
        rcases mem with rfl | mem
        · simp at inPart
        · exact ⟨List.mem_cons_of_mem d (ih mem inPart).1, (ih mem inPart).2⟩
      · rw [Bool.not_eq_true] at slash
        rw [splitPath_cons slash] at mem
        obtain ⟨first, others, parts⟩ := List.exists_cons_of_ne_nil (splitPath_ne_nil s)
        simp only [parts, List.modifyHead_cons, List.mem_cons] at ih mem
        rcases mem with rfl | mem
        · rcases List.mem_cons.1 inPart with rfl | inFirst
          · exact ⟨List.mem_cons_self, slash⟩
          · exact ⟨List.mem_cons_of_mem d (ih (.inl rfl) inFirst).1, (ih (.inl rfl) inFirst).2⟩
        · exact ⟨List.mem_cons_of_mem d (ih (.inr mem) inPart).1, (ih (.inr mem) inPart).2⟩

/-! ### Walking -/

/-- The last part of a walk is entered from where the others have led to. -/
@[simp] lemma walk_concat (above : List String) (front : List (List Char)) (last : List Char) :
    walk above (front ++ [last]) = (enterLast (front.foldl enter above) last).reverse := by
  simp [walk]

/-- A walk whose first part is not its last one enters that first. -/
lemma walk_cons (above : List String) (part : List Char) {parts : List (List Char)}
    (some : parts ≠ []) : walk above (part :: parts) = walk (enter above part) parts := by
  obtain ⟨front, last, rfl⟩ := (List.eq_nil_or_concat' parts).resolve_left some
  rw [← List.cons_append, walk_concat, walk_concat, List.foldl_cons]

/-- Parts that are no dot segments are all entered. -/
lemma walk_of_no_dots {parts : List (List Char)} (some : parts ≠ [])
    (plain : ∀ part ∈ parts, isDoubleDot part = false ∧ isSingleDot part = false)
    (above : List String) : walk above parts = above.reverse ++ parts.map segmentText := by
  obtain ⟨front, last, rfl⟩ := (List.eq_nil_or_concat' parts).resolve_left some
  have entered : ∀ front : List (List Char), (∀ part ∈ front, isDoubleDot part = false ∧
      isSingleDot part = false) → ∀ above, front.foldl enter above =
        (front.map segmentText).reverse ++ above := by
    intro front plain
    induction front with
    | nil => simp
    | cons part front ih =>
        intro above
        rw [List.forall_mem_cons] at plain
        simp [enter, plain.1, ih plain.2]
  have ends := plain last (by simp)
  rw [walk_concat, entered front fun part mem => plain part (List.mem_append_left _ mem)]
  simp [enterLast, ends]

/-- Whether a walk never climbs above where it starts, if `inner` are the segments that it is below
there already, innermost first. -/
def staysBelow (inner : List String) : List (List Char) → Bool
  | [] => true
  | part :: parts => !(isDoubleDot part && inner.isEmpty) && staysBelow (enter inner part) parts

/-- A walk stays below if it does so up to a point and from there on. -/
lemma staysBelow_append (inner : List String) (front back : List (List Char)) :
    staysBelow inner (front ++ back) =
      (staysBelow inner front && staysBelow (front.foldl enter inner) back) := by
  induction front generalizing inner with
  | nil => simp [staysBelow]
  | cons part front ih => simp [staysBelow, ih, Bool.and_assoc]

section Directory

variable {top : String} {above : List String}

/-- Leaving a segment of a walk leaves alone what the walk started from. -/
lemma leave_append {inner : List String} (some : inner ≠ []) (dir : List String) :
    leave (inner ++ dir) = leave inner ++ dir := by
  cases inner with
  | nil => exact absurd rfl some
  | cons s inner =>
      simp only [leave, List.cons_append]
      split <;> rfl

/-- A part that does not climb above the start of the walk is entered the same way wherever the
walk started. -/
lemma enter_append {inner : List String} {part : List Char}
    (stays : (!(isDoubleDot part && inner.isEmpty)) = true) (dir : List String) :
    enter (inner ++ dir) part = enter inner part ++ dir := by
  unfold enter
  split_ifs with double single
  · apply leave_append
    rintro rfl
    simp [double] at stays
  · rfl
  · rfl

/-- A walk that stays below leads to the same segments wherever it starts. -/
lemma foldl_enter_append {inner : List String} {parts : List (List Char)}
    (stays : staysBelow inner parts = true) (dir : List String) :
    parts.foldl enter (inner ++ dir) = parts.foldl enter inner ++ dir := by
  induction parts generalizing inner with
  | nil => rfl
  | cons part parts ih =>
      simp only [staysBelow, Bool.and_eq_true] at stays
      rw [List.foldl_cons, List.foldl_cons, enter_append stays.1, ih stays.2]

/-- The directory in which a part is entered: `..` is entered in the one above. -/
def place (stack : List String) (part : List Char) : List String :=
  if isDoubleDot part then leave stack else stack

/-- A part is entered somewhere on the way to where it stands. -/
lemma place_suffix (stack : List String) (part : List Char) : place stack part <:+ stack := by
  unfold place leave
  split
  · cases stack with
    | nil => exact List.suffix_rfl
    | cons s stack =>
        dsimp only
        split
        · exact List.suffix_rfl
        · exact List.suffix_cons s stack
  · exact List.suffix_rfl

/-- A part that is entered below a directory leaves the directory only if it climbs above the start
of a walk from there. -/
lemma suffix_place_iff (letter : isDriveLetter top = false) (inner : List String)
    (part : List Char) :
    top :: above <:+ place (inner ++ top :: above) part ↔
      (!(isDoubleDot part && inner.isEmpty)) = true := by
  unfold place
  by_cases double : isDoubleDot part = true
  · rw [if_pos double]
    cases inner with
    | nil =>
        have out : ¬top :: above <:+ leave (top :: above) := by
          intro suffix
          have length := suffix.length_le
          simp only [leave, letter, Bool.false_eq_true, if_false, List.length_cons] at length
          omega
        simp [out, double]
    | cons s inner =>
        have stays : top :: above <:+ leave (s :: inner ++ top :: above) := by
          rw [leave_append (List.cons_ne_nil s inner)]
          exact List.suffix_append _ _
        exact iff_of_true stays (by simp)
  · rw [if_neg double]
    have stays : top :: above <:+ inner ++ top :: above := List.suffix_append _ _
    simp [stays, double]

/-- Whoever is below a directory after one more part was so before it was entered, or has just come
back. -/
lemma suffix_of_enter {dir stack : List String} {part : List Char}
    (below : dir <:+ enter stack part) : dir <:+ place stack part ∨ enter stack part = dir := by
  unfold enter at below ⊢
  unfold place
  split_ifs at below ⊢ with double single
  · exact .inl below
  · exact .inl below
  · rcases List.suffix_cons_iff.1 below with same | below
    · exact .inr same.symm
    · exact .inl below

/-- Whether a walk has come back to its directory with the parts in `front`, and has not climbed above
it with those in `back`. -/
def ComesBack (dir : List String) (front back : List (List Char)) : Prop :=
  front.foldl enter dir = dir ∧ staysBelow [] back = true

/-- A walk that has come back has its directory's segments below those of the rest. -/
lemma ComesBack.foldl_enter {dir : List String} {front back : List (List Char)}
    (comesBack : ComesBack dir front back) :
    (front ++ back).foldl enter dir = back.foldl enter [] ++ dir := by
  rw [List.foldl_append, comesBack.1]
  exact foldl_enter_append comesBack.2 dir

/-- A walk that has come back goes on so with one more part if that is entered below its directory. -/
lemma comesBack_concat_iff (letter : isDriveLetter top = false) {front back : List (List Char)}
    (comesBack : ComesBack (top :: above) front back) (part : List Char) :
    ComesBack (top :: above) front (back ++ [part]) ↔
      top :: above <:+ place ((front ++ back).foldl enter (top :: above)) part := by
  rw [comesBack.foldl_enter, suffix_place_iff letter, ComesBack, staysBelow_append]
  simp [staysBelow, comesBack.1, comesBack.2]

/-- A walk is below its directory exactly if it has come back there at some point and has not
climbed above it since.  (A drive letter is never left, so it could not be climbed above.) -/
lemma suffix_foldl_enter_iff (letter : isDriveLetter top = false) (parts : List (List Char)) :
    top :: above <:+ parts.foldl enter (top :: above) ↔
      ∃ front back, parts = front ++ back ∧ ComesBack (top :: above) front back := by
  constructor
  · induction parts using List.reverseRecOn with
    | nil => exact fun _ => ⟨[], [], rfl, rfl, rfl⟩
    | append_singleton parts part ih =>
        intro below
        rw [List.foldl_concat] at below
        -- Either the walk was below the directory already, or the part has led it back there.
        rcases suffix_of_enter below with level | back
        · obtain ⟨front, back, rfl, comesBack⟩ := ih (level.trans (place_suffix _ part))
          exact ⟨front, back ++ [part], by simp, (comesBack_concat_iff letter comesBack part).2 level⟩
        · exact ⟨parts ++ [part], [], by simp, by rw [List.foldl_concat, back], rfl⟩
  · rintro ⟨front, back, rfl, comesBack⟩
    rw [comesBack.foldl_enter]
    exact List.suffix_append _ _

/-- The last part of a walk leaves a segment of its own behind. -/
lemma exists_enterLast (stack : List String) (part : List Char) :
    ∃ s, enterLast stack part = s :: place stack part := by
  unfold enterLast place
  split_ifs
  · exact ⟨_, rfl⟩
  · exact ⟨_, rfl⟩
  · exact ⟨_, rfl⟩

/-- **A walk ends below its directory exactly if it has come back there and has not climbed above it
since**, with its last part at least still to come. -/
theorem below_walk_iff (letter : isDriveLetter top = false) {parts : List (List Char)}
    (some : parts ≠ []) :
    (∃ more, more ≠ [] ∧ walk (top :: above) parts = (top :: above).reverse ++ more) ↔
      ∃ front back, parts = front ++ back ∧ back ≠ [] ∧ ComesBack (top :: above) front back := by
  obtain ⟨parts, last, rfl⟩ := (List.eq_nil_or_concat' parts).resolve_left some
  obtain ⟨s, ends⟩ := exists_enterLast (parts.foldl enter (top :: above)) last
  rw [walk_concat, ends, List.reverse_cons]
  -- The last part has a segment of its own, so what counts is where it is entered.
  constructor
  · rintro ⟨more, some, same⟩
    obtain ⟨more, t, rfl⟩ := (List.eq_nil_or_concat' more).resolve_left some
    rw [← List.append_assoc, List.append_singleton_inj] at same
    have level : top :: above <:+ place (parts.foldl enter (top :: above)) last :=
      ⟨more.reverse, List.reverse_injective (by simpa using same.1.symm)⟩
    obtain ⟨front, back, rfl, comesBack⟩ :=
      (suffix_foldl_enter_iff letter parts).1 (level.trans (place_suffix _ last))
    exact ⟨front, back ++ [last], by simp, by simp,
      (comesBack_concat_iff letter comesBack last).2 level⟩
  · rintro ⟨front, back, same, some, comesBack⟩
    obtain ⟨back, last', rfl⟩ := (List.eq_nil_or_concat' back).resolve_left some
    rw [← List.append_assoc, List.append_singleton_inj] at same
    obtain ⟨rfl, rfl⟩ := same
    have before : ComesBack (top :: above) front back := by
      rw [ComesBack, staysBelow_append, Bool.and_eq_true] at comesBack
      exact ⟨comesBack.1, comesBack.2.1⟩
    obtain ⟨inner, below⟩ := (comesBack_concat_iff letter before last).1 comesBack
    exact ⟨inner.reverse ++ [s], by simp, by rw [← below]; simp⟩

end Directory

end FloatingIp.Url
