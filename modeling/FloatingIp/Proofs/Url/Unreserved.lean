import FloatingIp.Proofs.Url.Path

/-!
# Unreserved characters

Letters, digits and four marks mean nothing to a URL: they stand in it for themselves.  A text of
them, with slashes in between, is the path that it names, if none of its parts is a dot segment
(`pathText_walk_of_plain`).
-/

namespace FloatingIp.Url

/-- Whether a character stands for itself everywhere in a URL. -/
def isUnreserved (c : Char) : Bool :=
  c.isAlphanum || c = '-' || c = '_' || c = '~' || c = '.'

/-- Unreserved characters can be printed, and are no blanks. -/
lemma toNat_of_isUnreserved {c : Char} (plain : isUnreserved c = true) :
    0x20 < c.toNat ∧ c.toNat < 0x7F := by
  have between : ∀ {a b : Char}, a.val ≤ c.val ∧ c.val ≤ b.val →
      a.toNat ≤ c.toNat ∧ c.toNat ≤ b.toNat :=
    fun within => within.imp UInt32.le_iff_toNat_le.1 UInt32.le_iff_toNat_le.1
  have kinds : c.isAlphanum = (c.isUpper || c.isLower || c.isDigit) := rfl
  simp only [isUnreserved, kinds, Bool.or_eq_true, decide_eq_true_eq] at plain
  rcases plain with (((((upper | lower) | digit) | rfl) | rfl) | rfl) | rfl
  · have bounds : 65 ≤ c.toNat ∧ c.toNat ≤ 90 := between (of_decide_eq_true upper)
    omega
  · have bounds : 97 ≤ c.toNat ∧ c.toNat ≤ 122 :=
      between ((Bool.and_eq_true_iff.1 lower).imp of_decide_eq_true of_decide_eq_true)
    omega
  · have bounds : 48 ≤ c.toNat ∧ c.toNat ≤ 57 :=
      between ((Bool.and_eq_true_iff.1 digit).imp of_decide_eq_true of_decide_eq_true)
    omega
  all_goals decide

/-- A character that is not unreserved is another one. -/
lemma ne_of_isUnreserved {c d : Char} (plain : isUnreserved c = true)
    (reserved : isUnreserved d = false) : c ≠ d := by
  rintro rfl
  simp [plain] at reserved

/-- Unreserved characters are encoded as themselves. -/
lemma encodeChar_of_isUnreserved {c : Char} (plain : isUnreserved c = true) :
    Percent.encodeChar Percent.inPath c = [c] := by
  have printable := toNat_of_isUnreserved plain
  have other : Percent.inPath c = false := by
    have ne : ∀ d : Char, isUnreserved d = false → c ≠ d := fun d => ne_of_isUnreserved plain
    simp [Percent.inPath, Percent.inFragment, ne ' ' (by decide), ne '"' (by decide),
      ne '<' (by decide), ne '>' (by decide), ne '\x60' (by decide), ne '#' (by decide),
      ne '?' (by decide), ne '\x7b' (by decide), ne '\x7d' (by decide)]
  unfold Percent.encodeChar
  rw [if_neg]
  simp only [other, Bool.false_eq_true, or_false, not_or]
  omega

/-- Unreserved parts are segments as they stand. -/
lemma segmentText_of_unreserved {part : List Char} (plain : ∀ c ∈ part, isUnreserved c = true) :
    segmentText part = String.ofList part := by
  unfold segmentText Percent.encode
  congr 1
  induction part with
  | nil => rfl
  | cons c part ih =>
      rw [List.forall_mem_cons] at plain
      rw [List.flatMap_cons, encodeChar_of_isUnreserved plain.1, ih plain.2]
      rfl

/-! ### Dot segments -/

/-- What is in lower case and no letter was so before. -/
lemma eq_of_toLower {c d : Char} (noLetter : d.toNat < 97) (same : c.toLower = d) : c = d := by
  unfold Char.toLower at same
  split_ifs at same with upper
  · rw [← same] at noLetter
    change (c.val + 32).toNat < 97 at noLetter
    have low : 65 ≤ c.val.toNat := UInt32.le_iff_toNat_le.1 upper.1
    have high : c.val.toNat ≤ 90 := UInt32.le_iff_toNat_le.1 upper.2
    have step : (32 : UInt32).toNat = 32 := rfl
    rw [UInt32.toNat_add, step] at noLetter
    omega
  · exact same

/-- Unreserved parts are dot segments only if they are dots. -/
lemma no_dots_of_unreserved {part : List Char} (plain : ∀ c ∈ part, isUnreserved c = true)
    (single : part ≠ ['.']) (double : part ≠ ['.', '.']) :
    isDoubleDot part = false ∧ isSingleDot part = false := by
  -- All other spellings of dot segments have a percent sign in them.
  have noPercent : '%' ∉ part.map Char.toLower := by
    intro mem
    obtain ⟨c, inPart, same⟩ := List.mem_map.1 mem
    exact ne_of_isUnreserved (plain c inPart) (by decide) (eq_of_toLower (by decide) same)
  have encoded : ∀ s : List Char, '%' ∈ s → part.map Char.toLower ≠ s := by
    rintro s mem rfl
    exact noPercent mem
  have dots : part.map Char.toLower ≠ "..".toList := by
    intro same
    obtain ⟨c, d, rfl⟩ : ∃ c d, part = [c, d] := by
      have length := congrArg List.length same
      exact List.length_eq_two.1 (by simpa using length)
    simp only [List.map_cons, List.map_nil] at same
    have first : c = '.' := eq_of_toLower (by decide) (by simpa using congrArg List.head? same)
    have second : d = '.' := eq_of_toLower (by decide) (by simpa using congrArg List.getLast? same)
    exact double (by rw [first, second])
  have dot : part ≠ ".".toList := by simpa using single
  constructor
  · simp only [isDoubleDot, dots, encoded ".%2e".toList (by decide),
      encoded "%2e.".toList (by decide), encoded "%2e%2e".toList (by decide), decide_false,
      Bool.or_self]
  · simp only [isSingleDot, dot, encoded "%2e".toList (by decide), decide_false, Bool.or_self]

/-! ### Plain texts -/

/-- A text of unreserved characters and slashes. -/
def Plain (s : List Char) : Prop :=
  ∀ c ∈ s, isUnreserved c = true ∨ c = '/'

/-- The parts of a plain text are those between its slashes. -/
lemma splitPath_of_plain {s : List Char} (plain : Plain s) : splitPath s = s.splitOn '/' := by
  induction s with
  | nil => rfl
  | cons c s ih =>
      unfold Plain at plain
      rw [List.forall_mem_cons] at plain
      rw [List.splitOn_cons_eq_if_modifyHead, ← ih plain.2]
      by_cases slash : c = '/'
      · simp [slash, splitPath_slash (c := '/') rfl]
      · have word := plain.1.resolve_right slash
        have noSlash : isSlash c = false := by
          simp [isSlash, slash, ne_of_isUnreserved word (by decide : isUnreserved '\\' = false)]
        simp [slash, splitPath_cons noSlash]

/-- The parts of a plain text are unreserved. -/
lemma unreserved_of_mem_splitPath {s part : List Char} (plain : Plain s)
    (mem : part ∈ splitPath s) : ∀ c ∈ part, isUnreserved c = true := by
  intro c inPart
  obtain ⟨inText, noSlash⟩ := of_mem_splitPath mem inPart
  refine (plain c inText).resolve_right ?_
  rintro rfl
  cases noSlash

/-- The text of a path has a slash in front of each segment. -/
lemma toList_pathText_ofList {parts : List (List Char)} (some : parts ≠ []) :
    (pathText (parts.map String.ofList)).toList = '/' :: ['/'].intercalate parts := by
  induction parts with
  | nil => exact absurd rfl some
  | cons part parts ih =>
      by_cases last : parts = []
      · simp [last]
      · simp [ih last, List.intercalate_cons_of_ne_nil last]

/-- **A plain text without dot segments stands as it is in the path that it names.** -/
theorem pathText_walk_of_plain {s : List Char} (plain : Plain s)
    (noDots : ∀ part ∈ s.splitOn '/', part ≠ ['.'] ∧ part ≠ ['.', '.']) (above : List String) :
    pathText (walk above (splitPath s)) = pathText above.reverse ++ "/" ++ String.ofList s := by
  have word : ∀ part ∈ splitPath s, ∀ c ∈ part, isUnreserved c = true :=
    fun part mem => unreserved_of_mem_splitPath plain mem
  have level : ∀ part ∈ splitPath s, isDoubleDot part = false ∧ isSingleDot part = false := by
    intro part mem
    have dots := noDots part (splitPath_of_plain plain ▸ mem)
    exact no_dots_of_unreserved (word part mem) dots.1 dots.2
  have segments : (splitPath s).map segmentText = (splitPath s).map String.ofList :=
    List.map_congr_left fun part mem => segmentText_of_unreserved (word part mem)
  rw [walk_of_no_dots (splitPath_ne_nil s) level, segments, pathText_append, String.append_assoc]
  congr 1
  rw [← String.toList_inj, toList_pathText_ofList (splitPath_ne_nil s), splitPath_of_plain plain,
    List.intercalate_splitOn]
  simp

end FloatingIp.Url
