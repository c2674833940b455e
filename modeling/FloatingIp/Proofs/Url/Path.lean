import FloatingIp.Proofs.Except
import FloatingIp.Proofs.Text.Blank
import FloatingIp.Proofs.Url.Walk
import Mathlib.Tactic.IntervalCases

/-!
# Paths and their texts

No segment of a path that was read holds a slash or a character that ends paths, since those that
are not taken for such are encoded (`sealed_of_parse`).  So the text of a path tells its segments, and
in particular whether the path lies below a directory (`exists_text_iff`).
-/

namespace FloatingIp.Url

/-! ### Encoded characters -/

/-- The digits of a byte are hexadecimal. -/
lemma isDigit_upperDigit {n : Nat} (bound : n < 16) :
    Digits.isDigit 16 (Percent.upperDigit n) = true := by
  interval_cases n <;> decide

/-- What stands in an encoded text stood in the text and needs no encoding, or belongs to an encoded
byte. -/
lemma of_mem_encode {set : Char → Bool} {s : List Char} {c : Char}
    (mem : c ∈ Percent.encode set s) :
    (c ∈ s ∧ set c = false) ∨ c = '%' ∨ Digits.isDigit 16 c = true := by
  simp only [Percent.encode, List.mem_flatMap] at mem
  obtain ⟨d, inText, mem⟩ := mem
  unfold Percent.encodeChar at mem
  split_ifs at mem with encoded
  · obtain ⟨b, -, mem⟩ := List.mem_flatMap.1 mem
    have byte : b.toNat < 256 := b.toNat_lt_size
    have high : b.toNat / 16 < 16 := by omega
    have low : b.toNat % 16 < 16 := by omega
    simp only [Percent.byteText, List.mem_cons, List.not_mem_nil, or_false] at mem
    rcases mem with rfl | rfl | rfl
    · exact .inr (.inl rfl)
    · exact .inr (.inr (isDigit_upperDigit high))
    · exact .inr (.inr (isDigit_upperDigit low))
  · obtain rfl := List.mem_singleton.1 mem
    simp only [not_or, Bool.not_eq_true] at encoded
    exact .inl ⟨inText, encoded.2.2⟩

/-! ### Sealed paths -/

/-- A segment that holds no slash and nothing that ends paths. -/
def Sealed (segment : String) : Prop :=
  ∀ c ∈ segment.toList, isSlash c = false ∧ endsPath c = false

/-- The empty segment holds nothing at all. -/
@[simp] lemma sealed_empty : Sealed "" := by
  simp [Sealed]

/-- A part without slashes makes a segment that is sealed: the ends of paths are encoded. -/
lemma sealed_segmentText {part : List Char} (noSlash : ∀ c ∈ part, isSlash c = false) :
    Sealed (segmentText part) := by
  intro c mem
  rw [segmentText, String.toList_ofList] at mem
  rcases of_mem_encode mem with ⟨inPart, plain⟩ | rfl | digit
  · refine ⟨noSlash c inPart, ?_⟩
    simp only [Percent.inPath, Bool.or_eq_false_iff, decide_eq_false_iff_not] at plain
    simp [endsPath, plain]
  · decide
  · have other : ∀ d : Char, Digits.isDigit 16 d = false → c ≠ d := by
      rintro d no rfl
      simp [no] at digit
    simp [isSlash, endsPath, other '/' (by decide), other '\\' (by decide), other '?' (by decide),
      other '#' (by decide)]

/-- Entering a part keeps segments sealed. -/
lemma sealed_enter {above : List String} (sealedAbove : ∀ s ∈ above, Sealed s) {part : List Char}
    (noSlash : ∀ c ∈ part, isSlash c = false) : ∀ s ∈ enter above part, Sealed s := by
  have old : ∀ s ∈ place above part, Sealed s := fun s mem =>
    sealedAbove s ((place_suffix above part).mem mem)
  unfold place at old
  unfold enter
  split_ifs at old ⊢
  · exact old
  · exact old
  · exact List.forall_mem_cons.2 ⟨sealed_segmentText noSlash, old⟩

/-- So does entering the last part. -/
lemma sealed_enterLast {above : List String} (sealedAbove : ∀ s ∈ above, Sealed s)
    {part : List Char} (noSlash : ∀ c ∈ part, isSlash c = false) :
    ∀ s ∈ enterLast above part, Sealed s := by
  have old : ∀ s ∈ place above part, Sealed s := fun s mem =>
    sealedAbove s ((place_suffix above part).mem mem)
  unfold place at old
  unfold enterLast
  split_ifs at old ⊢
  · exact List.forall_mem_cons.2 ⟨sealed_empty, old⟩
  · exact List.forall_mem_cons.2 ⟨sealed_empty, old⟩
  · exact List.forall_mem_cons.2 ⟨sealed_segmentText noSlash, old⟩

/-- A walk from sealed segments leads to sealed segments. -/
lemma sealed_walk {above : List String} (sealedAbove : ∀ s ∈ above, Sealed s) (text : List Char) :
    ∀ s ∈ walk above (splitPath text), Sealed s := by
  have noSlash : ∀ part ∈ splitPath text, ∀ c ∈ part, isSlash c = false :=
    fun part mem c inPart => (of_mem_splitPath mem inPart).2
  obtain ⟨front, last, parts⟩ :=
    (List.eq_nil_or_concat' (splitPath text)).resolve_left (splitPath_ne_nil text)
  rw [parts] at noSlash ⊢
  have entered : ∀ s ∈ front.foldl enter above, Sealed s := by
    have inFront : ∀ part ∈ front, ∀ c ∈ part, isSlash c = false :=
      fun part mem => noSlash part (List.mem_append_left _ mem)
    clear parts noSlash
    induction front generalizing above with
    | nil => exact sealedAbove
    | cons part front ih =>
        rw [List.forall_mem_cons] at inFront
        exact ih (sealed_enter sealedAbove inFront.1) inFront.2
  intro s mem
  rw [walk_concat, List.mem_reverse] at mem
  exact sealed_enterLast entered (noSlash last (by simp)) s mem

/-- The path of a URL that was read is one that was walked from the root. -/
lemma path_of_parse {s : String} {u : Url} (spelt : Url.parse s = .ok (some u)) :
    ∃ text, u.path = walk [] (splitPath text) := by
  unfold Url.parse at spelt
  split at spelt
  case h_2 => cases spelt
  case h_1 scheme rest _ =>
    unfold ofScheme at spelt
    split at spelt
    case h_1 port _ =>
      obtain ⟨v, read, same⟩ := bind_eq_ok.1 spelt
      obtain ⟨⟨a, rest⟩, -, path⟩ := bind_eq_ok.1 read
      cases path
      cases same
      exact ⟨_, rfl⟩
    case h_2 =>
      obtain ⟨-, -, same⟩ := bind_eq_ok.1 spelt
      cases same

/-- The path of a URL that was read is sealed. -/
lemma sealed_of_parse {s : String} {u : Url} (spelt : Url.parse s = .ok (some u)) :
    ∀ segment ∈ u.path, Sealed segment := by
  obtain ⟨text, walked⟩ := path_of_parse spelt
  rw [walked]
  exact sealed_walk (by simp) text

/-! ### Texts of paths -/

@[simp] lemma pathText_nil : pathText [] = "" := by
  simp [pathText]

@[simp] lemma pathText_cons (s : String) (path : List String) :
    pathText (s :: path) = "/" ++ s ++ pathText path := by
  simp [pathText]

@[simp] lemma pathText_append (front back : List String) :
    pathText (front ++ back) = pathText front ++ pathText back := by
  simp [pathText]

/-- The text of a path begins with a slash, if it is not empty. -/
lemma slash_of_head_pathText {path : List String} {c : Char}
    (head : (pathText path).toList.head? = some c) : c = '/' := by
  cases path with
  | nil => simp at head
  | cons s path => simpa using head.symm

/-- No sealed path has a character in its text that ends paths. -/
lemma endsPath_of_mem_pathText {path : List String} (sealedPath : ∀ s ∈ path, Sealed s) {c : Char}
    (mem : c ∈ (pathText path).toList) : endsPath c = false := by
  induction path with
  | nil => simp at mem
  | cons s path ih =>
      rw [List.forall_mem_cons] at sealedPath
      simp only [pathText_cons, String.toList_append, List.mem_append] at mem
      rcases mem with (slash | inSegment) | mem
      · obtain rfl : c = '/' := by simpa using slash
        rfl
      · exact (sealedPath.1 c inSegment).2
      · exact ih sealedPath.2 mem

/-- The segment at the front of a text is told by the slash behind it. -/
lemma segment_inj {s t : String} {rest rest' : List Char} (sealedS : Sealed s) (sealedT : Sealed t)
    (slash : ∀ c, rest.head? = some c → c = '/') (slash' : ∀ c, rest'.head? = some c → c = '/')
    (same : s.toList ++ rest = t.toList ++ rest') : s = t ∧ rest = rest' := by
  have inner : ∀ {u : String}, Sealed u → ∀ c ∈ u.toList, (fun c => !isSlash c) c = true := by
    intro u whole c mem
    simp [(whole c mem).1]
  have stops : ∀ {r : List Char}, (∀ c, r.head? = some c → c = '/') →
      ∀ c, r.head? = some c → (fun c => !isSlash c) c = false := by
    intro r slash c head
    rw [slash c head]
    rfl
  have parts :=
    Text.append_inj_of_span (inner sealedS) (stops slash) (inner sealedT) (stops slash') same
  exact ⟨String.toList_inj.1 parts.1, parts.2⟩

/-- **The text of a path tells whether the path lies below a directory**: it begins with the text of
the directory and a slash. -/
theorem exists_text_iff {dir path : List String} (sealedDir : ∀ s ∈ dir, Sealed s)
    (sealedPath : ∀ s ∈ path, Sealed s) :
    (∃ rest, pathText path = pathText dir ++ "/" ++ rest) ↔
      ∃ more, more ≠ [] ∧ path = dir ++ more := by
  constructor
  · rintro ⟨rest, same⟩
    induction dir generalizing path with
    | nil =>
        refine ⟨path, ?_, rfl⟩
        rintro rfl
        simpa using congrArg String.toList same
    | cons d dir ih =>
        cases path with
        | nil => simpa using congrArg String.toList same
        | cons s path =>
            rw [List.forall_mem_cons] at sealedDir sealedPath
            have letters : s.toList ++ (pathText path).toList =
                d.toList ++ (pathText dir ++ "/" ++ rest).toList := by
              simpa using congrArg String.toList same
            have slash : ∀ c, (pathText dir ++ "/" ++ rest).toList.head? = some c → c = '/' := by
              intro c head
              cases dir with
              | nil => simpa using head.symm
              | cons e dir => simpa using head.symm
            obtain ⟨rfl, back⟩ := segment_inj sealedPath.1 sealedDir.1
              (fun c head => slash_of_head_pathText head) slash letters
            obtain ⟨more, some, rfl⟩ := ih sealedDir.2 sealedPath.2 (String.toList_inj.1 back)
            exact ⟨more, some, rfl⟩
  · rintro ⟨more, some, rfl⟩
    obtain ⟨s, more, rfl⟩ := List.exists_cons_of_ne_nil some
    exact ⟨s ++ pathText more, by simp [String.append_assoc]⟩

/-- A text with a final slash. -/
def closed (text : String) : String :=
  if text.toList.getLast? = some '/' then text else text ++ "/"

/-- A path that is closed is that of a directory. -/
lemma exists_closePath (u : Url) : ∃ dir, u.closePath.path = dir ++ [""] := by
  unfold closePath
  split
  case isTrue final =>
    exact ⟨u.path.dropLast, (List.dropLast_append_getLast? "" final).symm⟩
  case isFalse => exact ⟨u.path, rfl⟩

/-- Closing a path keeps it sealed. -/
lemma sealed_closePath {u : Url} (sealedPath : ∀ s ∈ u.path, Sealed s) :
    ∀ s ∈ u.closePath.path, Sealed s := by
  unfold closePath
  split
  case isTrue => exact sealedPath
  case isFalse =>
    intro s mem
    rcases List.mem_append.1 mem with mem | mem
    · exact sealedPath s mem
    · rw [List.mem_singleton.1 mem]
      exact sealed_empty

/-- Closing a path gives its text a final slash. -/
lemma pathText_closePath {u : Url} (sealedPath : ∀ s ∈ u.path, Sealed s) :
    pathText u.closePath.path = closed (pathText u.path) := by
  have final : (pathText u.path).toList.getLast? = some '/' ↔ u.path.getLast? = some "" := by
    rcases List.eq_nil_or_concat' u.path with none | ⟨front, last, path⟩
    · simp [none]
    · rw [path] at sealedPath ⊢
      by_cases empty : last = ""
      · simp [empty]
      · have some : last.toList ≠ [] := by simpa using empty
        have noSlash : last.toList.getLast some ≠ '/' := by
          intro same
          have none := (sealedPath last (by simp) _ (List.getLast_mem some)).1
          rw [same] at none
          cases none
        have ending : ('/' :: last.toList).getLast? = Option.some (last.toList.getLast some) := by
          rw [List.getLast?_cons, List.getLast?_eq_some_getLast some]
          rfl
        simp [empty, ending, noSlash]
  unfold closePath closed
  by_cases slash : u.path.getLast? = some ""
  · rw [if_pos slash, if_pos (final.2 slash)]
  · rw [if_neg slash, if_neg (final.not.2 slash)]
    simp

end FloatingIp.Url
