import FloatingIp.Proofs.Url.Reference
import Mathlib.Data.List.TakeWhile

/-!
# What follows a path

Behind its path a reference may name a query and a fragment.  A fragment is named by the first `#`
anywhere (`fragment_parseTail_eq_none_iff`), a query by a `?` in front of it (`asked`).  Items that
are added to a query go behind what it asks already, so that they are all of it exactly if it asked
nothing (`addQuery_eq_iff`).
-/

namespace FloatingIp.Url

/-! ### Encoded texts -/

/-- No character is encoded as nothing. -/
lemma encodeChar_ne_nil (set : Char → Bool) (c : Char) : Percent.encodeChar set c ≠ [] := by
  unfold Percent.encodeChar
  split
  · intro none
    have bytes : String.utf8EncodeChar c = [] := by
      cases bytes : String.utf8EncodeChar c with
      | nil => rfl
      | cons b bs => simp [bytes, Percent.byteText] at none
    have length := String.length_utf8EncodeChar c
    have size := Char.utf8Size_pos c
    rw [bytes, List.length_nil] at length
    omega
  · simp

/-- Only the empty query is encoded as nothing. -/
lemma queryText_eq_empty_iff {s : List Char} : queryText s = "" ↔ s = [] := by
  rw [queryText, String.ofList_eq_empty_iff]
  cases s with
  | nil => simp [Percent.encode]
  | cons c s => simp [Percent.encode, encodeChar_ne_nil]

/-! ### The tail of a reference -/

/-- The path at the front of a text. -/
def pathPart (s : List Char) : List Char :=
  s.takeWhile fun c => !endsPath c

/-- What follows the path at the front of a text. -/
def tailPart (s : List Char) : List Char :=
  s.dropWhile fun c => !endsPath c

/-- What a text asks: all between a `?` behind the path and the fragment. -/
def asked (s : List Char) : List Char :=
  match tailPart s with
  | '?' :: rest => rest.takeWhile (· ≠ '#')
  | _ => []

/-- The tail of a text is empty or begins with what ended the path. -/
lemma tailPart_cases (s : List Char) :
    tailPart s = [] ∨ (∃ rest, tailPart s = '?' :: rest) ∨ ∃ rest, tailPart s = '#' :: rest := by
  cases tail : tailPart s with
  | nil => exact .inl rfl
  | cons c rest =>
      have ends : endsPath c = true := by
        have head := List.head?_dropWhile_not (fun c => !endsPath c) s
        rw [← tailPart, tail] at head
        simpa using head
      rcases (by simpa [endsPath] using ends : c = '?' ∨ c = '#') with rfl | rfl
      · exact .inr (.inl ⟨rest, rfl⟩)
      · exact .inr (.inr ⟨rest, rfl⟩)

/-- Below a base the path of a text is walked from the last slash of the base. -/
lemma path_below (base : Url) (s : List Char) :
    (base.below s).path = walk base.path.dropLast.reverse (splitPath (pathPart s)) :=
  rfl

/-- The query is that of the tail. -/
lemma query_below (base : Url) (s : List Char) :
    (base.below s).query = (parseTail (tailPart s)).1 :=
  rfl

/-- So is the fragment. -/
lemma fragment_below (base : Url) (s : List Char) :
    (base.below s).fragment = (parseTail (tailPart s)).2 :=
  rfl

/-- A text is its path and its tail. -/
lemma pathPart_append_tailPart (s : List Char) : pathPart s ++ tailPart s = s :=
  List.takeWhile_append_dropWhile

/-- The query of a text is what it asks. -/
lemma query_parseTail (s : List Char) :
    ((parseTail (tailPart s)).1).getD "" = queryText (asked s) := by
  have nothing : queryText [] = "" := queryText_eq_empty_iff.2 rfl
  rcases tailPart_cases s with none | ⟨rest, query⟩ | ⟨rest, fragment⟩
  · simp [asked, none, nothing, parseTail]
  · simp [asked, query, parseTail, cutAt]
  · simp [asked, fragment, nothing, parseTail]

/-- A text has a fragment exactly if there is a `#` in it. -/
lemma fragment_parseTail_eq_none_iff (s : List Char) :
    (parseTail (tailPart s)).2 = none ↔ '#' ∉ s := by
  have inPath : '#' ∉ pathPart s := by
    intro mem
    have stays := List.mem_takeWhile_imp mem
    simp [endsPath] at stays
  rw [← pathPart_append_tailPart s, List.mem_append, or_iff_right inPath,
    pathPart_append_tailPart]
  rcases tailPart_cases s with none | ⟨rest, query⟩ | ⟨rest, fragment⟩
  · simp [none, parseTail]
  · have left : rest.dropWhile (fun c => !decide (c = '#')) = [] ↔ '#' ∉ rest := by
      rw [List.dropWhile_eq_nil_iff]
      constructor
      · intro all mem
        simpa using all '#' mem
      · intro away c mem
        have other : c ≠ '#' := fun same => away (same ▸ mem)
        simp [other]
    rw [query, parseTail, cutAt]
    cases after : rest.dropWhile (fun c => !decide (c = '#')) with
    | nil => simpa using left.1 after
    | cons c cs => simpa [after] using left
  · simp [fragment, parseTail]

/-! ### Added items -/

/-- Added items do not change the path. -/
@[simp] lemma path_addQuery (u : Url) (items : List String) : (u.addQuery items).path = u.path :=
  rfl

/-- Nor do they change the fragment. -/
@[simp] lemma fragment_addQuery (u : Url) (items : List String) :
    (u.addQuery items).fragment = u.fragment :=
  rfl

/-- A query without items asks nothing; otherwise `&` stands between them. -/
lemma foldl_items {items : List String} (some : ∀ item ∈ items, item ≠ "") (query : String) :
    items.foldl (fun query item => if query.isEmpty then item else query ++ "&" ++ item) query =
      "&".intercalate ((if query = "" then [] else [query]) ++ items) := by
  induction items generalizing query with
  | nil =>
      by_cases none : query = ""
      · simp [none]
      · simp [none]
  | cons item items ih =>
      rw [List.forall_mem_cons] at some
      rw [List.foldl_cons, ih some.2]
      by_cases none : query = ""
      · simp [none, some.1]
      · have more : query ++ "&" ++ item ≠ "" := by simp
        simp [none, more, String.intercalate_cons_cons]

/-- Added items are put behind what a query asks already. -/
lemma query_addQuery (u : Url) {items : List String} (some : ∀ item ∈ items, item ≠ "") :
    (u.addQuery items).query =
      Option.some ("&".intercalate
        ((if u.query.getD "" = "" then [] else [u.query.getD ""]) ++ items)) := by
  rw [addQuery, ← foldl_items some]

/-- **A query consists of the items that were added to it exactly if it asked nothing before.** -/
theorem addQuery_eq_iff (u : Url) {items : List String} (some : ∀ item ∈ items, item ≠ "") :
    (u.addQuery items).query = Option.some ("&".intercalate items) ↔ u.query.getD "" = "" := by
  rw [query_addQuery u some, Option.some.injEq]
  by_cases none : u.query.getD "" = ""
  · simp [none]
  · rw [if_neg none]
    refine iff_of_false (fun same => none ?_) none
    -- What was asked before would take room in the query.
    cases items with
    | nil => simpa using same
    | cons item items =>
        have length := congrArg String.length same
        simp only [List.cons_append, List.nil_append, String.intercalate_cons_cons,
          String.length_append] at length
        have asksNothing : (u.query.getD "").length = 0 := by omega
        simpa using asksNothing

end FloatingIp.Url
