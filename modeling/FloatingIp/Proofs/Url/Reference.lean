import FloatingIp.Url
import Mathlib.Tactic.Lemma

/-!
# References below a URL

A reference that starts with the name of a segment is resolved below the last slash of its base: it
has no scheme, since a slash comes before any colon, and it is neither a query nor a fragment nor a
path of its own.  Whatever follows that name, scheme, user, host and port are those of the base
(`join_of_name`, `below_sameSite`).
-/

namespace FloatingIp.Url

/-! ### What counts of a text -/

/-- The characters that count of a text which stands behind others. -/
def counted (s : List Char) : List Char :=
  ((s.reverse.dropWhile isEdge).reverse).filter fun c => c ≠ '\t' && c ≠ '\n' && c ≠ '\r'

/-- Tabs and line breaks do not count at the ends of a text either. -/
lemma counts_of_isEdge_eq_false {c : Char} (inner : isEdge c = false) :
    (c ≠ '\t' && c ≠ '\n' && c ≠ '\r') = true := by
  have notEdge : ∀ d : Char, isEdge d = true → c ≠ d := fun d edge =>
    ne_of_apply_ne isEdge (by simp [inner, edge])
  simp [notEdge '\t' (by decide), notEdge '\n' (by decide), notEdge '\r' (by decide)]

/-- Nothing is dropped from a text that starts without blanks and controls. -/
lemma dropWhile_isEdge {front : List Char} (some : front ≠ [])
    (inner : ∀ c ∈ front, isEdge c = false) (rest : List Char) :
    (front ++ rest).dropWhile isEdge = front ++ rest := by
  cases front with
  | nil => exact absurd rfl some
  | cons c front =>
      rw [List.cons_append, List.dropWhile_cons_of_neg]
      simp [inner c List.mem_cons_self]

/-- A front without blanks and controls counts as it stands. -/
lemma significant_append {front : List Char} (some : front ≠ [])
    (inner : ∀ c ∈ front, isEdge c = false) (rest : List Char) :
    significant (front ++ rest) = front ++ counted rest := by
  have finish : front.reverse.dropWhile isEdge = front.reverse := by
    have back := dropWhile_isEdge (List.reverse_ne_nil_iff.2 some)
      (fun c mem => inner c (List.mem_reverse.1 mem)) []
    rwa [List.append_nil] at back
  have trimmed : (rest.reverse ++ front.reverse).dropWhile isEdge =
      rest.reverse.dropWhile isEdge ++ front.reverse := by
    rw [List.dropWhile_append]
    split
    case isTrue none =>
      rw [finish, List.isEmpty_iff.1 none, List.nil_append]
    case isFalse => rfl
  have kept : front.filter (fun c => c ≠ '\t' && c ≠ '\n' && c ≠ '\r') = front :=
    List.filter_eq_self.2 fun c mem => counts_of_isEdge_eq_false (inner c mem)
  rw [significant, dropWhile_isEdge some inner, List.reverse_append, trimmed, List.reverse_append,
    List.reverse_reverse, List.filter_append, kept, counted]

/-- A text without blanks and controls counts as it stands. -/
lemma counted_eq_self {s : List Char} (inner : ∀ c ∈ s, isEdge c = false) : counted s = s := by
  have kept : s.filter (fun c => c ≠ '\t' && c ≠ '\n' && c ≠ '\r') = s :=
    List.filter_eq_self.2 fun c mem => counts_of_isEdge_eq_false (inner c mem)
  have finish : s.reverse.dropWhile isEdge = s.reverse := by
    cases reversed : s.reverse with
    | nil => rfl
    | cons c front =>
        have mem : c ∈ s := List.mem_reverse.1 (reversed ▸ List.mem_cons_self)
        exact List.dropWhile_cons_of_neg (by simp [inner c mem])
  rw [counted, finish, List.reverse_reverse, kept]

/-- A text has no scheme if another character than a colon ends the word at its front. -/
lemma scheme?_eq_none {word : List Char} (inner : ∀ c ∈ word, isSchemeChar c = true) {d : Char}
    (ends : isSchemeChar d = false) (noColon : d ≠ ':') (rest : List Char) :
    scheme? (word ++ d :: rest) = none := by
  have left : (word ++ d :: rest).dropWhile isSchemeChar = d :: rest := by
    rw [List.dropWhile_append_of_pos inner, List.dropWhile_cons_of_neg]
    simp [ends]
  unfold scheme?
  split
  case h_1 other same =>
    rw [left] at same
    exact absurd (List.cons.inj same).1 noColon
  case h_2 => rfl

/-! ### What a reference leads to -/

/-- Two URLs of one site: the same scheme, user, host and port. -/
structure SameSite (u v : Url) : Prop where
  scheme : u.scheme = v.scheme
  username : u.username = v.username
  password : u.password = v.password
  host : u.host = v.host
  port : u.port = v.port

/-- A URL of the site of another is of a third one's site if that other is. -/
lemma SameSite.trans {u v w : Url} (first : u.SameSite v) (second : v.SameSite w) :
    u.SameSite w where
  scheme := first.scheme.trans second.scheme
  username := first.username.trans second.username
  password := first.password.trans second.password
  host := first.host.trans second.host
  port := first.port.trans second.port

/-- Two URLs are of one site in either order. -/
lemma SameSite.symm {u v : Url} (site : u.SameSite v) : v.SameSite u where
  scheme := site.scheme.symm
  username := site.username.symm
  password := site.password.symm
  host := site.host.symm
  port := site.port.symm

/-- The URL that a path below the last slash of `base` leads to, with what follows that path. -/
def below (base : Url) (s : List Char) : Url :=
  let (path, rest) := parsePath base.path.dropLast.reverse s
  let (query, fragment) := parseTail rest
  { base with path, query, fragment }

/-- Below a URL its site is not left. -/
lemma below_sameSite (base : Url) (s : List Char) : (base.below s).SameSite base :=
  ⟨rfl, rfl, rfl, rfl, rfl⟩

/-- A final slash does not change the site. -/
lemma closePath_sameSite (u : Url) : u.closePath.SameSite u := by
  unfold closePath
  split <;> exact ⟨rfl, rfl, rfl, rfl, rfl⟩

/-- Nor do further items of the query. -/
lemma addQuery_sameSite (u : Url) (items : List String) : (u.addQuery items).SameSite u :=
  ⟨rfl, rfl, rfl, rfl, rfl⟩

/-- What starts with a segment leads below the base. -/
lemma resolve_of_segment {base : Url} {c : Char} (noSlash : isSlash c = false)
    (noEnd : endsPath c = false) (rest : List Char) :
    base.resolve (c :: rest) = .ok (base.below (c :: rest)) := by
  unfold resolve
  split
  case h_1 none => cases none
  case h_2 fragment same =>
    obtain ⟨rfl, -⟩ := List.cons.inj same
    exact absurd noEnd (by decide)
  case h_3 query same =>
    obtain ⟨rfl, -⟩ := List.cons.inj same
    exact absurd noEnd (by decide)
  case h_4 d others _ _ same =>
    obtain ⟨rfl, rfl⟩ := List.cons.inj same
    rw [if_neg (by simp [noSlash])]
    rfl

/-- A reference that starts with a name and a slash is joined below the base, whatever follows. -/
lemma join_of_name {base : Url} {name : List Char} (some : name ≠ [])
    (inner : ∀ c ∈ name, isSchemeChar c = true) {s : String} {rest : List Char}
    (starts : significant s.toList = name ++ '/' :: rest) :
    base.join s = .ok (Option.some (base.below (significant s.toList))) := by
  have noScheme : scheme? (significant s.toList) = none := by
    rw [starts]
    exact scheme?_eq_none inner (by decide) (by decide) rest
  have resolved : base.resolve (significant s.toList) =
      .ok (base.below (significant s.toList)) := by
    cases name with
    | nil => exact absurd rfl some
    | cons c name =>
        rw [starts, List.cons_append]
        have word := inner c List.mem_cons_self
        have other : ∀ d : Char, isSchemeChar d = false → c ≠ d := fun d none =>
          ne_of_apply_ne isSchemeChar (by simp [word, none])
        apply resolve_of_segment
        · simp [isSlash, other '/' (by decide), other '\\' (by decide)]
        · simp [endsPath, other '?' (by decide), other '#' (by decide)]
  rw [join, noScheme, resolved]
  rfl

end FloatingIp.Url
