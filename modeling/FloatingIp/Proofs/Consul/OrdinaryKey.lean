import FloatingIp.Proofs.Consul.ReadKind
import FloatingIp.Proofs.Digits
import FloatingIp.Proofs.Url.Text
import FloatingIp.Proofs.Url.Unreserved

/-!
# Keys that are names

An ordinary key consists of unreserved characters and slashes and has no dot segments.  Nothing of it
means anything to a URL, so its URL names it as it stands, below the endpoint's path and `v1/kv/`, and
tells it apart from every other ordinary key (`ordinary_key_named`).  The wait index can be read off
the query.
-/

namespace FloatingIp.Consul

open Url (splitPath pathPart tailPart asked pathText closed isUnreserved)

/-! ### Ordinary keys -/

/-- A key of unreserved characters and slashes that has no dot segments. -/
structure Ordinary (key : String) : Prop where
  plain : Url.Plain key.toList
  noDots : ∀ part ∈ key.toList.splitOn '/', part ≠ ['.'] ∧ part ≠ ['.', '.']

/-- A key without the slashes in front of it. -/
def unslashed (key : String) : String :=
  String.ofList (key.toList.dropWhile (· = '/'))

/-- The parts of a text without the slashes in front of it are parts of the text. -/
lemma splitOn_dropWhile_subset (s : List Char) :
    (s.dropWhile (· = '/')).splitOn '/' ⊆ s.splitOn '/' := by
  induction s with
  | nil => exact List.Subset.refl _
  | cons c s ih =>
      by_cases slash : c = '/'
      · rw [List.dropWhile_cons_of_pos (by simpa using slash), List.splitOn_cons_eq_if_modifyHead,
          if_pos (by simpa using slash)]
        exact List.Subset.trans ih (List.subset_cons_self _ _)
      · rw [List.dropWhile_cons_of_neg (by simpa using slash)]
        exact List.Subset.refl _

variable {key : String}

/-- No character of an ordinary key ends a path, and none is a blank or a control. -/
lemma Ordinary.inner (ordinary : Ordinary key) {c : Char} (mem : c ∈ (unslashed key).toList) :
    Url.endsPath c = false ∧ Url.isEdge c = false := by
  rw [unslashed, String.toList_ofList] at mem
  rcases ordinary.plain c (List.dropWhile_suffix _ |>.mem mem) with word | rfl
  · have printable := Url.toNat_of_isUnreserved word
    have query := Url.ne_of_isUnreserved word (by decide : isUnreserved '?' = false)
    have fragment := Url.ne_of_isUnreserved word (by decide : isUnreserved '#' = false)
    refine ⟨by simp [Url.endsPath, query, fragment], ?_⟩
    simp only [Url.isEdge, decide_eq_false_iff_not]
    omega
  · exact ⟨rfl, rfl⟩

/-- All of an ordinary key counts. -/
lemma Ordinary.keyText_eq (ordinary : Ordinary key) : keyText key = (unslashed key).toList := by
  have counted : keyText key = Url.counted (unslashed key).toList := by
    rw [keyText, unslashed, String.toList_ofList]
  rw [counted, Url.counted_eq_self fun c mem => (ordinary.inner mem).2]

/-- An ordinary key is a path and nothing else. -/
lemma Ordinary.pathPart_eq (ordinary : Ordinary key) :
    pathPart (keyText key) = (unslashed key).toList := by
  rw [ordinary.keyText_eq]
  apply List.takeWhile_eq_self_iff.2
  intro c mem
  simp [(ordinary.inner mem).1]

/-- An ordinary key asks nothing. -/
lemma Ordinary.asked_eq (ordinary : Ordinary key) : asked (keyText key) = [] := by
  have none : tailPart (keyText key) = [] := by
    rw [ordinary.keyText_eq]
    apply List.dropWhile_eq_nil_iff.2
    intro c mem
    simp [(ordinary.inner mem).1]
  rw [asked, none]

/-- There is no `#` in an ordinary key. -/
lemma Ordinary.no_fragment (ordinary : Ordinary key) : '#' ∉ keyText key := by
  intro mem
  rw [ordinary.keyText_eq] at mem
  cases (ordinary.inner mem).1

/-- The path of an ordinary key ends in the key as it stands. -/
lemma Ordinary.pathText_keyPlace (ordinary : Ordinary key) {base : Url}
    (directory : ∃ dir, base.path = dir ++ [""]) :
    pathText (keyPlace base key).path = pathText base.path ++ "v1/kv/" ++ unslashed key := by
  have plain : Url.Plain (unslashed key).toList := by
    intro c mem
    rw [unslashed, String.toList_ofList] at mem
    exact ordinary.plain c (List.dropWhile_suffix _ |>.mem mem)
  have noDots : ∀ part ∈ (unslashed key).toList.splitOn '/', part ≠ ['.'] ∧ part ≠ ['.', '.'] := by
    intro part mem
    rw [unslashed, String.toList_ofList] at mem
    exact ordinary.noDots part (splitOn_dropWhile_subset _ mem)
  rw [path_keyPlace, ordinary.pathPart_eq, Url.pathText_walk_of_plain plain noDots,
    pathText_keyDir directory, String.ofList_toList]

/-! ### The wait index -/

/-- The wait index that an item of a query names. -/
def indexIn? (item : List Char) : Option Nat :=
  if "index=".toList.isPrefixOf item then Digits.read? 10 (item.drop 6) else none

/-- The wait index that a query asks for; zero if it asks for none. -/
def waitIndexOf (query : String) : Nat :=
  ((query.toList.splitOn '&').findSome? indexIn?).getD 0

/-- The item for a wait index names it. -/
lemma indexIn?_index (n : Nat) : indexIn? ("index=" ++ Digits.decimal n).toList = some n := by
  have digits : Digits.read? 10 (Digits.text 10 n) = some n :=
    Digits.read?_text (by omega) (by omega) n
  have letters : ("index=" ++ Digits.decimal n).toList = "index=".toList ++ Digits.text 10 n := by
    simp [Digits.decimal]
  have front : "index=".toList.isPrefixOf ("index=".toList ++ Digits.text 10 n) = true :=
    List.isPrefixOf_iff_prefix.2 (List.prefix_append _ _)
  rw [indexIn?, letters, if_pos front, ← digits]
  rfl

/-- The items of a query name the wait index, if there is one. -/
lemma findSome?_queryItems (wait : Duration) (options : ReadOptions) :
    ((queryItems wait options).map String.toList).findSome? indexIn? =
      if 0 < options.waitIndex then some options.waitIndex else none := by
  have front : ((if options.consistent then ["consistent"] else []).map String.toList).findSome?
      indexIn? = none := by
    split
    case isTrue => decide
    case isFalse => rfl
  rw [queryItems, List.map_append, List.findSome?_append, front, Option.none_or]
  by_cases blocking : 0 < options.waitIndex
  · rw [if_pos blocking, if_pos blocking]
    simp only [List.map_cons, List.findSome?_cons, indexIn?_index]
  · rw [if_neg blocking, if_neg blocking]
    rfl

/-- The digits of a number do not divide items. -/
lemma noDivider_of_decimal (n : Nat) : '&' ∉ Digits.text 10 n := by
  intro mem
  have digit := Digits.toNat_of_isDigit (Digits.isDigit_of_mem_text (by omega) (by omega) mem)
  exact absurd digit.1 (by decide)

/-- The items of a query are found again between its dividers. -/
lemma splitOn_queryFor {wait : Duration} {options : ReadOptions}
    (some : queryItems wait options ≠ []) :
    (queryFor wait options).toList.splitOn '&' =
      (queryItems wait options).map String.toList := by
  have apart : ∀ item ∈ (queryItems wait options).map String.toList, '&' ∉ item := by
    intro item mem
    obtain ⟨text, inItems, rfl⟩ := List.mem_map.1 mem
    rcases of_mem_queryItems inItems with rfl | rfl | rfl
    · decide
    · simp [Digits.decimal, noDivider_of_decimal]
    · simp [Digits.decimal, noDivider_of_decimal]
  have letters : (queryFor wait options).toList =
      ['&'].intercalate ((queryItems wait options).map String.toList) := by
    rw [← intercalate_queryItems, String.toList_intercalate]
    rfl
  rw [letters, List.splitOn_intercalate '&' apart (by simpa using some)]

/-- The wait index is read off the query that the options stand for. -/
lemma waitIndexOf_queryFor (wait : Duration) (options : ReadOptions) :
    waitIndexOf (queryFor wait options) = options.waitIndex := by
  by_cases none : queryItems wait options = []
  · have query : queryFor wait options = "" := by
      rw [← intercalate_queryItems, none]
      rfl
    have zero : options.waitIndex = 0 := by
      simp only [queryItems, List.append_eq_nil_iff, ite_eq_right_iff] at none
      by_contra positive
      cases none.2 (Nat.pos_of_ne_zero positive)
    rw [query, zero]
    simp [waitIndexOf, indexIn?]
  · rw [waitIndexOf, splitOn_queryFor none, findSome?_queryItems]
    split
    case isTrue => rfl
    case isFalse zero => exact (Nat.eq_zero_of_not_pos zero).symm

/-! ### URLs -/

/-- The URL of an ordinary key is of the endpoint's site, and is made of the endpoint's path, the key
and the query that the options stand for. -/
lemma Ordinary.exists_url (ordinary : Ordinary key) {u : Url}
    (sealedPath : ∀ s ∈ u.path, Url.Sealed s) (wait : Duration) (token : Option String)
    (options : ReadOptions) :
    ∃ url, (⟨u.closePath, wait, token⟩ : Consul).url key options = .ok url ∧ url.SameSite u ∧
      (∀ s ∈ url.path, Url.Sealed s) ∧
      pathText url.path = closed (pathText u.path) ++ "v1/kv/" ++ unslashed key ∧
      url.query = some (queryFor wait options) ∧ url.fragment = none := by
  refine ⟨(keyPlace u.closePath key).addQuery (queryItems wait options), ?_, ?_, ?_, ?_, ?_, ?_⟩
  · rw [Consul.url, keyUrl_eq_keyPlace]
  · exact (Url.addQuery_sameSite _ (queryItems wait options)).trans
      ((Url.below_sameSite u.closePath (keyRoot ++ keyText key)).trans u.closePath_sameSite)
  · rw [Url.path_addQuery]
    exact sealed_keyPlace (Url.sealed_closePath sealedPath) key
  · rw [Url.path_addQuery, ← Url.pathText_closePath sealedPath]
    exact ordinary.pathText_keyPlace (Url.exists_closePath u)
  · exact (query_addQuery_keyPlace_iff u.closePath wait key options).2 ordinary.asked_eq
  · rw [Url.fragment_addQuery]
    exact (fragment_keyPlace_eq_none_iff u.closePath key).2 ordinary.no_fragment

/-- **The URL of an ordinary key names the key.** Its path is the endpoint's, with a final slash,
`v1/kv/` and the key without the slashes in front of it.  Its query is the one that the options stand
for, from which the wait index can be read, and nothing of the endpoint's own query and fragment is
left.  So ordinary keys that differ behind the slashes in front have different URLs, however they
are read. -/
theorem ordinary_key_named {endpoint : String} {base : Url}
    (accepted : parseEndpoint endpoint = .ok base) (wait : Duration) (token : Option String) :
    ∃ c u, Consul.new endpoint wait token = .ok c ∧ Url.parse endpoint = .ok (some u) ∧
      ∀ (key : String) (options : ReadOptions), Ordinary key →
        ∃ url, c.url key options = .ok url ∧ url.SameSite u ∧
          pathText url.path = closed (pathText u.path) ++ "v1/kv/" ++ unslashed key ∧
          url.query = some (queryFor wait options) ∧ url.fragment = none ∧
          waitIndexOf (queryFor wait options) = options.waitIndex ∧
          ∀ (other : String) (options' : ReadOptions) (url' : Url), Ordinary other →
            c.url other options' = .ok url' → url'.text = url.text →
              unslashed other = unslashed key := by
  obtain ⟨u, spelt, -, rfl⟩ := parseEndpoint_eq_ok.1 accepted
  refine ⟨_, u, new_of_accepted accepted wait token, spelt, ?_⟩
  intro key options ordinary
  have sealedPath := Url.sealed_of_parse spelt
  obtain ⟨url, leads, site, sealedUrl, path, query, fragment⟩ :=
    ordinary.exists_url sealedPath wait token options
  refine ⟨url, leads, site, path, query, fragment, waitIndexOf_queryFor wait options, ?_⟩
  intro other options' url' ordinary' leads' same
  obtain ⟨v, leadsThere, site', sealedUrl', path', -⟩ :=
    ordinary'.exists_url sealedPath wait token options'
  obtain rfl := Except.ok.inj (leadsThere.symm.trans leads')
  -- Both URLs are of the endpoint's site, so that one text means one path.
  have one := ((site'.trans site.symm).eq_of_text sealedUrl' sealedUrl same).1
  rw [path', path] at one
  exact String.append_right_inj _ |>.1 one

/-- An endpoint with a path, a query and a fragment of its own. -/
def pathEndpoint : String := "http://198.51.100.5/consul?dc=1#z"

/-- Its URL. -/
def pathUrl : Url :=
  ⟨"http", "", none, .address (.v4 #v[198, 51, 100, 5]), none, ["consul", ""], some "dc=1", some "z"⟩

/-- Empty segments of a key stay where they are, and tell it from the key without them. -/
theorem ordinary_key_named_emptySegments :
    parseEndpoint pathEndpoint = .ok pathUrl ∧ Ordinary "//service//pg.v2/" ∧
      Ordinary "service/pg.v2" ∧
      ∃ c, Consul.new pathEndpoint (.ofSeconds 1) (some "token") = .ok c ∧
        ∃ url, c.url "//service//pg.v2/" ⟨true, 7⟩ = .ok url ∧
          pathText url.path = "/consul/v1/kv/service//pg.v2/" ∧
          url.query = some "consistent&index=7&wait=1000ms" ∧ url.fragment = none ∧
          waitIndexOf "consistent&index=7&wait=1000ms" = 7 ∧
          ∀ options' url', c.url "service/pg.v2" options' = .ok url' → url'.text ≠ url.text := by
  have accepted : parseEndpoint pathEndpoint = .ok pathUrl :=
    eq_ok_of_toOption (by decide +kernel)
  have spelt : Url.parse pathEndpoint = .ok (some { pathUrl with path := ["consul"] }) :=
    eq_ok_of_toOption (by decide +kernel)
  have long : Ordinary "//service//pg.v2/" := by
    constructor
    · simp [Url.Plain, isUnreserved]
    · simp [List.splitOn_cons_eq_if_modifyHead]
  have short : Ordinary "service/pg.v2" := by
    constructor
    · simp [Url.Plain, isUnreserved]
    · simp [List.splitOn_cons_eq_if_modifyHead]
  have query : queryFor (.ofSeconds 1) ⟨true, 7⟩ = "consistent&index=7&wait=1000ms" := by
    decide +kernel
  obtain ⟨c, u, made, parsed, names⟩ :=
    ordinary_key_named accepted (.ofSeconds 1) (some "token")
  obtain ⟨url, leads, -, path, asks, fragment, index, apart⟩ :=
    names "//service//pg.v2/" ⟨true, 7⟩ long
  rw [spelt] at parsed
  obtain rfl := Option.some.inj (Except.ok.inj parsed)
  rw [query] at asks index
  refine ⟨accepted, long, short, c, made, url, leads, ?_, asks, fragment, index, ?_⟩
  · rw [path]
    decide +kernel
  · intro options' url' leads' same
    exact absurd (apart "service/pg.v2" options' url' short leads' same) (by decide +kernel)

end FloatingIp.Consul
