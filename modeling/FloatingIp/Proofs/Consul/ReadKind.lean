import FloatingIp.Proofs.Consul.KeyUrl
import FloatingIp.Proofs.Url.Path
import FloatingIp.Proofs.Url.Tail

/-!
# What a key makes of a read

A key is resolved as a reference, so that it is more than a name: a `#` in it begins a fragment, a `?`
begins a query, and `..` leads out of the directory of keys.  A read is of the kind that its options
ask for exactly if the key makes no use of that (`read_kept_iff`).
-/

namespace FloatingIp.Consul

open Url (splitPath pathPart tailPart asked pathText walk)

/-! ### The place of a key -/

/-- What counts of a key. -/
def keyText (key : String) : List Char :=
  Url.counted (key.toList.dropWhile (· = '/'))

/-- The segments of the directory that keys are read in, innermost first. -/
def keyDir (base : Url) : List String :=
  "kv" :: "v1" :: base.path.dropLast.reverse

/-- What the reference of a key leads to. -/
def keyPlace (base : Url) (key : String) : Url :=
  base.below (keyRoot ++ keyText key)

/-- The URL of a key is that of its place, with the items of the query added. -/
lemma keyUrl_eq_keyPlace (base : Url) (wait : Duration) (key : String) (options : ReadOptions) :
    keyUrl base wait key options = .ok ((keyPlace base key).addQuery (queryItems wait options)) := by
  rw [keyUrl_eq, significant_keyReference]
  rfl

/-- In front of a key nothing ends the path. -/
lemma noEnd_of_mem_keyRoot {c : Char} (mem : c ∈ keyRoot) : (!Url.endsPath c) = true := by
  have all : ∀ c ∈ keyRoot, (!Url.endsPath c) = true := by simp [keyRoot, Url.endsPath]
  exact all c mem

/-- The tail of a key's reference is that of the key. -/
lemma tailPart_keyRoot (s : List Char) : tailPart (keyRoot ++ s) = tailPart s :=
  List.dropWhile_append_of_pos fun _ => noEnd_of_mem_keyRoot

/-- The path of a key's reference ends in that of the key. -/
lemma pathPart_keyRoot (s : List Char) : pathPart (keyRoot ++ s) = keyRoot ++ pathPart s :=
  List.takeWhile_append_of_pos fun _ => noEnd_of_mem_keyRoot

/-- The parts of a key's reference begin with those of the directory of keys. -/
lemma splitPath_keyRoot (s : List Char) :
    splitPath (keyRoot ++ s) = "v1".toList :: "kv".toList :: splitPath s := by
  have letters : keyRoot ++ s = "v1".toList ++ '/' :: ("kv".toList ++ '/' :: s) := by
    simp [keyRoot]
  have first : ∀ c ∈ "v1".toList, Url.isSlash c = false := by simp [Url.isSlash]
  have second : ∀ c ∈ "kv".toList, Url.isSlash c = false := by simp [Url.isSlash]
  rw [letters, Url.splitPath_eq_splitOnP,
    List.splitOnP_append_cons_of_forall_mem first '/' (by decide),
    List.splitOnP_append_cons_of_forall_mem second '/' (by decide), Url.splitPath_eq_splitOnP]

/-- The path of a key is walked from the directory of keys. -/
lemma path_keyPlace (base : Url) (key : String) :
    (keyPlace base key).path = walk (keyDir base) (splitPath (pathPart (keyText key))) := by
  have first : Url.enter base.path.dropLast.reverse "v1".toList =
      "v1" :: base.path.dropLast.reverse := by rfl
  have second : Url.enter ("v1" :: base.path.dropLast.reverse) "kv".toList = keyDir base := by rfl
  rw [keyPlace, Url.path_below, pathPart_keyRoot, splitPath_keyRoot, Url.walk_cons _ _ (by simp),
    Url.walk_cons _ _ (by simp), first, second]

/-- The query of a key is what it asks. -/
lemma query_keyPlace (base : Url) (key : String) :
    (keyPlace base key).query.getD "" = Url.queryText (asked (keyText key)) := by
  rw [keyPlace, Url.query_below, tailPart_keyRoot, Url.query_parseTail]

/-- A key has a fragment exactly if there is a `#` in it. -/
lemma fragment_keyPlace_eq_none_iff (base : Url) (key : String) :
    (keyPlace base key).fragment = none ↔ '#' ∉ keyText key := by
  rw [keyPlace, Url.fragment_below, tailPart_keyRoot, Url.fragment_parseTail_eq_none_iff]

/-! ### The kind of a read -/

/-- The query that read options stand for. -/
def queryFor (wait : Duration) (options : ReadOptions) : String :=
  let blocking := "index=" ++ Digits.decimal options.waitIndex ++ "&wait=" ++
    Digits.decimal wait.millis ++ "ms"
  match options.consistent, options.waitIndex with
  | true, 0 => "consistent"
  | false, 0 => ""
  | true, _ => "consistent&" ++ blocking
  | false, _ => blocking

/-- The items of a query say what the options stand for. -/
lemma intercalate_queryItems (wait : Duration) (options : ReadOptions) :
    "&".intercalate (queryItems wait options) = queryFor wait options := by
  obtain ⟨consistent, waitIndex⟩ := options
  cases consistent <;> cases waitIndex <;> simp [queryItems, queryFor, ← String.toList_inj]

/-- The items of a query are of three kinds. -/
lemma of_mem_queryItems {wait : Duration} {options : ReadOptions} {item : String}
    (mem : item ∈ queryItems wait options) :
    item = "consistent" ∨ item = "index=" ++ Digits.decimal options.waitIndex ∨
      item = "wait=" ++ Digits.decimal wait.millis ++ "ms" := by
  simp only [queryItems, List.mem_append, List.mem_ite_nil_right, List.mem_cons, List.not_mem_nil,
    or_false] at mem
  exact mem.imp And.right And.right

/-- No item of a query is empty. -/
lemma item_ne_empty {wait : Duration} {options : ReadOptions} :
    ∀ item ∈ queryItems wait options, item ≠ "" := by
  intro item mem
  rcases of_mem_queryItems mem with rfl | rfl | rfl
  · decide
  · simp
  · simp

/-- The query of a key's URL is what the options stand for exactly if the key asks nothing. -/
lemma query_addQuery_keyPlace_iff (base : Url) (wait : Duration) (key : String)
    (options : ReadOptions) :
    ((keyPlace base key).addQuery (queryItems wait options)).query =
        some (queryFor wait options) ↔
      asked (keyText key) = [] := by
  rw [← intercalate_queryItems, Url.addQuery_eq_iff _ item_ne_empty, query_keyPlace,
    Url.queryText_eq_empty_iff]

/-- Whether a key names a place below the directory of keys: its path comes back there, if it ever
leaves, and does not climb above it again. -/
def StaysInside (base : Url) (key : String) : Prop :=
  ∃ front back, splitPath (pathPart (keyText key)) = front ++ back ∧ back ≠ [] ∧
    Url.ComesBack (keyDir base) front back

/-- A key that never leaves the directory of keys stays inside. -/
lemma staysInside_of_staysBelow (base : Url) {key : String}
    (below : Url.staysBelow [] (splitPath (pathPart (keyText key))) = true) :
    StaysInside base key :=
  ⟨[], splitPath (pathPart (keyText key)), (List.nil_append _).symm, Url.splitPath_ne_nil _, rfl,
    below⟩

/-- The text of the directory of keys is that of the endpoint and `v1/kv/`. -/
lemma pathText_keyDir {base : Url} (directory : ∃ dir, base.path = dir ++ [""]) :
    pathText (keyDir base).reverse ++ "/" = pathText base.path ++ "v1/kv/" := by
  obtain ⟨dir, path⟩ := directory
  simp [keyDir, path, ← String.toList_inj]

/-- The directory of keys is sealed if the endpoint is. -/
lemma sealed_keyDir {base : Url} (sealedBase : ∀ s ∈ base.path, Url.Sealed s) :
    ∀ s ∈ keyDir base, Url.Sealed s := by
  intro s mem
  simp only [keyDir, List.mem_cons, List.mem_reverse] at mem
  rcases mem with rfl | rfl | mem
  · simp [Url.Sealed, Url.isSlash, Url.endsPath]
  · simp [Url.Sealed, Url.isSlash, Url.endsPath]
  · exact sealedBase s (List.dropLast_subset _ mem)

/-- So is the path of a key. -/
lemma sealed_keyPlace {base : Url} (sealedBase : ∀ s ∈ base.path, Url.Sealed s) (key : String) :
    ∀ s ∈ (keyPlace base key).path, Url.Sealed s := by
  rw [path_keyPlace]
  exact Url.sealed_walk (sealed_keyDir sealedBase) _

/-- The path of a key lies below the directory of keys exactly if the key stays inside. -/
lemma below_keyDir_iff {base : Url} (sealedBase : ∀ s ∈ base.path, Url.Sealed s)
    (directory : ∃ dir, base.path = dir ++ [""]) (key : String) :
    (∃ rest, pathText (keyPlace base key).path = pathText base.path ++ "v1/kv/" ++ rest) ↔
      StaysInside base key := by
  have sealedDir := sealed_keyDir sealedBase
  rw [← pathText_keyDir directory,
    Url.exists_text_iff (fun s mem => sealedDir s (List.mem_reverse.1 mem))
      (sealed_keyPlace sealedBase key),
    path_keyPlace]
  exact Url.below_walk_iff (by decide) (Url.splitPath_ne_nil _)

/-- **What a key makes of a read.** The path of its URL begins with that of the endpoint and `v1/kv/`
exactly if the key stays inside the directory of keys.  The query is the one that the options stand
for exactly if the key asks nothing of its own, and there is no fragment exactly if there is no `#`
in the key. -/
theorem read_kept_iff {endpoint : String} {base : Url}
    (accepted : parseEndpoint endpoint = .ok base) (wait : Duration) (token : Option String) :
    ∃ c, Consul.new endpoint wait token = .ok c ∧
      ∀ (key : String) (options : ReadOptions),
        ∃ url, c.url key options = .ok url ∧
          ((∃ rest, pathText url.path = pathText base.path ++ "v1/kv/" ++ rest) ↔
            StaysInside base key) ∧
          (url.query = some (queryFor wait options) ↔ asked (keyText key) = []) ∧
          (url.fragment = none ↔ '#' ∉ keyText key) := by
  refine ⟨_, new_of_accepted accepted wait token, ?_⟩
  intro key options
  obtain ⟨u, spelt, -, rfl⟩ := parseEndpoint_eq_ok.1 accepted
  refine ⟨(keyPlace u.closePath key).addQuery (queryItems wait options), ?_, ?_, ?_, ?_⟩
  · rw [Consul.url, keyUrl_eq_keyPlace]
  · rw [Url.path_addQuery]
    exact below_keyDir_iff (Url.sealed_closePath (Url.sealed_of_parse spelt))
      (Url.exists_closePath u) key
  · exact query_addQuery_keyPlace_iff u.closePath wait key options
  · rw [Url.fragment_addQuery]
    exact fragment_keyPlace_eq_none_iff u.closePath key

/-- A key that climbs without leaving the directory of keys still asks for more than it should. -/
theorem read_kept_iff_climbsAndAsks :
    parseEndpoint guardedEndpoint = .ok guardedUrl ∧
      ∃ c, Consul.new guardedEndpoint (.ofSeconds 1) (some "token") = .ok c ∧
        ∃ url, c.url "pg/../leader?stale" .standard = .ok url ∧
          (∃ rest, pathText url.path = pathText guardedUrl.path ++ "v1/kv/" ++ rest) ∧
          url.query ≠ some (queryFor (.ofSeconds 1) .standard) ∧ url.fragment = none := by
  have accepted : parseEndpoint guardedEndpoint = .ok guardedUrl :=
    eq_ok_of_toOption (by decide +kernel)
  obtain ⟨c, made, reads⟩ := read_kept_iff accepted (.ofSeconds 1) (some "token")
  obtain ⟨url, leads, path, query, fragment⟩ := reads "pg/../leader?stale" .standard
  have inside : StaysInside guardedUrl "pg/../leader?stale" :=
    staysInside_of_staysBelow guardedUrl (by decide +kernel)
  exact ⟨accepted, c, made, url, leads, path.2 inside, query.not.2 (by decide +kernel),
    fragment.2 (by decide +kernel)⟩

/-- An endpoint without a path. -/
def localEndpoint : String := "http://127.0.0.1:8500"

/-- Its URL. -/
def localUrl : Url :=
  { guardedUrl with username := "", password := none, path := [""] }

/-- There are keys that ask for another kind of read, that leave the directory of keys and that
have a fragment. -/
theorem key_changes_read :
    parseEndpoint localEndpoint = .ok localUrl ∧
      ∃ c, Consul.new localEndpoint (.ofSeconds 1) none = .ok c ∧
        queryFor (.ofSeconds 1) .standard = "consistent" ∧
        (∃ url, c.url "leader?stale" .standard = .ok url ∧
          url.query = some "stale&consistent") ∧
        (∃ url, c.url "../leader" .standard = .ok url ∧ pathText url.path = "/v1/leader") ∧
        ∃ url, c.url "leader#1" .standard = .ok url ∧ url.fragment = some "1" := by
  have accepted : parseEndpoint localEndpoint = .ok localUrl :=
    eq_ok_of_toOption (by decide +kernel)
  refine ⟨accepted, _, new_of_accepted accepted _ none, rfl, ?_, ?_, ?_⟩
  · exact ⟨{ localUrl with path := ["v1", "kv", "leader"], query := some "stale&consistent" },
      eq_ok_of_toOption (by decide +kernel), rfl⟩
  · exact ⟨{ localUrl with path := ["v1", "leader"], query := some "consistent" },
      eq_ok_of_toOption (by decide +kernel), by decide +kernel⟩
  · exact ⟨{ localUrl with
        path := ["v1", "kv", "leader"], query := some "consistent", fragment := some "1" },
      eq_ok_of_toOption (by decide +kernel), rfl⟩

end FloatingIp.Consul
