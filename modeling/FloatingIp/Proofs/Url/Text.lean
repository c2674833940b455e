import FloatingIp.Proofs.Url.Path
import FloatingIp.Proofs.Url.Reference

/-!
# Texts of URLs of one site

The texts of two URLs of one site begin alike, up to their paths.  A path ends where its text says so,
if it is sealed, so URLs of one site with one text have one path, and one query if they have no
fragment (`SameSite.eq_of_text`).
-/

namespace FloatingIp.Url

/-- What follows the path in the text of a URL. -/
def tailText (u : Url) : String :=
  (u.query.map ("?" ++ ·)).getD "" ++ (u.fragment.map ("#" ++ ·)).getD ""

/-- The text of a URL ends in its path and what follows that. -/
lemma text_eq (u : Url) :
    u.text = u.scheme ++ "://" ++ u.userinfoText ++ u.hostText ++
      (pathText u.path ++ u.tailText) := by
  simp [text, target, tailText, String.append_assoc]

/-- What follows a path begins with what ends it. -/
lemma endsPath_of_head_tailText (u : Url) {c : Char} (head : u.tailText.toList.head? = some c) :
    endsPath c = true := by
  unfold tailText at head
  cases query : u.query with
  | some q =>
      obtain rfl : c = '?' := by simpa [query] using head.symm
      rfl
  | none =>
      cases fragment : u.fragment with
      | some f =>
          obtain rfl : c = '#' := by simpa [query, fragment] using head.symm
          rfl
      | none => simp [query, fragment] at head

variable {u v : Url}

/-- URLs of one site with one text go on alike behind their hosts. -/
lemma SameSite.rest_eq (site : u.SameSite v) (same : u.text = v.text) :
    pathText u.path ++ u.tailText = pathText v.path ++ v.tailText := by
  have userinfo : u.userinfoText = v.userinfoText := by
    simp [userinfoText, site.username, site.password]
  have host : u.hostText = v.hostText := by
    simp [hostText, site.host, site.port]
  rw [text_eq, text_eq, site.scheme, userinfo, host] at same
  exact String.append_right_inj _ |>.1 same

/-- **URLs of one site with one text have one path**, and the same behind it. -/
theorem SameSite.eq_of_text (site : u.SameSite v) (sealed : ∀ s ∈ u.path, Sealed s)
    (sealed' : ∀ s ∈ v.path, Sealed s) (same : u.text = v.text) :
    pathText u.path = pathText v.path ∧ u.tailText = v.tailText := by
  have letters := congrArg String.toList (site.rest_eq same)
  rw [String.toList_append, String.toList_append] at letters
  have inPath : ∀ {w : Url}, (∀ s ∈ w.path, Sealed s) → ∀ c ∈ (pathText w.path).toList,
      (fun c => !endsPath c) c = true := by
    intro w whole c mem
    simp [endsPath_of_mem_pathText whole mem]
  have stops : ∀ w : Url, ∀ c, w.tailText.toList.head? = some c →
      (fun c => !endsPath c) c = false := by
    intro w c head
    simp [endsPath_of_head_tailText w head]
  have parts :=
    Text.append_inj_of_span (inPath sealed) (stops u) (inPath sealed') (stops v) letters
  exact ⟨String.toList_inj.1 parts.1, String.toList_inj.1 parts.2⟩

end FloatingIp.Url
