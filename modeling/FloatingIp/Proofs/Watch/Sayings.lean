import FloatingIp.Watch
import Mathlib.Data.List.Destutter
import Mathlib.Tactic.Lemma

/-!
# What there is to say of the results of reads

What a watch is to say of the results of its reads is a matter of these results alone, and two
passages over the list of markers describe it: of the markers the new ones are kept, those whose
version is another than that of the marker kept before, and of their answers the changes, those
that differ from the one before (`sayings`).  Reads without a marker have no part in it.

Markers of one version are taken for one write of the store.  If they are, passing them over loses
nothing, and the sayings are the changes among the answers of all markers (`sayings_of_honest`).
-/

namespace FloatingIp

/-! ### Keeping every element that differs from the last one kept -/

section Destutter

variable {α : Type} (R : α → α → Prop) [DecidableRel R]

/-- A further element is kept if it is related to the last one kept. -/
lemma destutter'_concat (l : List α) (a b : α) :
    (l ++ [b]).destutter' R a =
      l.destutter' R a ++ if ∀ c ∈ (l.destutter' R a).getLast?, R c b then [b] else [] := by
  induction l generalizing a with
  | nil => by_cases h : R a b <;> simp [h]
  | cons c l ih =>
      by_cases h : R a c
      · obtain ⟨last, hlast⟩ : ∃ last, (l.destutter' R c).getLast? = some last :=
          Option.isSome_iff_exists.mp (List.getLast?_isSome.mpr (List.destutter'_ne_nil l R))
        rw [List.cons_append, List.destutter'_cons_pos _ h, List.destutter'_cons_pos _ h, ih,
          List.getLast?_cons, hlast]
        rfl
      · rw [List.cons_append, List.destutter'_cons_neg _ h, List.destutter'_cons_neg _ h, ih]

/-- A further element is kept if it is related to the last one kept, or is the first. -/
lemma destutter_concat (l : List α) (b : α) :
    (l ++ [b]).destutter R =
      l.destutter R ++ if ∀ c ∈ (l.destutter R).getLast?, R c b then [b] else [] := by
  cases l with
  | nil => simp
  | cons a l => exact destutter'_concat R l a b

variable {R}

/-- A further element that is not related to the last one kept changes nothing. -/
lemma destutter_concat_of_not {l : List α} {a b : α} (last : (l.destutter R).getLast? = some a)
    (unrelated : ¬R a b) : (l ++ [b]).destutter R = l.destutter R := by
  rw [destutter_concat, last]
  simp [unrelated]

/-- A further element that is related to the last one kept is kept. -/
lemma destutter_concat_of_rel {l : List α} {b : α}
    (related : ∀ a, (l.destutter R).getLast? = some a → R a b) :
    (l ++ [b]).destutter R = l.destutter R ++ [b] := by
  rw [destutter_concat]
  exact congrArg (l.destutter R ++ ·) (if_pos related)

/-- Where equal neighbours are passed over, the last element is kept or equal to the last kept. -/
lemma getLast?_destutter_ne [DecidableEq α] (l : List α) :
    (l.destutter (· ≠ ·)).getLast? = l.getLast? := by
  induction l using List.reverseRecOn with
  | nil => rfl
  | append_singleton l b ih =>
      by_cases still : (l.destutter (· ≠ ·)).getLast? = some b
      · rw [destutter_concat_of_not still (not_not_intro rfl), still, List.getLast?_concat]
      · have kept : (l ++ [b]).destutter (· ≠ ·) = l.destutter (· ≠ ·) ++ [b] :=
          destutter_concat_of_rel fun a last same => still (by rw [last, same])
        rw [kept, List.getLast?_concat, List.getLast?_concat]

end Destutter

/-! ### The sayings -/

/-- The marker that a read has found, if it has found one. -/
def ReadResult.marker? : ReadResult → Option Marker
  | .marker m => some m
  | _ => none

/-- The markers that reads have found, in order. -/
def markers (results : List ReadResult) : List Marker :=
  results.filterMap ReadResult.marker?

/-- The markers that are new: the first one, and then each whose version is another than that of
the new marker before it. -/
def newMarkers (results : List ReadResult) : List Marker :=
  (markers results).destutter fun a b => a.version ≠ b.version

/-- What there is to say to `node`: whether each new marker names it, where that changes. -/
def sayings (node : String) (results : List ReadResult) : List Bool :=
  ((newMarkers results).map (·.names node)).destutter (· ≠ ·)

/-- What a further read has found comes last. -/
lemma markers_concat (results : List ReadResult) (r : ReadResult) :
    markers (results ++ [r]) = markers results ++ r.marker?.toList := by
  unfold markers
  rw [List.filterMap_append]
  cases r <;> rfl

/-- A read without a marker says nothing. -/
lemma newMarkers_concat_of_none {results : List ReadResult} {r : ReadResult}
    (nothing : r.marker? = none) : newMarkers (results ++ [r]) = newMarkers results := by
  rw [newMarkers, newMarkers, markers_concat, nothing, Option.toList_none, List.append_nil]

/-- A marker of the version of the last new one is not new. -/
lemma newMarkers_concat_of_known {results : List ReadResult} {m : Marker}
    (same : (newMarkers results).getLast?.map Marker.version = some m.version) :
    newMarkers (results ++ [.marker m]) = newMarkers results := by
  obtain ⟨last, hlast, version⟩ := Option.map_eq_some_iff.mp same
  unfold newMarkers
  rw [markers_concat]
  exact destutter_concat_of_not hlast (not_not_intro version)

/-- A marker of another version than that of the last new one is new. -/
lemma newMarkers_concat_of_other {results : List ReadResult} {m : Marker}
    (other : (newMarkers results).getLast?.map Marker.version ≠ some m.version) :
    newMarkers (results ++ [.marker m]) = newMarkers results ++ [m] := by
  unfold newMarkers at other ⊢
  rw [markers_concat]
  refine destutter_concat_of_rel fun last hlast same => other ?_
  rw [hlast]
  exact congrArg some same

/-- A new marker that repeats what was said last adds nothing. -/
lemma sayings_concat_of_repeated {node : String} {results : List ReadResult} {m : Marker}
    (other : (newMarkers results).getLast?.map Marker.version ≠ some m.version)
    (still : (sayings node results).getLast? = some (m.names node)) :
    sayings node (results ++ [.marker m]) = sayings node results := by
  unfold sayings at still ⊢
  rw [newMarkers_concat_of_other other, List.map_append]
  exact destutter_concat_of_not still (not_not_intro rfl)

/-- A new marker that changes what was said last is said. -/
lemma sayings_concat_of_news {node : String} {results : List ReadResult} {m : Marker}
    (other : (newMarkers results).getLast?.map Marker.version ≠ some m.version)
    (change : (sayings node results).getLast? ≠ some (m.names node)) :
    sayings node (results ++ [.marker m]) = sayings node results ++ [m.names node] := by
  unfold sayings at change ⊢
  rw [newMarkers_concat_of_other other, List.map_append]
  exact destutter_concat_of_rel fun last hlast same => change (by rw [hlast, same])

/-- Neighbours among the sayings differ. -/
lemma isChain_sayings (node : String) (results : List ReadResult) :
    (sayings node results).IsChain (· ≠ ·) :=
  List.isChain_destutter _ _

/-- Where neighbours of one version have one value, a marker of the version of the last new one has
its value, and passing it over loses no change. -/
lemma destutter_names_of_honest (node : String) (ms : List Marker)
    (honest : ms.IsChain fun a b => a.version = b.version → a.value = b.value) :
    (((ms.destutter fun a b => a.version ≠ b.version).map (·.names node)).destutter (· ≠ ·) =
        (ms.map (·.names node)).destutter (· ≠ ·)) ∧
      (ms.destutter fun a b => a.version ≠ b.version).getLast?.map
          (fun m => (m.version, m.value)) =
        ms.getLast?.map fun m => (m.version, m.value) := by
  induction ms using List.reverseRecOn with
  | nil => exact ⟨rfl, rfl⟩
  | append_singleton ms m ih =>
      rw [List.isChain_append] at honest
      obtain ⟨before, -, seam⟩ := honest
      obtain ⟨changes, last⟩ := ih before
      by_cases known : (ms.destutter fun a b => a.version ≠ b.version).getLast?.map
          Marker.version = some m.version
      · obtain ⟨kept, hkept, version⟩ := Option.map_eq_some_iff.mp known
        rw [hkept] at last
        obtain ⟨p, hp, same⟩ := Option.map_eq_some_iff.mp last.symm
        obtain ⟨pversion, pvalue⟩ := Prod.mk.inj same
        have value : p.value = m.value := seam p hp m rfl (pversion.trans version)
        have still : ((ms.map (·.names node)).destutter (· ≠ ·)).getLast? =
            some (m.names node) := by
          rw [getLast?_destutter_ne, List.getLast?_map, hp]
          simp [Marker.names, value]
        rw [destutter_concat_of_not hkept (not_not_intro version), List.map_append,
          List.map_singleton, destutter_concat_of_not still (not_not_intro rfl), hkept,
          List.getLast?_concat]
        exact ⟨changes, by simp [version, ← value, pvalue]⟩
      · have new : (ms ++ [m]).destutter (fun a b => a.version ≠ b.version) =
            (ms.destutter fun a b => a.version ≠ b.version) ++ [m] :=
          destutter_concat_of_rel fun a hlast same => known (by rw [hlast, ← same]; rfl)
        rw [new, List.map_append, List.map_append, List.map_singleton, destutter_concat,
          destutter_concat, changes, List.getLast?_concat, List.getLast?_concat]
        exact ⟨rfl, rfl⟩

/-- Where neighbours of one version have one value, the sayings are the changes among the answers
of all markers. -/
lemma sayings_of_honest {node : String} {results : List ReadResult}
    (honest : (markers results).IsChain fun a b => a.version = b.version → a.value = b.value) :
    sayings node results = ((markers results).map (·.names node)).destutter (· ≠ ·) :=
  (destutter_names_of_honest node (markers results) honest).1

end FloatingIp
