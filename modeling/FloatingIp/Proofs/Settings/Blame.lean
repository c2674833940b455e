import FloatingIp.Proofs.Except
import FloatingIp.Proofs.Settings.Rule

/-!
# Which rules are blamed

Settings that do not meet all demands are refused with broken rules of one section: the first one that
has any.  There all rules of fields that are broken are told, and each that is told is broken.  The
rule for the section as a whole is told with them by a thorough validator; by a sparing one it is told
only where the fields are in order (`first_broken_section_blamed`).  What a rule demands is
`Rule.Demands`.
-/

namespace FloatingIp.Settings

/-- A rule is broken in a section exactly if it belongs there and what it demands is not met. -/
lemma mem_brokenIn_iff {s : Settings} {p : Part} {r : Rule} :
    r ∈ s.brokenIn p ↔ r.part = p ∧ ¬r.Demands s := by
  have rules : r ∈ Rule.all := by cases r <;> decide
  rw [brokenIn, List.mem_filter, Bool.and_eq_true, decide_eq_true_eq, Bool.not_eq_true',
    ← Rule.holds_iff_demands, Bool.not_eq_true]
  exact ⟨fun broken => broken.2, fun broken => ⟨rules, broken⟩⟩

/-- No rule is broken in a section exactly if the demands of its rules are met. -/
lemma brokenIn_eq_nil_iff {s : Settings} {p : Part} :
    s.brokenIn p = [] ↔ ∀ r : Rule, r.part = p → r.Demands s := by
  simp only [List.eq_nil_iff_forall_not_mem, mem_brokenIn_iff, not_and, Classical.not_not]

/-- The section of the address is looked at as a whole by a thorough validator, and by any if the
name of the interface is in order. -/
lemma looksAtWhole_holding_iff {d : Diligence} {s : Settings} :
    d.looksAtWhole s .holding = true ↔ d = .thorough ∨ Rule.interface.Demands s := by
  cases d with
  | thorough => simp [Diligence.looksAtWhole]
  | sparing =>
      simp only [Diligence.looksAtWhole, List.all_eq_true, mem_brokenIn_iff, reduceCtorEq, false_or]
      constructor
      · intro whole
        apply Classical.byContradiction
        intro unmet
        exact Bool.false_ne_true (whole .interface ⟨rfl, unmet⟩)
      · rintro met r ⟨here, unmet⟩
        cases r with
        | prefixLen => rfl
        | interface => exact absurd met unmet
        | _ => cases here

/-- Every rule that is blamed in a section belongs there and is broken. -/
lemma of_mem_blamedIn {d : Diligence} {s : Settings} {p : Part} {r : Rule}
    (mem : r ∈ s.blamedIn d p) : r.part = p ∧ ¬r.Demands s :=
  mem_brokenIn_iff.1 (List.mem_filter.1 mem).1

/-- A rule for a field is blamed in a section exactly if it is broken there. -/
lemma mem_blamedIn_iff_of_ne {d : Diligence} {s : Settings} {p : Part} {r : Rule}
    (field : r ≠ .prefixLen) : r ∈ s.blamedIn d p ↔ r.part = p ∧ ¬r.Demands s := by
  have single : r.isWhole = false := by
    cases r with
    | prefixLen => exact absurd rfl field
    | _ => rfl
  rw [blamedIn, List.mem_filter, mem_brokenIn_iff, single]
  simp

/-- The prefix is blamed exactly if it is too long and the section is looked at as a whole. -/
lemma prefixLen_mem_blamedIn_iff {d : Diligence} {s : Settings} {p : Part} :
    Rule.prefixLen ∈ s.blamedIn d p ↔
      p = .holding ∧ ¬Rule.prefixLen.Demands s ∧ (d = .thorough ∨ Rule.interface.Demands s) := by
  rw [blamedIn, List.mem_filter, mem_brokenIn_iff, ← looksAtWhole_holding_iff]
  constructor
  · rintro ⟨⟨rfl, unmet⟩, looks⟩
    exact ⟨rfl, unmet, looks⟩
  · rintro ⟨rfl, unmet, looks⟩
    exact ⟨⟨rfl, unmet⟩, looks⟩

/-- No two rules that are blamed in a section are about one field. -/
lemma nodup_fields (d : Diligence) (s : Settings) (p : Part) :
    ((s.blamedIn d p).map Rule.field).Nodup := by
  have all : (Rule.all.map Rule.field).Nodup := by decide
  exact all.sublist ((List.filter_sublist.trans List.filter_sublist).map Rule.field)

/-- The rules that are blamed are those of the first section that has any. -/
lemma exists_first_blamed {d : Diligence} {s : Settings} (some : s.blamed d ≠ []) :
    ∃ front p back, Part.all = front ++ p :: back ∧ s.blamed d = s.blamedIn d p ∧
      ∀ q ∈ front, s.brokenIn q = [] := by
  have found : s.blamed d =
      ((Part.all.find? fun p => !(s.blamedIn d p).isEmpty).map (s.blamedIn d)).getD [] := by
    rw [blamed, List.find?_map]
    rfl
  cases first : Part.all.find? fun p => !(s.blamedIn d p).isEmpty with
  | none =>
      rw [first] at found
      exact absurd found some
  | some p =>
      rw [first] at found
      obtain ⟨-, front, back, parts, before⟩ := List.find?_eq_some_iff_append.1 first
      refine ⟨front, p, back, parts, found, fun q mem => ?_⟩
      exact (blamedIn_eq_nil_iff (d := d)).1 (by simpa using before q mem)

/-- What was read is checked. -/
lemma ofYamlBy_of_parse {text : String} {s : Settings} (read : parse text = .ok s)
    (d : Diligence) : ofYamlBy d text = s.checkedBy d := by
  rw [ofYamlBy, read]

/-- Settings that are blamed for anything are refused with that. -/
lemma checkedBy_of_blamed {d : Diligence} {s : Settings} (some : s.blamed d ≠ []) :
    s.checkedBy d = .error (.invalid (s.blamed d)) :=
  if_neg (by simpa using some)

/-- **Settings are accepted exactly if they meet all demands, and otherwise blamed for the first
section that has a broken rule.** All rules that are told are broken rules of that section, and all
its broken rules for fields are told; the sections before it meet all demands.  A prefix that is too
long is told with a broken name of the interface by a thorough validator, and without one by any.
Each field is blamed once. -/
theorem first_broken_section_blamed {text : String} {s : Settings} (read : parse text = .ok s)
    (d : Diligence) :
    ((∃ t, ofYamlBy d text = .ok t) ↔ ∀ r : Rule, r.Demands s) ∧
      (∀ t, ofYamlBy d text = .ok t → t = s) ∧
      ((∃ r : Rule, ¬r.Demands s) →
        ∃ rules front p back, ofYamlBy d text = .error (.invalid rules) ∧ rules ≠ [] ∧
          [.holding, .node, .store, .timing, .probe] = front ++ p :: back ∧
          (∀ r : Rule, r.part ∈ front → r.Demands s) ∧
          (∀ r ∈ rules, r.part = p ∧ ¬r.Demands s) ∧
          (∀ r : Rule, r ≠ .prefixLen → r.part = p → ¬r.Demands s → r ∈ rules) ∧
          (.prefixLen ∈ rules ↔ p = .holding ∧ ¬Rule.prefixLen.Demands s ∧
            (d = .thorough ∨ Rule.interface.Demands s)) ∧
          (rules.map Rule.field).Nodup) := by
  have checks : ∀ t, ofYamlBy d text = .ok t ↔ (∀ r : Rule, r.Demands s) ∧ s = t := by
    intro t
    rw [ofYamlBy_of_parse read, checkedBy_eq_ok_iff, blamed_eq_nil_iff_demands]
  refine ⟨?_, ?_, ?_⟩
  · constructor
    · rintro ⟨t, accepted⟩
      exact ((checks t).1 accepted).1
    · intro all
      exact ⟨s, (checks s).2 ⟨all, rfl⟩⟩
  · intro t accepted
    exact ((checks t).1 accepted).2.symm
  · rintro ⟨r, unmet⟩
    have some : s.blamed d ≠ [] := fun none => unmet (blamed_eq_nil_iff_demands.1 none r)
    obtain ⟨front, p, back, parts, same, before⟩ := exists_first_blamed some
    refine ⟨s.blamed d, front, p, back, ?_, some, parts, ?_, ?_, ?_, ?_, ?_⟩
    · rw [ofYamlBy_of_parse read, checkedBy_of_blamed some]
    · intro r mem
      exact brokenIn_eq_nil_iff.1 (before _ mem) r rfl
    · intro r mem
      rw [same] at mem
      exact of_mem_blamedIn mem
    · intro r field here unmet
      rw [same]
      exact (mem_blamedIn_iff_of_ne field).2 ⟨here, unmet⟩
    · rw [same]
      exact prefixLen_mem_blamedIn_iff
    · rw [same]
      exact nodup_fields d s p

/-- Settings with broken rules in three sections, and with both of the first one. -/
def brokenText : String :=
  "vip: \x7baddress: 203.0.113.4, prefix_len: 33, interface: ''\x7d\n" ++
  "node: \x7bname: ''\x7d\n" ++
  "consul: \x7bkey: leader\x7d\n" ++
  "probe: \x7bcount: 0\x7d\n"

/-- What they say. -/
def brokenSample : Settings where
  holding := ⟨.v4 #v[203, 0, 113, 4], 33, ""⟩
  node := ""
  store := ⟨standardEndpoint, "leader", standardWaitTime, none⟩
  timing := .standard
  probe := ⟨false, 0, .ofSeconds 3⟩
  commands := .standard
  logging := .standard

/-- Whoever reads them blames the interface and neither the node nor the probe; the prefix is blamed
with the interface by a thorough validator, and left out by a sparing one. -/
theorem first_broken_section_blamed_interface :
    parse brokenText = .ok brokenSample ∧ (∃ r : Rule, ¬r.Demands brokenSample) ∧
      ofYamlBy .thorough brokenText = .error (.invalid [.prefixLen, .interface]) ∧
      ofYamlBy .sparing brokenText = .error (.invalid [.interface]) ∧
      ∀ d, ∃ rules, ofYamlBy d brokenText = .error (.invalid rules) ∧ .interface ∈ rules ∧
        .nodeName ∉ rules ∧ (.prefixLen ∈ rules ↔ d = .thorough) := by
  have read : parse brokenText = .ok brokenSample :=
    eq_ok_of_toOption (by decide +kernel)
  have name : ¬Rule.interface.Demands brokenSample := by simp [Rule.Demands, brokenSample]
  have long : ¬Rule.prefixLen.Demands brokenSample := by
    simp [Rule.Demands, brokenSample, longestPrefix]
  have thorough : brokenSample.blamed .thorough = [.prefixLen, .interface] := by decide +kernel
  have sparing : brokenSample.blamed .sparing = [.interface] := by decide +kernel
  refine ⟨read, ⟨.interface, name⟩, ?_, ?_, ?_⟩
  · rw [ofYamlBy_of_parse read, checkedBy_of_blamed (by simp [thorough]), thorough]
  · rw [ofYamlBy_of_parse read, checkedBy_of_blamed (by simp [sparing]), sparing]
  · intro d
    obtain ⟨rules, front, p, back, refused, -, parts, before, own, fields, whole, -⟩ :=
      (first_broken_section_blamed read d).2.2 ⟨.interface, name⟩
    cases front with
    | cons q front =>
        obtain rfl : Part.holding = q := (List.cons.inj parts).1
        exact absurd (before .interface (by simp [Rule.part])) name
    | nil =>
        obtain rfl : Part.holding = p := (List.cons.inj parts).1
        refine ⟨rules, refused, fields .interface (by decide) rfl name, ?_, ?_⟩
        · intro mem
          cases (own .nodeName mem).1
        · rw [whole]
          simp [long, name]

end FloatingIp.Settings
