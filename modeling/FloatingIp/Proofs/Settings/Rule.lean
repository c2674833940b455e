import FloatingIp.Settings.Loading
import Mathlib.Tactic.Lemma

/-!
# Settings that satisfy their rules

Of settings that break rules only one section is blamed, but they are accepted exactly if they
satisfy all rules, and then as they were read.  What the rules demand is put into numbers here
(`Rule.Demands`).
-/

namespace FloatingIp.Settings

/-- A section is blamed exactly if a rule of it is broken. -/
lemma blamedIn_eq_nil_iff {d : Diligence} {s : Settings} {p : Part} :
    s.blamedIn d p = [] ↔ s.brokenIn p = [] := by
  constructor
  · intro none
    rw [blamedIn, List.filter_eq_nil_iff] at none
    simp only [Bool.or_eq_true, Bool.not_eq_true', not_or, Bool.not_eq_false] at none
    -- what is broken is about the section as a whole, and so the section is looked at as a whole
    have looks : d.looksAtWhole s p = true := by
      cases d with
      | thorough => rfl
      | sparing => exact List.all_eq_true.2 fun r mem => (none r mem).1
    exact List.eq_nil_iff_forall_not_mem.2 fun r mem => (none r mem).2 looks
  · intro none
    rw [blamedIn, none]
    rfl

/-- No rule is blamed exactly if none of any section is broken. -/
lemma blamed_eq_nil_iff_brokenIn {d : Diligence} {s : Settings} :
    s.blamed d = [] ↔ ∀ p, s.brokenIn p = [] := by
  have parts : ∀ p, p ∈ Part.all := fun p => by cases p <;> decide
  rw [blamed]
  cases found : (Part.all.map (s.blamedIn d)).find? fun rs => !rs.isEmpty with
  | none =>
      rw [List.find?_eq_none] at found
      refine iff_of_true rfl fun p => (blamedIn_eq_nil_iff (d := d)).1 ?_
      simpa using found _ (List.mem_map_of_mem (parts p))
  | some rs =>
      have some : rs ≠ [] := by simpa using List.find?_some found
      obtain ⟨p, -, rfl⟩ := List.mem_map.mp (List.mem_of_find?_eq_some found)
      exact iff_of_false some fun all => some (blamedIn_eq_nil_iff.2 (all p))

/-- No rule is blamed exactly if settings satisfy all of them. -/
lemma blamed_eq_nil_iff {d : Diligence} {s : Settings} :
    s.blamed d = [] ↔ ∀ r : Rule, r.holds s = true := by
  have rules : ∀ r, r ∈ Rule.all := fun r => by cases r <;> decide
  simp only [blamed_eq_nil_iff_brokenIn, brokenIn, List.filter_eq_nil_iff, rules, forall_const,
    Bool.and_eq_true, decide_eq_true_eq, Bool.not_eq_true', not_and, Bool.not_eq_false]
  exact ⟨fun all r => all r.part r rfl, fun all _ r _ => all r⟩

/-- Settings break no rule exactly if they satisfy all of them. -/
lemma broken_eq_nil_iff {s : Settings} : s.broken = [] ↔ ∀ r : Rule, r.holds s = true :=
  blamed_eq_nil_iff

/-! ### Demands -/

/-- The longest prefix of a network of an address's family. -/
def longestPrefix : Net.Address → Nat
  | .v4 _ => 32
  | .v6 _ => 128

/-- What a rule demands of settings; times are in nanoseconds. -/
def Rule.Demands (s : Settings) : Rule → Prop
  | prefixLen => s.holding.prefixLen.toNat ≤ longestPrefix s.holding.address
  | interface => 1 ≤ s.holding.interface.length ∧ s.holding.interface.length ≤ 15
  | nodeName => s.node ≠ ""
  | endpoint => ∃ base, Consul.parseEndpoint s.store.endpoint = .ok base
  | key => s.store.key ≠ ""
  | waitTime => 100000000 ≤ s.store.waitTime.nanos ∧ s.store.waitTime.nanos ≤ 600000000000
  | recheckInterval =>
    100000000 ≤ s.timing.recheckInterval.nanos ∧ s.timing.recheckInterval.nanos ≤ 3600000000000
  | retryDelay => 10000000 ≤ s.timing.retryDelay.nanos ∧ s.timing.retryDelay.nanos ≤ 60000000000
  | channelSize => 1 ≤ s.timing.channelSize ∧ s.timing.channelSize ≤ 1000
  | probeCount => 1 ≤ s.probe.count ∧ s.probe.count ≤ 10
  | probeTimeout => 100000000 ≤ s.probe.timeout.nanos ∧ s.probe.timeout.nanos ≤ 30000000000

/-- A prefix length is compared with that of the longest prefix of the family. -/
lemma prefixLen_le_iff (n : UInt8) (a : Net.Address) :
    n ≤ a.maxPrefixLen ↔ n.toNat ≤ longestPrefix a := by
  cases a with
  | v4 _ => exact UInt8.le_iff_toNat_le
  | v6 _ => exact UInt8.le_iff_toNat_le

/-- A text has a character exactly if it is not empty. -/
lemma one_le_length_iff {s : String} : 1 ≤ s.length ↔ s ≠ "" := by
  rw [Nat.one_le_iff_ne_zero, Ne, String.length_eq_zero_iff]

/-- A duration lies in a range exactly if its nanoseconds do. -/
lemma isWithin_iff {d least greatest : Duration} :
    d.isWithin least greatest = true ↔ least.nanos ≤ d.nanos ∧ d.nanos ≤ greatest.nanos := by
  rw [Duration.isWithin, Bool.and_eq_true, decide_eq_true_eq, decide_eq_true_eq]

/-- Settings satisfy a rule exactly if they meet what it demands. -/
lemma Rule.holds_iff_demands (s : Settings) (r : Rule) : r.holds s = true ↔ r.Demands s := by
  cases r with
  | prefixLen => simp only [holds, Demands, decide_eq_true_eq, prefixLen_le_iff]
  | nodeName => simp only [holds, Demands, decide_eq_true_eq, one_le_length_iff]
  | key => simp only [holds, Demands, decide_eq_true_eq, one_le_length_iff]
  | endpoint =>
      unfold holds Demands
      cases Consul.parseEndpoint s.store.endpoint with
      | ok base => simp
      | error fault => simp
  | interface => simp only [holds, Demands, Bool.and_eq_true, decide_eq_true_eq]
  | channelSize => simp only [holds, Demands, Bool.and_eq_true, decide_eq_true_eq]
  | probeCount => simp only [holds, Demands, Bool.and_eq_true, decide_eq_true_eq]
  | waitTime => exact isWithin_iff
  | recheckInterval => exact isWithin_iff
  | retryDelay => exact isWithin_iff
  | probeTimeout => exact isWithin_iff

/-- No rule is blamed exactly if settings meet all demands. -/
lemma blamed_eq_nil_iff_demands {d : Diligence} {s : Settings} :
    s.blamed d = [] ↔ ∀ r : Rule, r.Demands s := by
  simp only [blamed_eq_nil_iff, Rule.holds_iff_demands]

/-! ### Acceptance -/

/-- What is accepted is blamed for nothing, and is left as it is. -/
lemma checkedBy_eq_ok_iff {d : Diligence} {s t : Settings} :
    s.checkedBy d = .ok t ↔ s.blamed d = [] ∧ s = t := by
  rw [checkedBy]
  split <;> simp_all

/-- What is accepted breaks no rule, and is left as it is. -/
lemma checked_eq_ok_iff {s t : Settings} : s.checked = .ok t ↔ s.broken = [] ∧ s = t :=
  checkedBy_eq_ok_iff

/-- Settings are accepted as they are read, if they break no rule. -/
lemma ofYaml_eq_ok_iff {text : String} {s : Settings} :
    ofYaml text = .ok s ↔ parse text = .ok s ∧ s.broken = [] := by
  rw [ofYaml, ofYamlBy]
  cases parse text with
  | error fault => simp
  | ok t =>
      dsimp only
      rw [checkedBy_eq_ok_iff, Except.ok.injEq]
      constructor
      · rintro ⟨valid, rfl⟩
        exact ⟨rfl, valid⟩
      · rintro ⟨rfl, valid⟩
        exact ⟨valid, rfl⟩

end FloatingIp.Settings
