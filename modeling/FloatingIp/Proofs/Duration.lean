import FloatingIp.Duration
import FloatingIp.Proofs.Digits
import FloatingIp.Proofs.Text.Blank

/-!
# Durations read back from their text

The text of a duration is amounts of decreasing units with blanks between them.  Each amount is read
off the front again, with its number and its unit, and the amounts add up to the duration to the
nanosecond.  So a duration is read back from its text if its seconds fit into 64 bits
(`ofText?_text`), which is all that the reader can hold.
-/

namespace FloatingIp.Duration

/-! ### Units -/

namespace TimeUnit

/-- The names of a unit are made of letters, and each of them names the unit. -/
lemma of_mem_names {u : TimeUnit} {name : String} (mem : name ∈ u.names) :
    name.toList ≠ [] ∧ (∀ c ∈ name.toList, isUnitChar c = true) ∧
      ofName? name.toList = some u := by
  have all : (u.names.all fun name => !name.toList.isEmpty && name.toList.all isUnitChar &&
      ofName? name.toList == some u) = true := by
    cases u <;> decide
  have here := List.all_eq_true.mp all name mem
  simp only [Bool.and_eq_true, Bool.not_eq_true', List.isEmpty_eq_false_iff, List.all_eq_true,
    beq_iff_eq] at here
  exact ⟨here.1.1, here.1.2, here.2⟩

/-- A unit is kept in nanoseconds or in seconds. -/
lemma grain_eq (u : TimeUnit) : u.grain = 1 ∨ u.grain = 1000000000 := by
  cases u <;> decide

/-- A unit is a whole number of what it is kept in. -/
lemma nanos_div_grain (u : TimeUnit) :
    0 < u.nanos / u.grain ∧ u.nanos / u.grain * u.grain = u.nanos := by
  cases u <;> decide

end TimeUnit

/-- A letter of a unit neither belongs to a number nor begins decimal places. -/
lemma not_numeric {c : Char} (letter : isUnitChar c = true) : isNumeric c = false ∧ c ≠ '.' := by
  have place : 65 ≤ c.toNat ∧ c.toNat ≤ 122 ∨ c.toNat = 0xB5 := by
    rcases Bool.or_eq_true_iff.mp letter with ascii | micro
    · rcases Bool.or_eq_true_iff.mp ascii with upper | lower
      · have upper := of_decide_eq_true upper
        exact .inl ⟨upper.1, Nat.le_trans upper.2 (by decide)⟩
      · have lower := Bool.and_eq_true_iff.mp lower
        exact .inl ⟨Nat.le_trans (by decide) (of_decide_eq_true lower.1),
          of_decide_eq_true lower.2⟩
    · exact .inr (congrArg Char.toNat (of_decide_eq_true micro))
  constructor
  · rw [isNumeric, Bool.or_eq_false_iff]
    constructor
    · rw [Bool.eq_false_iff]
      intro digit
      have := Digits.toNat_le_of_isDigit digit
      omega
    · simp [Text.isBlank]
      omega
  · rintro rfl
    exact absurd letter (by decide)

/-! ### Amounts and totals -/

/-- A number that fits into 64 bits. -/
lemma word?_of_lt {n : Nat} (fits : n < Digits.twoTo 64) : word? n = some n :=
  if_pos fits

/-- What fits is added. -/
lemma add?_of_lt {total grain n : Nat}
    (under : total % 1000000000 + (if grain = 1 then n else 0) < Digits.twoTo 64)
    (sum : (total + n * grain) / 1000000000 < Digits.twoTo 64) :
    add? total grain n = some (total + n * grain) := by
  simp [add?, word?_of_lt under, word?_of_lt sum]

/-- An amount of a unit under one of its names. -/
structure Part where
  /-- How many units. -/
  count : Nat
  /-- The unit. -/
  unit : TimeUnit
  /-- The name of the unit. -/
  name : String

namespace Part

/-- How it is written. -/
def text (p : Part) : String :=
  Digits.decimal p.count ++ p.name

/-- How it is read. -/
def amount (p : Part) : Amount :=
  ⟨Digits.text 10 p.count, none, p.name.toList⟩

/-- Its length in nanoseconds. -/
def nanos (p : Part) : Nat :=
  p.count * p.unit.nanos

/-- The name is one of the unit, and a unit that is kept in nanoseconds does not make up a
second. -/
structure Proper (p : Part) : Prop where
  named : p.name ∈ p.unit.names
  short : p.unit.grain = 1 → p.nanos < TimeUnit.second.nanos

/-- An amount is read off the front of what goes on with something else than a letter. -/
lemma readAmount_text {p : Part} (proper : p.Proper) {rest : List Char}
    (ends : ∀ c, rest.head? = some c → isUnitChar c = false) :
    readAmount (p.text.toList ++ rest) = some (p.amount, rest) := by
  obtain ⟨some, letters, -⟩ := TimeUnit.of_mem_names proper.named
  have digit : ∀ c ∈ Digits.text 10 p.count, Digits.isDigit 10 c = true :=
    fun c => Digits.isDigit_of_mem_text (by decide) (by decide)
  obtain ⟨c, cs, name⟩ := List.exists_cons_of_ne_nil some
  obtain ⟨other, point⟩ := not_numeric (letters c (name ▸ .head cs))
  have number := @Text.span_append isNumeric (Digits.text 10 p.count) (p.name.toList ++ rest)
    (fun d mem => by simp [isNumeric, digit d mem])
    (fun d head => by
      rw [name] at head
      rwa [← Option.some.inj head])
  have unit := Text.span_append letters ends
  have places : readPlaces (p.name.toList ++ rest) = .some (none, p.name.toList ++ rest) := by
    rw [name, List.cons_append, readPlaces]
    rintro _ ⟨⟩
    exact point rfl
  rw [text, Digits.decimal, String.toList_append, String.toList_ofList, List.append_assoc, readAmount,
    number.1, number.2, places, List.filter_eq_self.mpr digit]
  simp only [bind, Option.bind, unit.1, unit.2]
  rw [if_neg (by simp [Digits.text_ne_nil, some])]
  rfl

/-- An amount starts with no blank. -/
lemma dropWhile_blank_text (p : Part) (rest : List Char) :
    (p.text.toList ++ rest).dropWhile Text.isBlank = p.text.toList ++ rest := by
  obtain ⟨c, cs, digits⟩ := List.exists_cons_of_ne_nil (@Digits.text_ne_nil 10 p.count)
  have digit : Digits.isDigit 10 c = true :=
    @Digits.isDigit_of_mem_text 10 (by decide) (by decide) p.count c (digits ▸ .head cs)
  have visible : Text.isBlank c = false := by
    have := Digits.toNat_of_isDigit digit
    simp [Text.isBlank]
    omega
  simp [text, Digits.decimal, digits, visible]

/-- How often it has what its unit is kept in. -/
def grains (p : Part) : Nat :=
  p.count * (p.unit.nanos / p.unit.grain)

/-- It is as long as these together. -/
lemma nanos_eq (p : Part) : p.nanos = p.grains * p.unit.grain := by
  rw [nanos, grains, Nat.mul_assoc, p.unit.nanos_div_grain.2]

/-- There are as many of these as there are units, at least. -/
lemma count_le_grains (p : Part) : p.count ≤ p.grains :=
  Nat.le_mul_of_pos_right _ p.unit.nanos_div_grain.1

/-- The amount fits if its length does. -/
lemma Proper.grains_lt {p : Part} (proper : p.Proper)
    (fits : p.nanos < Digits.twoTo 64 * TimeUnit.second.nanos) : p.grains < Digits.twoTo 64 := by
  have bits : Digits.twoTo 64 = 18446744073709551616 := rfl
  have second : TimeUnit.second.nanos = 1000000000 := rfl
  have short := proper.short
  rw [nanos_eq, second] at fits short
  rw [bits] at fits ⊢
  rcases p.unit.grain_eq with nano | whole
  · have small := short nano
    rw [nano] at small
    omega
  · rw [whole] at fits
    omega

/-- What it adds to a total below a second fits. -/
lemma Proper.under_lt {p : Part} (proper : p.Proper) (total : Nat) :
    total % 1000000000 + (if p.unit.grain = 1 then p.grains else 0) < Digits.twoTo 64 := by
  have bits : Digits.twoTo 64 = 18446744073709551616 := rfl
  have second : TimeUnit.second.nanos = 1000000000 := rfl
  have short := proper.short
  rw [nanos_eq, second] at short
  rw [bits]
  split
  · rename_i nano
    have small := short nano
    rw [nano] at small
    omega
  · omega

/-- An amount is added to a total as long as the sum fits. -/
lemma addAmount?_amount {p : Part} (proper : p.Proper) {total : Nat}
    (fits : total + p.nanos < Digits.twoTo 64 * TimeUnit.second.nanos) :
    addAmount? total p.amount = some (total + p.nanos) := by
  obtain ⟨-, -, named⟩ := TimeUnit.of_mem_names proper.named
  have value := @Digits.value_text 10 (by decide) (by decide) p.count
  have grains := proper.grains_lt (Nat.lt_of_le_of_lt (Nat.le_add_left _ _) fits)
  have count := Nat.lt_of_le_of_lt p.count_le_grains grains
  have sum : (total + p.grains * p.unit.grain) / 1000000000 < Digits.twoTo 64 := by
    rw [← nanos_eq]
    exact Nat.div_lt_of_lt_mul (Nat.mul_comm _ _ ▸ fits)
  have added := add?_of_lt (proper.under_lt total) sum
  rw [← nanos_eq] at added
  rw [Part.grains] at grains added
  simp [addAmount?, amount, value, named, word?_of_lt count, word?_of_lt grains, added]

/-- Amounts are added up as long as the sum fits. -/
lemma foldlM_amounts {ps : List Part} (proper : ∀ p ∈ ps, p.Proper) {total : Nat}
    (fits : total + (ps.map nanos).sum < Digits.twoTo 64 * TimeUnit.second.nanos) :
    (ps.map amount).foldlM addAmount? total = some (total + (ps.map nanos).sum) := by
  induction ps generalizing total with
  | nil => rfl
  | cons p ps ih =>
      rw [List.map_cons, List.sum_cons, ← Nat.add_assoc] at fits
      have here := addAmount?_amount (proper p (.head ps))
        (Nat.lt_of_le_of_lt (Nat.le_add_right _ _) fits)
      have later := ih (fun q mem => proper q (.tail p mem)) fits
      rw [List.map_cons, List.foldlM_cons, here, List.map_cons, List.sum_cons, ← Nat.add_assoc]
      exact later

/-! ### Amounts with blanks between them -/

/-- Amounts with a blank before each are read. -/
lemma readAmounts_blanks {ps : List Part} (proper : ∀ p ∈ ps, p.Proper) {most : Nat}
    (room : ps.length ≤ most) :
    readAmounts most (ps.flatMap fun p => ' ' :: p.text.toList) = some (ps.map amount) := by
  induction ps generalizing most with
  | nil => cases most <;> rfl
  | cons p ps ih =>
      obtain ⟨most, rfl⟩ := Nat.exists_eq_add_of_le' (Nat.lt_of_lt_of_le (Nat.succ_pos _) room)
      have later := ih (fun q mem => proper q (.tail p mem)) (Nat.le_of_succ_le_succ room)
      have ends : ∀ c, (ps.flatMap fun p => ' ' :: p.text.toList).head? = some c →
          isUnitChar c = false := by
        cases ps with
        | nil => nofun
        | cons q ps => rintro _ ⟨⟩; decide
      have here := readAmount_text (proper p (.head ps)) ends
      have front := p.dropWhile_blank_text (ps.flatMap fun p => ' ' :: p.text.toList)
      rw [List.flatMap_cons, List.cons_append, readAmounts, List.dropWhile_cons_of_pos (by decide),
        front]
      have none : readAmount [] = none := by decide
      generalize p.text.toList ++ _ = s at here
      cases s with
      | nil => rw [none] at here; contradiction
      | cons c s => simp [here, later]

/-- With a blank in front, amounts with blanks between them have a blank before each. -/
lemma blank_intercalate {ps : List Part} (some : ps ≠ []) :
    ' ' :: (" ".intercalate (ps.map text)).toList = ps.flatMap fun p => ' ' :: p.text.toList := by
  induction ps with
  | nil => contradiction
  | cons p ps ih =>
      cases ps with
      | nil => simp
      | cons q ps =>
          have later := ih (List.cons_ne_nil q ps)
          rw [List.map_cons, List.map_cons, String.intercalate_cons_cons, ← List.map_cons,
            List.flatMap_cons, ← later]
          simp

/-- Amounts with blanks between them are read. -/
lemma readAmounts_intercalate {ps : List Part} (some : ps ≠ []) (proper : ∀ p ∈ ps, p.Proper)
    {most : Nat} (room : ps.length ≤ most) :
    readAmounts most (" ".intercalate (ps.map text)).toList = .some (ps.map amount) := by
  have skip : ∀ s, readAmounts most (' ' :: s) = readAmounts most s := fun s => by
    cases most <;> rw [readAmounts, readAmounts, List.dropWhile_cons_of_pos (by decide)]
  rw [← skip, blank_intercalate some, readAmounts_blanks proper room]

/-- With a blank before each, amounts have two characters each at least. -/
lemma length_blanks (ps : List Part) :
    2 * ps.length ≤ (ps.flatMap fun p => ' ' :: p.text.toList).length := by
  induction ps with
  | nil => exact Nat.le_refl 0
  | cons p ps ih =>
      have digits := List.length_pos_of_ne_nil (@Digits.text_ne_nil 10 p.count)
      have some : 0 < p.text.toList.length := by
        rw [text, Digits.decimal, String.toList_append, String.toList_ofList, List.length_append]
        exact Nat.add_pos_left digits _
      simp only [List.flatMap_cons, List.length_append, List.length_cons]
      omega

/-- There are no more amounts than characters. -/
lemma length_le_intercalate {ps : List Part} (some : ps ≠ []) :
    ps.length ≤ (" ".intercalate (ps.map text)).length := by
  have two := length_blanks ps
  rw [← blank_intercalate some, List.length_cons, String.length_toList] at two
  have := List.length_pos_of_ne_nil some
  omega

/-- **What amounts with blanks between them spell is their sum.** -/
lemma ofText?_intercalate {ps : List Part} (some : ps ≠ []) (proper : ∀ p ∈ ps, p.Proper)
    (fits : (ps.map nanos).sum < Digits.twoTo 64 * TimeUnit.second.nanos) :
    ofText? (" ".intercalate (ps.map text)) = .some ⟨(ps.map nanos).sum⟩ := by
  have read := readAmounts_intercalate some proper (length_le_intercalate some)
  have other : " ".intercalate (ps.map text) ≠ "0" := by
    intro zero
    have none : readAmounts "0".length "0".toList = none := by decide
    rw [zero, none] at read
    contradiction
  have sum := foldlM_amounts proper (Nat.lt_of_le_of_lt (Nat.le_of_eq (Nat.zero_add _)) fits)
  rw [ofText?, if_neg other, read]
  simp [some, sum]

end Part

/-! ### The amounts of a duration -/

/-- The amounts of a unit that are written: none if there are none of it. -/
def counted (n : Nat) (u : TimeUnit) (name plural : String) : List Part :=
  if n = 0 then [] else [⟨n, u, name ++ if n = 1 then "" else plural⟩]

/-- They are written so. -/
lemma map_text_counted (n : Nat) (u : TimeUnit) (name plural : String) :
    (counted n u name plural).map Part.text = amountText n name plural := by
  rw [counted, amountText]
  split
  · rfl
  · rw [List.map_singleton, Part.text, String.append_assoc]

/-- Together they are as long as so many units. -/
lemma sum_counted (n : Nat) (u : TimeUnit) (name plural : String) :
    ((counted n u name plural).map Part.nanos).sum = n * u.nanos := by
  rw [counted]
  split
  · simp [*]
  · simp [Part.nanos]

/-- They are proper if the names are those of the unit and there are not too many. -/
lemma proper_of_mem_counted {n : Nat} {u : TimeUnit} {name plural : String} {p : Part}
    (mem : p ∈ counted n u name plural) (one : name ∈ u.names) (more : name ++ plural ∈ u.names)
    (short : u.grain = 1 → n * u.nanos < TimeUnit.second.nanos) : p.Proper := by
  rw [counted] at mem
  split at mem
  · contradiction
  · obtain rfl := List.mem_singleton.mp mem
    refine ⟨?_, short⟩
    split
    · simpa using one
    · exact more

/-- The amounts of a duration that are written, longest unit first. -/
def parts (d : Duration) : List Part :=
  let s := d.seconds
  let n := d.subsecondNanos
  let ofYear := s % 31557600
  let ofMonth := ofYear % 2630016
  let ofDay := ofMonth % 86400
  counted (s / 31557600) .year "year" "s" ++ counted (ofYear / 2630016) .month "month" "s" ++
    counted (ofMonth / 86400) .day "day" "s" ++ counted (ofDay / 3600) .hour "h" "" ++
    counted (ofDay % 3600 / 60) .minute "m" "" ++ counted (ofDay % 60) .second "s" "" ++
    counted (n / 1000000) .millisecond "ms" "" ++ counted (n / 1000 % 1000) .microsecond "us" "" ++
    counted (n % 1000) .nanosecond "ns" ""

/-- They are what is written. -/
lemma map_text_parts (d : Duration) : d.parts.map Part.text = d.amountTexts := by
  simp only [parts, amountTexts, List.map_append, map_text_counted]

/-- They add up to the duration. -/
lemma sum_parts (d : Duration) : (d.parts.map Part.nanos).sum = d.nanos := by
  simp only [parts, List.map_append, List.sum_append, sum_counted, TimeUnit.nanos, seconds,
    subsecondNanos]
  omega

/-- They are proper. -/
lemma proper_of_mem_parts {d : Duration} {p : Part} (mem : p ∈ d.parts) : p.Proper := by
  have second : TimeUnit.second.nanos = 1000000000 := rfl
  simp only [parts, List.mem_append, subsecondNanos, or_assoc] at mem
  rcases mem with mem | mem | mem | mem | mem | mem | mem | mem | mem
  iterate 6 exact proper_of_mem_counted mem (by decide) (by decide) (absurd · (by decide))
  iterate 3
    exact proper_of_mem_counted mem (by decide) (by decide) fun _ => by
      simp only [TimeUnit.nanos]
      omega

/-- **A duration is read back from its text**, to the nanosecond, if its seconds fit into 64
bits. -/
theorem ofText?_text {d : Duration} (fits : d.seconds < Digits.twoTo 64) :
    ofText? d.text = some d := by
  by_cases zero : d.nanos = 0
  · obtain rfl : d = ⟨0⟩ := by cases d; exact congrArg _ zero
    decide
  · have some : d.parts ≠ [] := by
      intro none
      exact zero (by rw [← sum_parts, none, List.map_nil, List.sum_nil])
    have all : (d.parts.map Part.nanos).sum < Digits.twoTo 64 * TimeUnit.second.nanos := by
      rw [sum_parts]
      exact (Nat.div_lt_iff_lt_mul (by decide)).mp fits
    rw [text, if_neg zero, ← map_text_parts,
      Part.ofText?_intercalate some (fun _ => proper_of_mem_parts) all, sum_parts]

end FloatingIp.Duration
