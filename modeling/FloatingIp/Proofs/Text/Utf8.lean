import FloatingIp.Text.Utf8
import Mathlib.Algebra.Group.Nat.Defs
import Mathlib.Data.List.Basic
import Mathlib.Tactic.Lemma

/-!
# Reading bytes as a text

A text is read as it was written, strictly and leniently (`strict?_encode`, `lenient_encode`).  The
other way round, a text without U+FFFD is read leniently from its own bytes only (`lenient_eq_iff`):
overlong forms, surrogates, characters that are cut off and bytes left over all leave a U+FFFD.

Reading any bytes leniently keeps their lines: a line feed is read as one wherever it stands, even
after a character that was begun and cannot go on, and no other bytes are read as a line feed.
-/

namespace FloatingIp.Text.Utf8

/-! ### Characters that are begun -/

/-- What is kept of a character that is begun: its next byte is a continuation byte, and whatever
bytes it goes on with it comes to more than ASCII. -/
structure Begun.Long (p : Begun) : Prop where
  /-- A byte is due. -/
  due : 1 ≤ p.due
  /-- The next byte is no less than a continuation byte. -/
  least : 0x80 ≤ p.least
  /-- The next byte is no more than a continuation byte. -/
  greatest : p.greatest ≤ 0xBF
  /-- The least that it can come to is beyond ASCII. -/
  beyond : 0x80 ≤ (p.bits * 64 + p.least % 64) * 64 ^ (p.due - 1)

/-- Where nothing is begun nothing has to be kept. -/
lemma long_of_none : ∀ p ∈ (none : Option Begun), p.Long := fun _ mem => by cases mem

/-- What a first byte begins is long. -/
lemma long_of_begin? {b : UInt8} {p : Begun} (begun : begin? b = some p) : p.Long := by
  simp only [begin?] at begun
  split_ifs at begun <;> obtain rfl := Option.some.inj begun <;>
    constructor <;> dsimp only <;> omega

/-- What a character that is begun and goes on has come to. -/
lemma Begun.Long.bits {p : Begun} (long : p.Long) {n : Nat} (from' : p.least ≤ n)
    (upTo : n ≤ p.greatest) : 0x80 ≤ (p.bits * 64 + n % 64) * 64 ^ (p.due - 1) := by
  have least := long.least
  have greatest := long.greatest
  refine Nat.le_trans long.beyond (Nat.mul_le_mul_right _ ?_)
  omega

/-- What is begun by a first byte is long. -/
lemma long_of_start {b : UInt8} : ∀ p ∈ (start b).2, p.Long := by
  intro p mem
  unfold start at mem
  split at mem
  · cases mem
  · split at mem
    case h_1 q begun =>
      obtain rfl := Option.mem_some_iff.1 mem
      exact long_of_begin? begun
    case h_2 => cases mem

/-- What is begun after a byte is long. -/
lemma long_of_step {pending : Option Begun} (long : ∀ p ∈ pending, p.Long) (b : UInt8) :
    ∀ p ∈ (step pending b).2, p.Long := by
  cases pending with
  | none => exact long_of_start
  | some p =>
      intro q mem
      simp only [step] at mem
      split_ifs at mem with range last
      · cases mem
      · obtain rfl := Option.mem_some_iff.1 mem
        -- one byte fewer is due, and the bits have moved up by as much
        have bits := (long p rfl).bits range.1 range.2
        have shifted : 64 ^ (p.due - 1) = 64 * 64 ^ (p.due - 1 - 1) := by
          rw [← Nat.pow_succ']
          congr 1
          omega
        refine ⟨by dsimp only; omega, Nat.le_refl _, Nat.le_refl _, ?_⟩
        rw [shifted, ← Nat.mul_assoc] at bits
        simpa using bits
      · exact long_of_start q mem

/-! ### Line feeds -/

/-- Only the number of the line feed is the line feed. -/
lemma eq_of_ofNat {n : Nat} (feed : Char.ofNat n = '\n') : n = 10 := by
  by_cases valid : n.isValidChar
  · have number := congrArg Char.toNat feed
    rwa [Char.ofNat, dif_pos valid] at number
  · rw [Char.ofNat, dif_neg valid] at feed
    exact absurd feed (by decide)

/-- Nothing but a line feed begins as one. -/
lemma eq_of_mem_start {b : UInt8} (mem : some '\n' ∈ (start b).1) : b = 10 := by
  unfold start at mem
  split at mem
  · have read : '\n' = Char.ofNat b.toNat := by simpa using mem
    exact UInt8.toNat_inj.1 (eq_of_ofNat read.symm)
  · split at mem <;> simp at mem

/-- Nothing but a line feed is read as one. -/
lemma eq_of_mem_step {pending : Option Begun} (long : ∀ p ∈ pending, p.Long) {b : UInt8}
    (mem : some '\n' ∈ (step pending b).1) : b = 10 := by
  cases pending with
  | none => exact eq_of_mem_start mem
  | some p =>
      simp only [step] at mem
      split_ifs at mem with range last
      · have read : '\n' = Char.ofNat (p.bits * 64 + b.toNat % 64) := by simpa using mem
        have bits := (long p rfl).bits range.1 range.2
        rw [eq_of_ofNat read.symm, Nat.sub_eq_zero_of_le last] at bits
        exact absurd bits (by decide)
      · cases mem
      · exact eq_of_mem_start (by simpa using mem)

/-- Bytes without a line feed are read without one. -/
lemma no_feed_of_unitsFrom {pending : Option Begun} (long : ∀ p ∈ pending, p.Long)
    {bytes : List UInt8} (none : 10 ∉ bytes) : some '\n' ∉ unitsFrom pending bytes := by
  induction bytes generalizing pending with
  | nil =>
      intro mem
      rw [unitsFrom] at mem
      split_ifs at mem <;> simp at mem
  | cons b bytes ih =>
      rw [unitsFrom, List.mem_append, not_or]
      refine ⟨fun mem => none ?_, ih (long_of_step long b) fun mem => none (.tail b mem)⟩
      rw [eq_of_mem_step long mem]
      exact .head bytes

/-- A byte of ASCII is read as its character, and breaks off what was begun. -/
lemma step_of_lt {pending : Option Begun} (long : ∀ p ∈ pending, p.Long) {b : UInt8}
    (ascii : b.toNat < 0x80) :
    step pending b =
      ((if pending.isSome then [none] else []) ++ [some (Char.ofNat b.toNat)], none) := by
  cases pending with
  | none => simp [step, start, ascii]
  | some p =>
      have least := (long p rfl).least
      have out : ¬(p.least ≤ b.toNat ∧ b.toNat ≤ p.greatest) := by omega
      simp [step, start, ascii, out]

/-- A byte of ASCII parts what is before it from what is after it. -/
lemma unitsFrom_append_cons {pending : Option Begun} (long : ∀ p ∈ pending, p.Long)
    (before after : List UInt8) {b : UInt8} (ascii : b.toNat < 0x80) :
    unitsFrom pending (before ++ b :: after) =
      unitsFrom pending before ++ some (Char.ofNat b.toNat) :: units after := by
  induction before generalizing pending with
  | nil =>
      have here : unitsFrom pending (b :: after) =
          (step pending b).1 ++ unitsFrom (step pending b).2 after := rfl
      rw [List.nil_append, here, step_of_lt long ascii, List.append_assoc]
      rfl
  | cons c before ih =>
      rw [List.cons_append, unitsFrom, ih (long_of_step long c), unitsFrom, List.append_assoc]

/-! ### Lenient reading -/

/-- A line feed parts what is before it from what is after it. -/
theorem lenient_append_feed (before after : List UInt8) :
    lenient (before ++ 10 :: after) = lenient before ++ '\n' :: lenient after := by
  rw [lenient, units, unitsFrom_append_cons long_of_none before after (by decide)]
  simp [lenient, units]

/-- Bytes without a line feed are read without one. -/
theorem no_feed_of_lenient {bytes : List UInt8} (none : 10 ∉ bytes) : '\n' ∉ lenient bytes := by
  intro mem
  obtain ⟨entry, inside, read⟩ := List.mem_map.1 mem
  cases entry with
  | none => exact absurd read (by decide)
  | some c =>
      obtain rfl : c = '\n' := read
      exact no_feed_of_unitsFrom long_of_none none inside

/-- Lines that are each ended by a line feed are read one by one. -/
theorem lenient_flatMap_feed (lines : List (List UInt8)) :
    lenient (lines.flatMap (· ++ [10])) = (lines.map lenient).flatMap (· ++ ['\n']) := by
  induction lines with
  | nil => rfl
  | cons line lines ih =>
      simp only [List.flatMap_cons, List.map_cons, List.append_assoc, List.singleton_append]
      rw [lenient_append_feed, ih]

/-! ### Reading what was written -/

/-- What the first byte of two begins. -/
lemma begin?_two {q : Nat} (least : 2 ≤ q) (bound : q < 32) :
    begin? (UInt8.ofNat (q + 0xC0)) = some ⟨q, 1, 0x80, 0xBF⟩ := by
  have all : ∀ q < 32, 2 ≤ q → begin? (UInt8.ofNat (q + 0xC0)) = some ⟨q, 1, 0x80, 0xBF⟩ := by
    decide
  exact all q bound least

/-- What the first byte of three begins. -/
lemma begin?_three {q : Nat} (bound : q < 16) :
    begin? (UInt8.ofNat (q + 0xE0)) =
      some ⟨q, 2, if q = 0 then 0xA0 else 0x80, if q = 13 then 0x9F else 0xBF⟩ := by
  revert q
  decide

/-- What the first byte of four begins. -/
lemma begin?_four {q : Nat} (bound : q < 5) :
    begin? (UInt8.ofNat (q + 0xF0)) =
      some ⟨q, 3, if q = 0 then 0x90 else 0x80, if q = 4 then 0x8F else 0xBF⟩ := by
  revert q
  decide

/-- A first byte begins a character. -/
lemma unitsFrom_begin {b : UInt8} {p : Begun} (begun : begin? b = some p) (rest : List UInt8) :
    unitsFrom none (b :: rest) = unitsFrom (some p) rest := by
  have high : ¬b.toNat < 0x80 := by
    intro low
    simp only [begin?] at begun
    split_ifs at begun <;> omega
  simp [unitsFrom, step, start, high, begun]

/-- The number of a further byte. -/
lemma toNat_further {d : Nat} (bound : d < 64) : (UInt8.ofNat (d + 0x80)).toNat = d + 0x80 := by
  rw [UInt8.toNat_ofNat']
  omega

/-- A further byte goes on with a character. -/
lemma unitsFrom_further {p : Begun} {d : Nat} (bound : d < 64) (least : p.least ≤ d + 0x80)
    (greatest : d + 0x80 ≤ p.greatest) (due : 1 < p.due) (rest : List UInt8) :
    unitsFrom (some p) (UInt8.ofNat (d + 0x80) :: rest) =
      unitsFrom (some ⟨p.bits * 64 + d, p.due - 1, 0x80, 0xBF⟩) rest := by
  have low : (d + 0x80) % 64 = d := by omega
  rw [unitsFrom, step, toNat_further bound, if_pos ⟨least, greatest⟩, low,
    if_neg (Nat.not_le.mpr due)]
  rfl

/-- The last byte ends a character. -/
lemma unitsFrom_last {p : Begun} {d : Nat} (bound : d < 64) (least : p.least ≤ d + 0x80)
    (greatest : d + 0x80 ≤ p.greatest) (due : p.due ≤ 1) (rest : List UInt8) :
    unitsFrom (some p) (UInt8.ofNat (d + 0x80) :: rest) =
      some (Char.ofNat (p.bits * 64 + d)) :: units rest := by
  have low : (d + 0x80) % 64 = d := by omega
  rw [unitsFrom, step, toNat_further bound, if_pos ⟨least, greatest⟩, low, if_pos due]
  rfl

/-- A character is read as it was written. -/
lemma units_utf8EncodeChar_append (c : Char) (rest : List UInt8) :
    units (String.utf8EncodeChar c ++ rest) = some c :: units rest := by
  have read {n : Nat} (same : n = c.toNat) : some (Char.ofNat n) :: units rest =
      some c :: units rest := by
    rw [same, Char.ofNat_toNat]
  have valid : c.toNat < 0xD800 ∨ 0xDFFF < c.toNat ∧ c.toNat < 0x110000 := c.valid
  have number : c.val.toNat = c.toNat := rfl
  unfold String.utf8EncodeChar
  simp only [number]
  split_ifs with one two three
  · have single : (UInt8.ofNat c.toNat).toNat = c.toNat := by
      rw [UInt8.toNat_ofNat']
      omega
    rw [List.singleton_append, units, unitsFrom, step, start, single,
      if_pos (Nat.lt_succ_of_le one)]
    exact read rfl
  · rw [List.cons_append, List.singleton_append, units,
      unitsFrom_begin (begin?_two (by omega) (Nat.mod_lt _ (by omega))),
      unitsFrom_last (Nat.mod_lt _ (by omega)) (by dsimp only; omega) (by dsimp only; omega)
        (Nat.le_refl _)]
    exact read (by dsimp only; omega)
  · rw [List.cons_append, List.cons_append, List.singleton_append, units,
      unitsFrom_begin (begin?_three (Nat.mod_lt _ (by omega))),
      unitsFrom_further (Nat.mod_lt _ (by omega)) (by dsimp only; split_ifs <;> omega)
        (by dsimp only; split_ifs <;> omega) (by dsimp only; omega),
      unitsFrom_last (Nat.mod_lt _ (by omega)) (by dsimp only; omega) (by dsimp only; omega)
        (Nat.le_refl _)]
    exact read (by dsimp only; omega)
  · rw [List.cons_append, List.cons_append, List.cons_append, List.singleton_append, units,
      unitsFrom_begin (begin?_four (by omega)),
      unitsFrom_further (Nat.mod_lt _ (by omega)) (by dsimp only; split_ifs <;> omega)
        (by dsimp only; split_ifs <;> omega) (by dsimp only; omega),
      unitsFrom_further (Nat.mod_lt _ (by omega)) (by dsimp only; omega) (by dsimp only; omega)
        (by dsimp only; omega),
      unitsFrom_last (Nat.mod_lt _ (by omega)) (by dsimp only; omega) (by dsimp only; omega)
        (Nat.le_refl _)]
    exact read (by dsimp only; omega)

/-- A text is read as it was written, character by character. -/
theorem units_encode (s : List Char) : units (encode s) = s.map some := by
  induction s with
  | nil => rfl
  | cons c s ih =>
      rw [encode, List.flatMap_cons, units_utf8EncodeChar_append, List.map_cons, ← ih]
      rfl

/-- **A text is read leniently as it was written.** -/
theorem lenient_encode (s : List Char) : lenient (encode s) = s := by
  rw [lenient, units_encode, List.map_map]
  exact List.map_id s

/-- **A text is read strictly as it was written.** -/
theorem strict?_encode (s : List Char) : strict? (encode s) = some s := by
  rw [strict?, units_encode]
  induction s with
  | nil => rfl
  | cons c s ih => simp [ih]

/-- Two texts are not written alike. -/
lemma encode_injective {s t : List Char} (same : encode s = encode t) : s = t := by
  rw [← lenient_encode s, same, lenient_encode]

/-- A text in ASCII is written with one byte for each character. -/
lemma encode_of_ascii {s : List Char} (ascii : ∀ c ∈ s, c.toNat < 0x80) :
    encode s = s.map fun c => UInt8.ofNat c.toNat := by
  induction s with
  | nil => rfl
  | cons c s ih =>
      have byte : String.utf8EncodeChar c = [UInt8.ofNat c.toNat] :=
        if_pos (Nat.le_of_lt_succ (ascii c (.head s)))
      have rest := ih fun d mem => ascii d (.tail c mem)
      rw [encode, List.flatMap_cons, byte, List.map_cons, ← rest]
      rfl

/-- A text in ASCII without a line feed is written without one. -/
lemma no_feed_of_encode {s : List Char} (ascii : ∀ c ∈ s, c.toNat < 0x80) (none : '\n' ∉ s) :
    10 ∉ encode s := by
  rw [encode_of_ascii ascii]
  intro mem
  obtain ⟨c, inside, byte⟩ := List.mem_map.1 mem
  have number : c.toNat = 10 := by
    have small := ascii c inside
    have same := congrArg UInt8.toNat byte
    rwa [UInt8.toNat_ofNat_of_lt' (Nat.lt_trans small (by decide))] at same
  rw [← Char.ofNat_toNat c, number] at inside
  exact none inside

/-! ### Writing what was read -/

/-- The bytes that begin a longer character, by how many follow. -/
lemma begin?_cases {b : UInt8} {p : Begun} (begun : begin? b = some p) :
    (∃ q, 2 ≤ q ∧ q < 32 ∧ b = UInt8.ofNat (q + 0xC0) ∧ p = ⟨q, 1, 0x80, 0xBF⟩) ∨
    (∃ q, q < 16 ∧ b = UInt8.ofNat (q + 0xE0) ∧
      p = ⟨q, 2, if q = 0 then 0xA0 else 0x80, if q = 13 then 0x9F else 0xBF⟩) ∨
    ∃ q, q < 5 ∧ b = UInt8.ofNat (q + 0xF0) ∧
      p = ⟨q, 3, if q = 0 then 0x90 else 0x80, if q = 4 then 0x8F else 0xBF⟩ := by
  have number {n : Nat} (same : n = b.toNat) : b = UInt8.ofNat n := by
    rw [same, UInt8.ofNat_toNat]
  have := b.toNat_lt
  by_cases two : 0xC2 ≤ b.toNat ∧ b.toNat ≤ 0xDF
  · have same : b = UInt8.ofNat (b.toNat - 0xC0 + 0xC0) := number (by omega)
    refine .inl ⟨b.toNat - 0xC0, by omega, by omega, same, ?_⟩
    rw [same, begin?_two (by omega) (by omega)] at begun
    exact (Option.some.inj begun).symm
  by_cases three : 0xE0 ≤ b.toNat ∧ b.toNat ≤ 0xEF
  · have same : b = UInt8.ofNat (b.toNat - 0xE0 + 0xE0) := number (by omega)
    refine .inr (.inl ⟨b.toNat - 0xE0, by omega, same, ?_⟩)
    rw [same, begin?_three (by omega)] at begun
    exact (Option.some.inj begun).symm
  by_cases four : 0xF0 ≤ b.toNat ∧ b.toNat ≤ 0xF4
  · have same : b = UInt8.ofNat (b.toNat - 0xF0 + 0xF0) := number (by omega)
    refine .inr (.inr ⟨b.toNat - 0xF0, by omega, same, ?_⟩)
    rw [same, begin?_four (by omega)] at begun
    exact (Option.some.inj begun).symm
  · simp only [begin?] at begun
    split_ifs at begun <;> omega

/-- The number of a character. -/
lemma toNat_ofNat {n : Nat} (valid : n < 0xD800 ∨ 0xDFFF < n ∧ n < 0x110000) :
    (Char.ofNat n).toNat = n := by
  rw [Char.ofNat, dif_pos valid]
  rfl

/-- What is begun and is read whole goes on with a further byte. -/
lemma exists_further {p : Begun} (low : 0x80 ≤ p.least) (high : p.greatest ≤ 0xBF)
    {bytes : List UInt8} (whole : none ∉ unitsFrom (some p) bytes) :
    ∃ d rest, bytes = UInt8.ofNat (d + 0x80) :: rest ∧ d < 64 ∧ p.least ≤ d + 0x80 ∧
      d + 0x80 ≤ p.greatest := by
  cases bytes with
  | nil => simp [unitsFrom] at whole
  | cons b rest =>
      rw [unitsFrom, List.mem_append, not_or] at whole
      have range : p.least ≤ b.toNat ∧ b.toNat ≤ p.greatest := by
        by_contra out
        simp [step, out] at whole
      have same : b.toNat - 0x80 + 0x80 = b.toNat := by omega
      refine ⟨b.toNat - 0x80, rest, ?_, by omega, by omega, by omega⟩
      rw [same, UInt8.ofNat_toNat]

/-- A character of one byte. -/
lemma utf8EncodeChar_one {b : UInt8} (ascii : b.toNat < 0x80) :
    String.utf8EncodeChar (Char.ofNat b.toNat) = [b] := by
  have number : (Char.ofNat b.toNat).val.toNat = b.toNat := toNat_ofNat (by omega)
  simp only [String.utf8EncodeChar, number]
  rw [if_pos (by omega), UInt8.ofNat_toNat]

/-- A character of two bytes. -/
lemma utf8EncodeChar_two {q d : Nat} (least : 2 ≤ q) (bound : q < 32) (further : d < 64) :
    String.utf8EncodeChar (Char.ofNat (q * 64 + d)) =
      [UInt8.ofNat (q + 0xC0), UInt8.ofNat (d + 0x80)] := by
  have number : (Char.ofNat (q * 64 + d)).val.toNat = q * 64 + d := toNat_ofNat (by omega)
  have first : (q * 64 + d) / 64 % 32 = q := by omega
  have last : (q * 64 + d) % 64 = d := by omega
  simp only [String.utf8EncodeChar, number]
  rw [if_neg (by omega), if_pos (by omega), first, last]

/-- A character of three bytes. -/
lemma utf8EncodeChar_three {q d e : Nat} (bound : q < 16) (further : d < 64) (last : e < 64)
    (least : q = 0 → 0x20 ≤ d) (greatest : q = 13 → d < 0x20) :
    String.utf8EncodeChar (Char.ofNat ((q * 64 + d) * 64 + e)) =
      [UInt8.ofNat (q + 0xE0), UInt8.ofNat (d + 0x80), UInt8.ofNat (e + 0x80)] := by
  have number : (Char.ofNat ((q * 64 + d) * 64 + e)).val.toNat = (q * 64 + d) * 64 + e :=
    toNat_ofNat (by omega)
  have first : ((q * 64 + d) * 64 + e) / 4096 % 16 = q := by omega
  have second : ((q * 64 + d) * 64 + e) / 64 % 64 = d := by omega
  have third : ((q * 64 + d) * 64 + e) % 64 = e := by omega
  simp only [String.utf8EncodeChar, number]
  rw [if_neg (by omega), if_neg (by omega), if_pos (by omega), first, second, third]

/-- A character of four bytes. -/
lemma utf8EncodeChar_four {q d e f : Nat} (bound : q < 5) (further : d < 64) (next : e < 64)
    (last : f < 64) (least : q = 0 → 0x10 ≤ d) (greatest : q = 4 → d < 0x10) :
    String.utf8EncodeChar (Char.ofNat (((q * 64 + d) * 64 + e) * 64 + f)) =
      [UInt8.ofNat (q + 0xF0), UInt8.ofNat (d + 0x80), UInt8.ofNat (e + 0x80),
        UInt8.ofNat (f + 0x80)] := by
  have number : (Char.ofNat (((q * 64 + d) * 64 + e) * 64 + f)).val.toNat =
      ((q * 64 + d) * 64 + e) * 64 + f := toNat_ofNat (by omega)
  have first : (((q * 64 + d) * 64 + e) * 64 + f) / 262144 % 8 = q := by omega
  have second : (((q * 64 + d) * 64 + e) * 64 + f) / 4096 % 64 = d := by omega
  have third : (((q * 64 + d) * 64 + e) * 64 + f) / 64 % 64 = e := by omega
  have fourth : (((q * 64 + d) * 64 + e) * 64 + f) % 64 = f := by omega
  simp only [String.utf8EncodeChar, number]
  rw [if_neg (by omega), if_neg (by omega), if_neg (by omega), first, second, third, fourth]

/-- Bytes that are read whole begin with a character as it is written. -/
lemma exists_char_of_whole {b : UInt8} {bytes : List UInt8} (whole : none ∉ units (b :: bytes)) :
    ∃ c rest, b :: bytes = String.utf8EncodeChar c ++ rest := by
  by_cases ascii : b.toNat < 0x80
  · exact ⟨_, bytes, by rw [utf8EncodeChar_one ascii]; rfl⟩
  cases begun : begin? b with
  | none => simp [units, unitsFrom, step, start, ascii, begun] at whole
  | some p =>
      have long := long_of_begin? begun
      rw [units, unitsFrom_begin begun] at whole
      obtain ⟨d, rest, rfl, hd, least, greatest⟩ := exists_further long.least long.greatest whole
      rcases begin?_cases begun with
        ⟨q, low, high, rfl, rfl⟩ | ⟨q, high, rfl, rfl⟩ | ⟨q, high, rfl, rfl⟩ <;>
        dsimp only at least greatest
      · exact ⟨_, rest, by rw [utf8EncodeChar_two low high hd]; rfl⟩
      · rw [unitsFrom_further hd least greatest (by dsimp only; omega)] at whole
        obtain ⟨e, rest, rfl, he, -⟩ := exists_further (Nat.le_refl _) (Nat.le_refl _) whole
        have overlong : q = 0 → 0x20 ≤ d := by rintro rfl; simp at least; omega
        have surrogate : q = 13 → d < 0x20 := by rintro rfl; simp at greatest; omega
        exact ⟨_, rest, by rw [utf8EncodeChar_three high hd he overlong surrogate]; rfl⟩
      · rw [unitsFrom_further hd least greatest (by dsimp only; omega)] at whole
        obtain ⟨e, rest, rfl, he, low', high'⟩ :=
          exists_further (Nat.le_refl _) (Nat.le_refl _) whole
        rw [unitsFrom_further he low' high' (by dsimp only; omega)] at whole
        obtain ⟨f, rest, rfl, hf, -⟩ := exists_further (Nat.le_refl _) (Nat.le_refl _) whole
        have overlong : q = 0 → 0x10 ≤ d := by rintro rfl; simp at least; omega
        have beyond : q = 4 → d < 0x10 := by rintro rfl; simp at greatest; omega
        exact ⟨_, rest, by rw [utf8EncodeChar_four high hd he hf overlong beyond]; rfl⟩

/-- Bytes that are read whole are the bytes of a text. -/
lemma exists_encode_of_whole {bytes : List UInt8} (whole : none ∉ units bytes) :
    ∃ s, bytes = encode s := by
  induction total : bytes.length using Nat.strongRecOn generalizing bytes with
  | ind size ih =>
    cases bytes with
    | nil => exact ⟨[], rfl⟩
    | cons b bytes =>
        obtain ⟨c, rest, split⟩ := exists_char_of_whole whole
        rw [split] at whole total
        rw [units_utf8EncodeChar_append, List.mem_cons, not_or] at whole
        have shorter : rest.length < size := by
          have := String.length_utf8EncodeChar c
          have := c.utf8Size_pos
          rw [List.length_append] at total
          omega
        obtain ⟨s, same⟩ := ih _ shorter whole.2 rfl
        exact ⟨c :: s, by rw [split, same]; rfl⟩

/-- **No other bytes are read leniently as a text without U+FFFD.** -/
theorem lenient_eq_iff {bytes : List UInt8} {s : List Char} (clean : '\uFFFD' ∉ s) :
    lenient bytes = s ↔ bytes = encode s := by
  constructor
  · intro read
    have whole : none ∉ units bytes := by
      intro mem
      refine clean (read ▸ ?_)
      exact List.mem_map.mpr ⟨none, mem, rfl⟩
    obtain ⟨t, rfl⟩ := exists_encode_of_whole whole
    rw [lenient_encode] at read
    rw [read]
  · rintro rfl
    exact lenient_encode s

end FloatingIp.Text.Utf8
