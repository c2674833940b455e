import FloatingIp.Digits
import Mathlib.Data.List.Basic
import Mathlib.Tactic.IntervalCases
import Mathlib.Tactic.Lemma

/-!
# Numbers read back from their digits

The digits of a number in a base from 2 to 16 have the number for their value, are as few as can be,
and start with a zero only for zero itself.
-/

namespace FloatingIp.Digits

variable {base : Nat}

/-! ### Single digits -/

/-- A digit has its value. -/
lemma value?_digit {d : Nat} (below : d < base) (bound : base ≤ 16) :
    value? base (digit d) = some d := by
  have small : d < 16 := Nat.lt_of_lt_of_le below bound
  interval_cases d <;> simp [value?, digit, below]

/-- Only zero is written as the digit zero. -/
lemma digit_ne_zero {d : Nat} (positive : 0 < d) (bound : d < 16) : digit d ≠ '0' := by
  interval_cases d <;> decide

/-- A digit in a base is one in every greater base. -/
lemma isDigit_mono {smaller : Nat} (le : smaller ≤ base) {c : Char}
    (digit : isDigit smaller c = true) : isDigit base c = true := by
  simp only [isDigit, value?, Option.isSome_iff_ne_none, ne_eq, ite_eq_right_iff,
    reduceCtorEq, imp_false, not_not] at digit ⊢
  split_ifs at digit ⊢ <;> omega

/-- Digits are neither below the decimal ones nor above the letters. -/
lemma toNat_of_isDigit {c : Char} (digit : isDigit base c = true) :
    48 ≤ c.toNat ∧ c.toNat ≤ 122 := by
  simp only [isDigit, value?, Option.isSome_iff_ne_none, ne_eq, ite_eq_right_iff,
    reduceCtorEq, imp_false, not_not] at digit
  split_ifs at digit <;> omega

/-- Decimal digits are not above the decimal ones. -/
lemma toNat_le_of_isDigit {c : Char} (digit : isDigit 10 c = true) : c.toNat ≤ 57 := by
  simp only [isDigit, value?, Option.isSome_iff_ne_none, ne_eq, ite_eq_right_iff,
    reduceCtorEq, imp_false, not_not] at digit
  split_ifs at digit <;> omega

/-! ### All digits of a number -/

/-- A number below the base is one digit. -/
lemma text_of_lt {n : Nat} (below : n < base) : text base n = [digit n] := by
  rw [text, if_pos (.inr below)]

/-- A number from the base on ends in the digit of its remainder. -/
lemma text_of_le {n : Nat} (two : 2 ≤ base) (above : base ≤ n) :
    text base n = text base (n / base) ++ [digit (n % base)] := by
  rw [text, if_neg (by omega)]

/-- The digits of a number are those of its quotients, from a number below the base on. -/
lemma text_induction {P : Nat → Prop} (two : 2 ≤ base) (single : ∀ n, n < base → P n)
    (longer : ∀ n, base ≤ n → P (n / base) → P n) (n : Nat) : P n := by
  induction n using Nat.strong_induction_on with
  | h n ih =>
      by_cases below : n < base
      · exact single n below
      · exact longer n (Nat.le_of_not_lt below) (ih _ (Nat.div_lt_self (by omega) two))

/-- Every number has a digit. -/
lemma text_ne_nil (n : Nat) : text base n ≠ [] := by
  rw [text]
  split <;> simp

/-- All that a number is written with are digits. -/
lemma exists_digit_of_mem_text (two : 2 ≤ base) {n : Nat} {c : Char} (mem : c ∈ text base n) :
    ∃ d, d < base ∧ c = digit d := by
  induction n using text_induction two with
  | single n below =>
      rw [text_of_lt below, List.mem_singleton] at mem
      exact ⟨n, below, mem⟩
  | longer n above ih =>
      rw [text_of_le two above, List.mem_append, List.mem_singleton] at mem
      rcases mem with mem | rfl
      · exact ih mem
      · exact ⟨n % base, Nat.mod_lt _ (by omega), rfl⟩

/-- All that a number is written with are digits. -/
lemma isDigit_of_mem_text (two : 2 ≤ base) (bound : base ≤ 16) {n : Nat} {c : Char}
    (mem : c ∈ text base n) : isDigit base c = true := by
  obtain ⟨d, below, rfl⟩ := exists_digit_of_mem_text two mem
  rw [isDigit, value?_digit below bound]
  rfl

/-- A further digit shifts the others. -/
lemma value_concat (ds : List Char) (c : Char) :
    value base (ds ++ [c]) = value base ds * base + (value? base c).getD 0 := by
  simp [value]

/-- **The value of the digits of a number is the number.** -/
theorem value_text (two : 2 ≤ base) (bound : base ≤ 16) (n : Nat) :
    value base (text base n) = n := by
  induction n using text_induction two with
  | single n below =>
      rw [text_of_lt below]
      simp [value, value?_digit below bound]
  | longer n above ih =>
      have remainder : n % base < base := Nat.mod_lt _ (by omega)
      rw [text_of_le two above, value_concat, ih, value?_digit remainder bound]
      exact Nat.div_add_mod' n base

/-- A number is read back from its digits. -/
lemma read?_text (two : 2 ≤ base) (bound : base ≤ 16) (n : Nat) :
    read? base (text base n) = some n := by
  have some : (text base n).isEmpty = false := by simpa using text_ne_nil n
  have all : (text base n).all (isDigit base) = true :=
    List.all_eq_true.2 fun c => isDigit_of_mem_text two bound
  rw [read?, some, all, value_text two bound]
  rfl

/-- A number below a power of the base has no more digits than the exponent. -/
lemma length_text_le (two : 2 ≤ base) {n k : Nat} (below : n < base ^ (k + 1)) :
    (text base n).length ≤ k + 1 := by
  induction n using text_induction two generalizing k with
  | single n short =>
      rw [text_of_lt short]
      exact Nat.succ_le_succ (Nat.zero_le k)
  | longer n above ih =>
      rw [text_of_le two above, List.length_append]
      cases k with
      | zero =>
          rw [Nat.zero_add, Nat.pow_one] at below
          omega
      | succ k =>
          have shorter : n / base < base ^ (k + 1) :=
            Nat.div_lt_of_lt_mul (by rwa [Nat.mul_comm, ← Nat.pow_succ])
          exact Nat.succ_le_succ (ih shorter)

/-- Only zero is written with a zero in front. -/
lemma eq_zero_of_head_text (two : 2 ≤ base) (bound : base ≤ 16) {n : Nat}
    (zero : (text base n).head? = some '0') : n = 0 := by
  induction n using text_induction two with
  | single n below =>
      rw [text_of_lt below] at zero
      by_contra positive
      exact digit_ne_zero (Nat.pos_of_ne_zero positive) (by omega) (Option.some.inj zero)
  | longer n above ih =>
      rw [text_of_le two above, List.head?_append_of_ne_nil _ (text_ne_nil _)] at zero
      have none : n / base = 0 := ih zero
      have some : 0 < n / base := Nat.div_pos above (by omega)
      omega

end FloatingIp.Digits
