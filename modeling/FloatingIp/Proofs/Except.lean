import Mathlib.Tactic.Lemma

/-!
# Computations that succeed

A computation made of two succeeds exactly if the first does and the second does with its result, and
one succeeds if there is a result left when its errors are forgotten.
-/

namespace FloatingIp

variable {ε α β : Type}

/-- What comes after a success goes on with its result. -/
lemma ok_bind {a : α} {f : α → Except ε β} : Except.ok a >>= f = f a :=
  rfl

/-- One computation after another succeeds if both do. -/
lemma bind_eq_ok {x : Except ε α} {f : α → Except ε β} {b : β} :
    x >>= f = .ok b ↔ ∃ a, x = .ok a ∧ f a = .ok b := by
  cases x with
  | error e => exact iff_of_false nofun fun ⟨_, h, _⟩ => nomatch h
  | ok a =>
      constructor
      · exact fun h => ⟨a, rfl, h⟩
      · rintro ⟨_, same, h⟩
        cases same
        exact h

/-- What is left when errors are forgotten was there. -/
lemma eq_ok_of_toOption {x : Except ε α} {a : α} (some : x.toOption = some a) : x = .ok a := by
  cases x with
  | error e => exact nomatch some
  | ok b => exact congrArg _ (Option.some.inj some)

end FloatingIp
