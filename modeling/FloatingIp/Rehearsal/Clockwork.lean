/-!
# Clockwork

A rehearsal plays one run of a system on a clock of its own.  Whatever can happen happens at once,
in a fixed order of preference, and time passes only when nothing can happen, as far as to the next
moment at which something is due.  What a clockwork needs to know of a system is just that.

Both loops stop by themselves where the system comes to rest; the number that bounds them is out
of reach of a system that does.
-/

namespace FloatingIp.Rehearsal

/-- How a system is driven. -/
structure Clockwork (σ : Type) where
  /-- The time. -/
  now : σ → Nat
  /-- The next thing to happen at this time. -/
  next? : σ → Option σ
  /-- When something will happen by itself. -/
  due? : σ → Option Nat
  /-- Lets so much time pass. -/
  wait : σ → Nat → σ

namespace Clockwork

variable {σ : Type}

/-- More steps than any rehearsal takes. -/
def bound : Nat := 1000000000000

/-- Lets everything happen that can happen at this time, in at most `most` steps. -/
def settleUpTo (c : Clockwork σ) : (most : Nat) → σ → σ
  | 0, s => s
  | most + 1, s =>
    match c.next? s with
    | some s => c.settleUpTo most s
    | none => s

/-- Lets everything happen that can happen at this time. -/
def settle (c : Clockwork σ) (s : σ) : σ :=
  c.settleUpTo bound s

/-- The next moment up to `time` at which something is due. -/
def dueBy? (c : Clockwork σ) (time : Nat) (s : σ) : Option Nat :=
  match c.due? s with
  | some t => if c.now s < t ∧ t ≤ time then some t else none
  | none => none

/-- Plays up to `time` or, if that comes first, to a state that satisfies `isEnd`, in at most
`most` stretches of time. -/
def playUpTo (c : Clockwork σ) (isEnd : σ → Bool) (time : Nat) : (most : Nat) → σ → σ
  | 0, s => s
  | most + 1, s =>
    let s := c.settle s
    if isEnd s then s
    else match c.dueBy? time s with
      | some t => c.playUpTo isEnd time most (c.wait s (t - c.now s))
      | none => c.settle (c.wait s (time - c.now s))

/-- Plays up to `time`. -/
def playTo (c : Clockwork σ) (time : Nat) (s : σ) : σ :=
  c.playUpTo (fun _ => false) time bound s

/-- Plays until a state satisfies `isEnd`, but not beyond `time`. -/
def playUntil (c : Clockwork σ) (isEnd : σ → Bool) (time : Nat) (s : σ) : σ :=
  c.playUpTo isEnd time bound s

/-- The earlier of two moments. -/
def earlier : Option Nat → Option Nat → Option Nat
  | some a, some b => some (min a b)
  | some a, none => some a
  | none, b => b

end Clockwork
end FloatingIp.Rehearsal
