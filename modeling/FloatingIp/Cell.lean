/-!
# The latest-value cell

A cell holds one value and a count of its writes.  A write replaces the value, seen or not; a
subscriber remembers how many writes it has seen and is due to look again when there are more.
The count grows at every write that is to wake somebody, so that a value which has flipped and
flipped back counts as changed, and the value itself is never queued.
-/

namespace FloatingIp

/-- A value with the number of writes that led to it. -/
structure Cell (α : Type) where
  /-- The latest value. -/
  value : α
  /-- How many writes there were. -/
  writes : Nat
  deriving DecidableEq, Repr

namespace Cell

variable {α : Type}

/-- A cell that nobody has written to. -/
def new (a : α) : Cell α :=
  ⟨a, 0⟩

/-- Writes a value and wakes every subscriber. -/
def write (c : Cell α) (a : α) : Cell α :=
  ⟨a, c.writes + 1⟩

/-- Wakes every subscriber and leaves the value. -/
def touch (c : Cell α) : Cell α :=
  c.write c.value

/-- Writes a value only if it differs, and says whether it did. -/
def publish [DecidableEq α] (c : Cell α) (a : α) : Bool × Cell α :=
  if c.value = a then (false, c) else (true, c.write a)

/-- Whether a subscriber that has seen `seen` writes is due to look again. -/
def changedSince (c : Cell α) (seen : Nat) : Bool :=
  c.writes != seen

@[simp] theorem value_write (c : Cell α) (a : α) : (c.write a).value = a := rfl

@[simp] theorem writes_write (c : Cell α) (a : α) : (c.write a).writes = c.writes + 1 := rfl

@[simp] theorem value_touch (c : Cell α) : c.touch.value = c.value := rfl

@[simp] theorem writes_touch (c : Cell α) : c.touch.writes = c.writes + 1 := rfl

/-- A published value is the cell's value afterwards, written or not. -/
@[simp] theorem value_publish [DecidableEq α] (c : Cell α) (a : α) :
    (c.publish a).2.value = a := by
  unfold publish
  split <;> simp_all

end Cell
end FloatingIp
