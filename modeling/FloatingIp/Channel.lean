import FloatingIp.Digits

/-!
# Bounded channels

A channel holds up to `capacity` items in the order in which they came.  Each of its two ends can
go: nothing is accepted once the receiver has gone, and nothing is to be waited for once the
sender has gone and the items are taken.  The channel remembers what has been taken from it, so
that everything that it ever accepted can be told.
-/

namespace FloatingIp

/-- A bounded channel. -/
structure Channel (α : Type) where
  /-- How many items may wait. -/
  capacity : Nat
  /-- Items that have been taken, in order. -/
  taken : List α
  /-- Items that wait, in order. -/
  queue : List α
  /-- Whether the sender is there. -/
  senderHere : Bool
  /-- Whether the receiver is there. -/
  receiverHere : Bool
  deriving DecidableEq, Repr

namespace Channel

variable {α : Type}

/-- The greatest capacity that a channel can have. -/
def maxCapacity : Nat := Digits.twoTo 61 - 1

/-- An empty channel; there is none without room, nor one beyond the greatest capacity. -/
def new? (capacity : Nat) : Option (Channel α) :=
  if 1 ≤ capacity ∧ capacity ≤ maxCapacity then some ⟨capacity, [], [], true, true⟩ else none

/-- Everything that the channel has accepted, in order. -/
def accepted (c : Channel α) : List α :=
  c.taken ++ c.queue

/-- Whether the channel accepts an item now. -/
def accepts (c : Channel α) : Bool :=
  c.receiverHere && c.queue.length < c.capacity

/-- Adds an item, if the channel accepts it. -/
def put? (c : Channel α) (a : α) : Option (Channel α) :=
  if c.accepts then some { c with queue := c.queue ++ [a] } else none

/-- Takes the item that waits longest. -/
def take? (c : Channel α) : Option (α × Channel α) :=
  match c.queue with
  | a :: queue =>
    if c.receiverHere then some (a, { c with taken := c.taken ++ [a], queue }) else none
  | [] => none

/-- Whether the receiver can learn that nothing more will come. -/
def isFinished (c : Channel α) : Bool :=
  c.queue.isEmpty && !c.senderHere

/-- The channel after its sender has gone. -/
def withoutSender (c : Channel α) : Channel α :=
  { c with senderHere := false }

/-- The channel after its receiver has gone. -/
def withoutReceiver (c : Channel α) : Channel α :=
  { c with receiverHere := false }

/-- A new channel is empty, has room for an item, and has both its ends. -/
theorem eq_of_new? {capacity : Nat} {c : Channel α} (h : new? capacity = some c) :
    1 ≤ capacity ∧ c = ⟨capacity, [], [], true, true⟩ := by
  unfold new? at h
  split at h
  · rename_i bounds
    exact ⟨bounds.1, (Option.some.inj h).symm⟩
  · cases h

/-- An item that is put in waits behind the others. -/
theorem put?_eq_some {c d : Channel α} {a : α} :
    c.put? a = some d ↔ c.accepts = true ∧ d = { c with queue := c.queue ++ [a] } := by
  unfold put?
  rw [Option.ite_none_right_eq_some, Option.some.injEq, @eq_comm _ d]

/-- An item that is taken waited longest, and a receiver takes it. -/
theorem take?_eq_some {c d : Channel α} {a : α} :
    c.take? = some (a, d) ↔ ∃ rest, c.queue = a :: rest ∧ c.receiverHere = true ∧
      d = { c with taken := c.taken ++ [a], queue := rest } := by
  unfold take?
  cases c.queue with
  | nil => simp
  | cons b rest =>
      constructor
      · intro h
        rw [Option.ite_none_right_eq_some] at h
        obtain ⟨here, h⟩ := h
        cases h
        exact ⟨rest, rfl, here, rfl⟩
      · rintro ⟨_, same, here, rfl⟩
        cases same
        exact if_pos here

/-- An item that is put in is the last that was accepted. -/
theorem accepted_of_put? {c d : Channel α} {a : α} (h : c.put? a = some d) :
    d.accepted = c.accepted ++ [a] := by
  obtain ⟨-, rfl⟩ := put?_eq_some.mp h
  simp [accepted]

/-- Taking an item changes nothing about what was accepted. -/
theorem accepted_of_take? {c d : Channel α} {a : α} (h : c.take? = some (a, d)) :
    d.accepted = c.accepted := by
  obtain ⟨rest, queue, -, rfl⟩ := take?_eq_some.mp h
  simp [accepted, queue]

end Channel
end FloatingIp
