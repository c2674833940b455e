import FloatingIp.MemoryStore
import FloatingIp.Proofs.Run

/-!
# The record of a store

A store in memory keeps one record, a version with perhaps a value, and only writes change it:
reads begin and end, fail and are given up, and time passes, all without touching it.  A value
therefore always has a version above zero (`written_of_run`), and a read that ends answers with
the record as it is or fails.
-/

namespace FloatingIp.MemoryStore

/-- Whether a move writes the record. -/
def Move.isWrite : Move → Bool
  | .set _ => true
  | .clear => true
  | _ => false

/-- Two stores have the same record. -/
structure SameRecord (s t : MemoryStore) : Prop where
  /-- The value is the same. -/
  value : t.value = s.value
  /-- The version is the same. -/
  version : t.version = s.version

/-- A read that ends answers with the record as it is, or fails, and leaves the record. -/
lemma result_of_finish? {s t : MemoryStore} {ticket : Nat} {result : ReadResult}
    (h : s.finish? ticket = some (result, t)) :
    (result = s.current ∨ ∃ fault, result = .failed fault) ∧ s.SameRecord t := by
  unfold finish? at h
  split at h
  · rename_i p _
    simp only [Option.ite_none_right_eq_some, Option.some.injEq, Prod.mk.injEq] at h
    obtain ⟨-, rfl, rfl⟩ := h
    refine ⟨?_, rfl, rfl⟩
    unfold resultOf
    split
    · exact .inr ⟨_, rfl⟩
    · exact .inl rfl
  · cases h

/-- A move that is no write leaves the record. -/
lemma sameRecord_of_move {s t : MemoryStore} {m : Move} (h : s.move? m = some t)
    (read : m.isWrite = false) : s.SameRecord t := by
  cases m with
  | set _ => cases read
  | clear => cases read
  | failNext _ => cases h; exact ⟨rfl, rfl⟩
  | start _ => cases h; exact ⟨rfl, rfl⟩
  | finish ticket =>
      obtain ⟨⟨result, u⟩, finished, rfl⟩ := Option.map_eq_some_iff.mp h
      exact (result_of_finish? finished).2
  | forget _ => cases h; exact ⟨rfl, rfl⟩
  | elapse millis =>
      obtain ⟨-, rfl⟩ := of_guard h
      exact ⟨rfl, rfl⟩

/-- A write raises the version by one. -/
lemma version_of_write {s t : MemoryStore} {m : Move} (h : s.move? m = some t)
    (write : m.isWrite = true) : t.version = s.version + 1 := by
  cases m with
  | set _ => cases h; rfl
  | clear => cases h; rfl
  | _ => cases write

/-- A record with a value has been written. -/
def Written (s : MemoryStore) : Prop :=
  s.value ≠ none → 0 < s.version

/-- Every move keeps a record written. -/
lemma Written.of_move {s t : MemoryStore} {m : Move} (written : s.Written)
    (h : s.move? m = some t) : t.Written := by
  intro some
  cases kind : m.isWrite with
  | true =>
      rw [version_of_write h kind]
      exact Nat.succ_pos _
  | false =>
      have same := sameRecord_of_move h kind
      rw [same.value] at some
      rw [same.version]
      exact written some

/-- In every run a value has a version above zero. -/
theorem written_of_run {window : Nat} {moves : List Move} {s : MemoryStore}
    (run : (MemoryStore.new window).run? moves = some s) : s.Written :=
  of_run Written.of_move (fun absent => absurd rfl absent) run

/-- Whether the marker that is there names a node. -/
def Names (s : MemoryStore) (node : String) : Prop :=
  ∃ m, s.current = .marker m ∧ m.names node = true

/-- The marker names a node if the value is there and is the node's name. -/
lemma names_iff {s : MemoryStore} {node value : String} (there : s.value = some value) :
    s.Names node ↔ (value == node) = true := by
  unfold Names current
  rw [there]
  constructor
  · rintro ⟨m, same, names⟩
    cases same
    exact names
  · intro names
    exact ⟨_, rfl, names⟩

/-- A marker that is there is the record. -/
lemma record_of_current {s : MemoryStore} {m : Marker} (h : s.current = .marker m) :
    s.value = some m.value ∧ s.version = m.version := by
  unfold current at h
  split at h
  · rename_i value there
    cases h
    exact ⟨there, rfl⟩
  · cases h

/-- The marker as it is is a matter of the record. -/
lemma SameRecord.current {s t : MemoryStore} (same : s.SameRecord t) : t.current = s.current := by
  rw [MemoryStore.current, MemoryStore.current, same.value, same.version]

end FloatingIp.MemoryStore
