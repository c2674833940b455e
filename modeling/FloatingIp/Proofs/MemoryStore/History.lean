import FloatingIp.Proofs.MemoryStore.Record
import Mathlib.Data.List.DropRight

/-!
# A store and the moves made

What a store in memory holds can be told from the moves that were made with it: the time from the
times that passed, the record from the last write, the number of reads from the reads that began, and
whether the next one fails from the last count of failures and the reads begun since.  `Agrees` says
so, and every move keeps it (`agrees_of_run`).  Nothing is told from the reads that wait, which are
only known by their numbers; no two of them have the same one (`numbered_of_run`).
-/

namespace FloatingIp.MemoryStore

/-! ### What the moves tell -/

/-- How much time passes in a move. -/
def Move.millis : Move → Nat
  | .elapse millis => millis
  | _ => 0

/-- What a move writes. -/
def Move.written? : Move → Option (Option String)
  | .set value => some (some value)
  | .clear => some none
  | _ => none

/-- Whether a read begins in a move. -/
def Move.begins : Move → Bool
  | .start _ => true
  | _ => false

/-- How many reads a move makes fail. -/
def Move.count? : Move → Option Nat
  | .failNext count => some count
  | _ => none

/-- The time after some moves. -/
def clock : List Move → Nat
  | [] => 0
  | m :: moves => m.millis + clock moves

/-- What was written, in order. -/
def writes (moves : List Move) : List (Option String) :=
  moves.filterMap Move.written?

/-- How many reads have begun. -/
def begun (moves : List Move) : Nat :=
  moves.countP Move.begins

/-- The record: what was written last, with the number of the writes as its version. -/
def record (moves : List Move) : ReadResult :=
  match (writes moves).getLast? with
  | some (some value) => .marker ⟨value, (writes moves).length⟩
  | _ => .absent

/-- The last count of failures; zero where there was none. -/
def counted (moves : List Move) : Nat :=
  (moves.filterMap Move.count?).getLast?.getD 0

/-- How many reads have begun since the last count of failures. -/
def begunSince (moves : List Move) : Nat :=
  begun (moves.rtakeWhile (·.count? = none))

/-- The next read to begin is made to fail: fewer reads than were counted have begun since. -/
def Struck (moves : List Move) : Prop :=
  begunSince moves < counted moves

/-- Whether the next read fails can be decided. -/
instance (moves : List Move) : Decidable (Struck moves) :=
  inferInstanceAs (Decidable (_ < _))

/-! ### One move more -/

variable {window : Nat} {moves : List Move} {m : Move} {s t : MemoryStore}

/-- The times that pass add up. -/
lemma clock_append (moves more : List Move) : clock (moves ++ more) = clock moves + clock more := by
  induction moves with
  | nil => exact (Nat.zero_add _).symm
  | cons m moves ih => rw [List.cons_append, clock, clock, ih, Nat.add_assoc]

/-- Time does not run backwards. -/
lemma clock_le_append (moves more : List Move) : clock moves ≤ clock (moves ++ more) := by
  rw [clock_append]
  exact Nat.le_add_right _ _

/-- A further move lets its time pass. -/
@[simp]
lemma clock_concat : clock (moves ++ [m]) = clock moves + m.millis := by
  rw [clock_append]
  rfl

/-- A further move writes last what it writes. -/
@[simp]
lemma writes_concat : writes (moves ++ [m]) = writes moves ++ m.written?.toList := by
  cases h : m.written? <;> simp [writes, h]

/-- A further move begins a read or not. -/
@[simp]
lemma begun_concat : begun (moves ++ [m]) = begun moves + m.begins.toNat := by
  cases h : m.begins <;> simp [begun, h]

/-- A further count of failures replaces the last one. -/
@[simp]
lemma counted_concat : counted (moves ++ [m]) = m.count?.getD (counted moves) := by
  cases h : m.count? <;> simp [counted, h]

/-- After a further count of failures no read has begun. -/
@[simp]
lemma begunSince_concat :
    begunSince (moves ++ [m]) = if m.count? = none then begunSince moves + m.begins.toNat else 0 := by
  unfold begunSince
  rw [List.rtakeWhile_concat]
  by_cases none : m.count? = none
  · simp [none]
  · simp [none, begun]

/-! ### The store agrees with its moves -/

/-- A store holds what the moves tell. -/
structure Agrees (window : Nat) (moves : List Move) (s : MemoryStore) : Prop where
  /-- The window stays. -/
  span : s.window = window
  /-- The time is the time that passed. -/
  now : s.now = clock moves
  /-- The version is the number of writes. -/
  version : s.version = (writes moves).length
  /-- The value is what was written last. -/
  value : s.value = (writes moves).getLast?.getD none
  /-- As many reads are left to fail as were counted and have not begun since. -/
  failures : s.failures = counted moves - begunSince moves
  /-- The number of reads is the number of those begun. -/
  reads : s.reads = begun moves

/-- A read that ends is taken from those that wait. -/
lemma of_finish {ticket : Nat} (h : s.move? (.finish ticket) = some t) :
    ∃ p, s.find? ticket = some p ∧ s.canFinish p = true ∧ t = s.without ticket := by
  obtain ⟨⟨result, u⟩, finished, rfl⟩ := Option.map_eq_some_iff.mp h
  unfold finish? at finished
  split at finished
  · rename_i p found
    obtain ⟨ready, same⟩ := of_guard finished
    cases same
    exact ⟨p, found, ready, rfl⟩
  · cases finished

/-- A read that is there and can end does. -/
lemma finish?_of_canFinish {ticket : Nat} {p : Pending} (found : s.find? ticket = some p)
    (can : s.canFinish p = true) :
    s.finish? ticket = some (s.resultOf p, s.without ticket) := by
  unfold finish?
  rw [found]
  exact if_pos can

/-- What a move does to a store, the reads that wait apart. -/
structure Moved (s : MemoryStore) (m : Move) (t : MemoryStore) : Prop where
  /-- The window stays. -/
  span : t.window = s.window
  /-- Time passes. -/
  now : t.now = s.now + m.millis
  /-- A write raises the version. -/
  version : t.version = s.version + m.written?.toList.length
  /-- A write changes the value. -/
  value : t.value = m.written?.getD s.value
  /-- A count replaces the failures that are left, and a read that begins takes one of them. -/
  failures : t.failures = m.count?.getD (s.failures - m.begins.toNat)
  /-- A read may begin. -/
  reads : t.reads = s.reads + m.begins.toNat

/-- Every move does what it tells. -/
lemma moved_of_move (h : s.move? m = some t) : Moved s m t := by
  cases m with
  | set _ => cases h; exact ⟨rfl, rfl, rfl, rfl, rfl, rfl⟩
  | clear => cases h; exact ⟨rfl, rfl, rfl, rfl, rfl, rfl⟩
  | failNext _ => cases h; exact ⟨rfl, rfl, rfl, rfl, rfl, rfl⟩
  | start _ => cases h; exact ⟨rfl, rfl, rfl, rfl, rfl, rfl⟩
  | finish _ =>
      obtain ⟨-, -, -, rfl⟩ := of_finish h
      exact ⟨rfl, rfl, rfl, rfl, rfl, rfl⟩
  | forget _ => cases h; exact ⟨rfl, rfl, rfl, rfl, rfl, rfl⟩
  | elapse _ =>
      obtain ⟨-, rfl⟩ := of_guard h
      exact ⟨rfl, rfl, rfl, rfl, rfl, rfl⟩

/-- Every move keeps the store in agreement with the moves. -/
lemma Agrees.of_move (agrees : Agrees window moves s) (h : s.move? m = some t) :
    Agrees window (moves ++ [m]) t := by
  have moved := moved_of_move h
  refine ⟨moved.span.trans agrees.span, ?_, ?_, ?_, ?_, ?_⟩
  · rw [moved.now, agrees.now, clock_concat]
  · rw [moved.version, agrees.version, writes_concat, List.length_append]
  · rw [moved.value, agrees.value, writes_concat]
    cases m.written? <;> simp
  · rw [moved.failures, agrees.failures, counted_concat, begunSince_concat]
    cases m.count? with
    | some count => rfl
    | none => exact Nat.sub_sub _ _ _
  · rw [moved.reads, agrees.reads, begun_concat]

/-- In every run the store agrees with the moves that were made. -/
theorem agrees_of_run (run : (MemoryStore.new window).run? moves = some s) :
    Agrees window moves s :=
  run_induction ⟨rfl, rfl, rfl, rfl, rfl, rfl⟩ (fun _ agrees h => agrees.of_move h) run

/-- The marker as it is is the record that the moves tell. -/
lemma Agrees.current (agrees : Agrees window moves s) : s.current = record moves := by
  unfold MemoryStore.current record
  rw [agrees.value, agrees.version]
  cases h : (writes moves).getLast? with
  | none => rfl
  | some value => cases value <;> rfl

/-- The next read fails if the moves tell so. -/
lemma Agrees.fails (agrees : Agrees window moves s) :
    decide (0 < s.failures) = decide (Struck moves) := by
  rw [agrees.failures]
  exact decide_eq_decide.mpr Nat.sub_pos_iff_lt

/-! ### Reads by their numbers -/

/-- A read that begins is found by its number, and so are those that were there. -/
lemma find?_start {waitIndex ticket : Nat} :
    (s.start waitIndex).find? ticket = (s.find? ticket).or
      (if s.reads = ticket then
        some ⟨s.reads, waitIndex, s.now + s.window, decide (0 < s.failures)⟩ else none) := by
  unfold MemoryStore.find? start
  rw [List.find?_append, List.find?_singleton]
  simp only [decide_eq_true_eq]

/-- A read that is taken away is not found. -/
lemma find?_without_self {ticket : Nat} : (s.without ticket).find? ticket = none := by
  unfold MemoryStore.find? without
  simp

/-- The other reads are still found. -/
lemma find?_without_of_ne {ticket other : Nat} (ne : ticket ≠ other) :
    (s.without other).find? ticket = s.find? ticket := by
  unfold MemoryStore.find? without
  rw [List.find?_filter]
  congr 1
  funext p
  by_cases same : p.ticket = ticket
  · simp [same, ne]
  · simp [same]

/-- A move leaves the reads that have begun where they are, but for the one that it takes away. -/
lemma find?_of_move {ticket : Nat} (h : s.move? m = some t) (begun : ticket < s.reads)
    (spared : m ≠ .finish ticket ∧ m ≠ .forget ticket) : t.find? ticket = s.find? ticket := by
  cases m with
  | set _ => cases h; rfl
  | clear => cases h; rfl
  | failNext _ => cases h; rfl
  | start _ =>
      cases h
      rw [find?_start, if_neg (Nat.ne_of_gt begun), Option.or_none]
  | finish other =>
      obtain ⟨-, -, -, rfl⟩ := of_finish h
      exact find?_without_of_ne fun same => spared.1 (same ▸ rfl)
  | forget other =>
      cases h
      exact find?_without_of_ne fun same => spared.2 (same ▸ rfl)
  | elapse _ =>
      obtain ⟨-, rfl⟩ := of_guard h
      rfl

/-- What is found by a number has that number. -/
lemma ticket_of_find? {ticket : Nat} {p : Pending} (found : s.find? ticket = some p) :
    p ∈ s.pending ∧ p.ticket = ticket := by
  unfold MemoryStore.find? at found
  exact ⟨List.mem_of_find?_eq_some found, by simpa using List.find?_some found⟩

/-- Each read that waits has begun and is found by its number. -/
def Numbered (s : MemoryStore) : Prop :=
  ∀ p ∈ s.pending, p.ticket < s.reads ∧ s.find? p.ticket = some p

/-- A read that is taken away leaves the others to be found. -/
lemma Numbered.without (numbered : s.Numbered) (ticket : Nat) : (s.without ticket).Numbered := by
  intro p mem
  obtain ⟨there, other⟩ := List.mem_filter.mp mem
  obtain ⟨begun, found⟩ := numbered p there
  exact ⟨begun, (find?_without_of_ne (of_decide_eq_true other)).trans found⟩

/-- A number that no read has had finds nothing. -/
lemma Numbered.find?_reads (numbered : s.Numbered) : s.find? s.reads = none := by
  refine List.find?_eq_none.mpr fun p there => ?_
  simpa using Nat.ne_of_lt (numbered p there).1

/-- Every move keeps the reads numbered. -/
lemma Numbered.of_move (numbered : s.Numbered) (h : s.move? m = some t) : t.Numbered := by
  cases m with
  | set _ => cases h; exact numbered
  | clear => cases h; exact numbered
  | failNext _ => cases h; exact numbered
  | start waitIndex =>
      cases h
      intro p mem
      rw [find?_start]
      rcases List.mem_append.mp mem with there | new
      · obtain ⟨begun, found⟩ := numbered p there
        exact ⟨Nat.lt_succ_of_lt begun, by rw [found, Option.some_or]⟩
      · cases List.mem_singleton.mp new
        exact ⟨Nat.lt_succ_self _, by rw [numbered.find?_reads, if_pos rfl, Option.none_or]⟩
  | finish ticket =>
      obtain ⟨-, -, -, rfl⟩ := of_finish h
      exact numbered.without ticket
  | forget ticket => cases h; exact numbered.without ticket
  | elapse _ =>
      obtain ⟨-, rfl⟩ := of_guard h
      exact numbered

/-- In every run the reads are numbered. -/
theorem numbered_of_run (run : (MemoryStore.new window).run? moves = some s) : s.Numbered :=
  of_run Numbered.of_move (nofun : (MemoryStore.new window).Numbered) run

end FloatingIp.MemoryStore
