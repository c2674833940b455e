import FloatingIp.Proofs.MemoryStore.History
import Mathlib.Data.List.Induction
import Mathlib.Tactic.Push

/-!
# When a read ends, and with what

Any number of reads wait at a time, each above its own index and with a window of its own, while
writes come and counts of failures.  What comes of each can be told from the moves
(`reads_end_when_due`).  A read that is made to fail, or that does not wait, ends in the moment in
which it begins; another ends when the version is above its index, or else when its window is over
(`due`).  It answers with the record as it is then.

The time is due to come in every run: time passes up to it, and no further before the read has ended
(`Waits`, kept by every move).  Nothing is in the way of time either, whatever waits (`time_passes`).
-/

namespace FloatingIp.MemoryStore

/-! ### When a read is due -/

/-- The times of the writes, in order, from a time on. -/
def writeTimes : Nat → List Move → List Nat
  | _, [] => []
  | now, m :: moves => (m.written?.map fun _ => now).toList ++ writeTimes (now + m.millis) moves

/-- When a read that began after some moves is woken: at once if it fails or does not wait, otherwise
as soon as there are more writes than its index. -/
def wake? (past : List Move) (waitIndex : Nat) (moves : List Move) : Option Nat :=
  if Struck past ∨ waitIndex = 0 then some (clock past)
  else (writeTimes 0 moves)[waitIndex]?.map (max (clock past))

/-- When a read that began after some moves is due to end: when it is woken, but no later than its
window is over. -/
def due (window : Nat) (past : List Move) (waitIndex : Nat) (moves : List Move) : Nat :=
  match wake? past waitIndex moves with
  | some time => min time (clock past + window)
  | none => clock past + window

/-- The version that wakes a read: the one that there is as it begins, or the first one above its
index. -/
def wakeVersion (past : List Move) (waitIndex : Nat) : Nat :=
  if Struck past ∨ waitIndex = 0 then (writes past).length
  else max (writes past).length (waitIndex + 1)

/-- Some moves leave a read alone. -/
def Spare (ticket : Nat) (moves : List Move) : Prop :=
  .finish ticket ∉ moves ∧ .forget ticket ∉ moves

/-- Nothing is written while a read could end. -/
def Unhurried (window : Nat) (moves : List Move) : Prop :=
  ∀ before s m, ComesTo move? (MemoryStore.new window) moves before s m → m.written? ≠ none →
    ∀ p ∈ s.pending, s.canFinish p = false

/-- A read ends after some moves, with a result. -/
def EndsWith (window : Nat) (moves : List Move) (ticket : Nat) (result : ReadResult) : Prop :=
  ∃ s t, (MemoryStore.new window).run? moves = some s ∧ s.finish? ticket = some (result, t)

/-- What has come of a read that began after some moves, in the moves since. -/
inductive Fate (window : Nat) (past : List Move) (waitIndex : Nat) (since : List Move)
    (s : MemoryStore) : Prop where
  /-- It waits, is not late, and can end exactly if it is due. -/
  | waits (spare : Spare (begun past) since)
      (inTime : clock (past ++ .start waitIndex :: since) ≤
        due window past waitIndex (past ++ .start waitIndex :: since))
      (ready : (s.finish? (begun past)).isSome = true ↔
        clock (past ++ .start waitIndex :: since) =
          due window past waitIndex (past ++ .start waitIndex :: since))
  /-- It has ended, once, when it was due, and failed or answered with the record as it was. -/
  | ended {mid late : List Move} (split : since = mid ++ .finish (begun past) :: late)
      (spare : Spare (begun past) mid) (once : .finish (begun past) ∉ late)
      (result : EndsWith window (past ++ .start waitIndex :: mid) (begun past)
        (if Struck past then .failed (.store .injected)
          else record (past ++ .start waitIndex :: mid)))
      (inTime : clock (past ++ .start waitIndex :: mid) =
        due window past waitIndex (past ++ .start waitIndex :: since))
      (above : ¬Struck past → 0 < waitIndex →
        waitIndex < (writes (past ++ .start waitIndex :: mid)).length ∨
          clock (past ++ .start waitIndex :: mid) = clock past + window)
      (first : Unhurried window (past ++ .start waitIndex :: since) →
        (writes (past ++ .start waitIndex :: mid)).length ≤ wakeVersion past waitIndex)
  /-- It was given up. -/
  | forgotten {mid late : List Move} (split : since = mid ++ .forget (begun past) :: late)
      (spare : Spare (begun past) mid) (never : .finish (begun past) ∉ late)

/-! ### One move more -/

variable {window : Nat} {past moves : List Move} {waitIndex : Nat} {m : Move} {s t : MemoryStore}

/-- A further write comes at the time that there is. -/
lemma writeTimes_concat (now : Nat) :
    writeTimes now (moves ++ [m]) =
      writeTimes now moves ++ (m.written?.map fun _ => now + clock moves).toList := by
  induction moves generalizing now with
  | nil => simp [writeTimes, clock]
  | cons n moves ih => simp [writeTimes, ih, clock, Nat.add_assoc]

/-- Each write has its time. -/
lemma length_writeTimes (now : Nat) : (writeTimes now moves).length = (writes moves).length := by
  induction moves generalizing now with
  | nil => rfl
  | cons n moves ih =>
      rw [writeTimes, List.length_append, ih, writes, writes, List.filterMap_cons]
      cases n.written? <;> simp [Nat.add_comm]

/-- No write comes later than the time that there is. -/
lemma le_of_mem_writeTimes {now time : Nat} (mem : time ∈ writeTimes now moves) :
    time ≤ now + clock moves := by
  induction moves generalizing now with
  | nil => cases mem
  | cons n moves ih =>
      rw [writeTimes, List.mem_append] at mem
      rw [clock]
      rcases mem with first | later
      · obtain ⟨value, -, rfl⟩ := Option.map_eq_some_iff.mp (Option.mem_toList.mp first)
        exact Nat.le_add_right _ _
      · have := ih later
        omega

/-- A read that is woken by what there is as it begins is woken at once. -/
lemma wake?_self {time : Nat} (woken : wake? past waitIndex past = some time) :
    time = clock past := by
  unfold wake? at woken
  split at woken
  · cases woken
    rfl
  · obtain ⟨write, there, rfl⟩ := Option.map_eq_some_iff.mp woken
    have early := le_of_mem_writeTimes (List.mem_of_getElem? there)
    rw [Nat.zero_add] at early
    exact Nat.max_eq_left early

/-- A read that is woken stays so. -/
lemma wake?_concat_of_some {time : Nat} (woken : wake? past waitIndex moves = some time) :
    wake? past waitIndex (moves ++ [m]) = some time := by
  unfold wake? at woken ⊢
  split at woken
  · rename_i atOnce
    rw [if_pos atOnce]
    exact woken
  · rename_i later
    rw [if_neg later]
    obtain ⟨write, there, rfl⟩ := Option.map_eq_some_iff.mp woken
    have early := (List.getElem?_eq_some_iff.mp there).1
    rw [writeTimes_concat, List.getElem?_append_left early, there]
    rfl

/-- A read that is not woken stays so, or is woken by a write, in the moment of the write. -/
lemma wake?_concat_of_none (asleep : wake? past waitIndex moves = none) :
    wake? past waitIndex (moves ++ [m]) = none ∨
      m.written? ≠ none ∧
        wake? past waitIndex (moves ++ [m]) = some (max (clock past) (clock moves)) := by
  unfold wake? at asleep ⊢
  split at asleep
  · cases asleep
  · rename_i later
    rw [if_neg later]
    have beyond := List.getElem?_eq_none_iff.mp (Option.map_eq_none_iff.mp asleep)
    rw [writeTimes_concat, List.getElem?_append_right beyond, Nat.zero_add]
    cases h : m.written? with
    | none => exact .inl rfl
    | some value =>
        cases k : waitIndex - (writeTimes 0 moves).length with
        | zero => exact .inr ⟨nofun, rfl⟩
        | succ k => exact .inl rfl

/-- What is due does not become due at another time. -/
lemma due_concat (come : due window past waitIndex moves ≤ clock moves) :
    due window past waitIndex (moves ++ [m]) = due window past waitIndex moves := by
  unfold due at come ⊢
  cases h : wake? past waitIndex moves with
  | some time => rw [wake?_concat_of_some h]
  | none =>
      rw [h] at come
      rcases wake?_concat_of_none h with still | ⟨-, woken⟩
      · rw [still]
      · rw [woken]
        exact Nat.min_eq_right (Nat.le_trans come (Nat.le_max_right _ _))

/-- What is due stays due at that time, whatever comes. -/
lemma due_append (come : due window past waitIndex moves ≤ clock moves) (more : List Move) :
    due window past waitIndex (moves ++ more) = due window past waitIndex moves := by
  induction more generalizing moves with
  | nil => rw [List.append_nil]
  | cons m more ih =>
      have same := due_concat (m := m) come
      have come' : due window past waitIndex (moves ++ [m]) ≤ clock (moves ++ [m]) := by
        rw [same]
        exact Nat.le_trans come (clock_le_append moves [m])
      rw [List.append_cons, ih come', same]

/-! ### A read that waits -/

/-- A read as it begins after some moves. -/
def reading (window : Nat) (past : List Move) (waitIndex : Nat) : Pending :=
  ⟨begun past, waitIndex, clock past + window, decide (Struck past)⟩

/-- A read is ready to end if it is woken or its window is over. -/
def Ready (window : Nat) (past : List Move) (waitIndex : Nat) (moves : List Move) : Prop :=
  (wake? past waitIndex moves).isSome = true ∨ clock past + window ≤ clock moves

/-- A read is woken if it fails, does not wait or waits for a version that is there. -/
lemma isSome_wake? : (wake? past waitIndex moves).isSome = true ↔
    Struck past ∨ waitIndex = 0 ∨ waitIndex < (writes moves).length := by
  unfold wake?
  rw [← or_assoc]
  split
  · rename_i atOnce
    exact iff_of_true rfl (.inl atOnce)
  · rename_i later
    rw [Option.isSome_map, ← length_writeTimes 0, Option.isSome_iff_ne_none, ne_eq,
      List.getElem?_eq_none_iff, Nat.not_le]
    simp [not_or.mp later]

/-- A read can end if it is ready. -/
lemma Agrees.canFinish_reading (agrees : Agrees window moves s) :
    s.canFinish (reading window past waitIndex) = true ↔ Ready window past waitIndex moves := by
  unfold canFinish reading Ready
  rw [isSome_wake?, agrees.now, agrees.version]
  simp [or_assoc]

/-- A read cannot end if it is not ready. -/
lemma Agrees.canFinish_eq_false (agrees : Agrees window moves s) :
    s.canFinish (reading window past waitIndex) = false ↔ ¬Ready window past waitIndex moves := by
  rw [← agrees.canFinish_reading, Bool.not_eq_true]

/-- Time has come no further than to where a read that began after some moves is due. -/
structure OnTime (window : Nat) (past : List Move) (waitIndex : Nat) (moves : List Move) :
    Prop where
  /-- The read has begun. -/
  since : clock past ≤ clock moves
  /-- Its window lasts. -/
  span : clock moves ≤ clock past + window
  /-- No time has passed since it was woken. -/
  woken : ∀ time, wake? past waitIndex moves = some time →
    clock moves = min time (clock past + window)

/-- A read that is on time is not late. -/
lemma OnTime.le_due (onTime : OnTime window past waitIndex moves) :
    clock moves ≤ due window past waitIndex moves := by
  unfold due
  split
  · rename_i time woken
    exact Nat.le_of_eq (onTime.woken time woken)
  · exact onTime.span

/-- A read that is on time is ready exactly if it is due. -/
lemma OnTime.ready_iff (onTime : OnTime window past waitIndex moves) :
    Ready window past waitIndex moves ↔ clock moves = due window past waitIndex moves := by
  unfold Ready due
  split
  · rename_i time woken
    rw [woken]
    exact iff_of_true (.inl rfl) (onTime.woken time woken)
  · rename_i asleep
    rw [asleep]
    have := onTime.span
    simp
    omega

/-- A read that is ready though it was not made to fail and waits has its version, or its window is
over. -/
lemma OnTime.above (onTime : OnTime window past waitIndex moves)
    (ready : Ready window past waitIndex moves) (sound : ¬Struck past) (waiting : 0 < waitIndex) :
    waitIndex < (writes moves).length ∨ clock moves = clock past + window := by
  rcases ready with woken | elapsed
  · left
    have atOnce := (isSome_wake?.mp woken).resolve_left sound
    exact atOnce.resolve_left (Nat.ne_of_gt waiting)
  · right
    exact Nat.le_antisymm onTime.span elapsed

/-- A read is on time as it begins. -/
lemma onTime_start : OnTime window past waitIndex (past ++ [.start waitIndex]) := by
  have same : clock (past ++ [.start waitIndex]) = clock past := by simp [Move.millis]
  refine ⟨Nat.le_of_eq same.symm, ?_, ?_⟩
  · rw [same]
    exact Nat.le_add_right _ _
  · intro time woken
    have atOnce : time = clock past := by
      cases before : wake? past waitIndex past with
      | some time' =>
          rw [wake?_concat_of_some before] at woken
          cases woken
          exact wake?_self before
      | none =>
          rcases wake?_concat_of_none before with still | ⟨written, -⟩
          · rw [still] at woken
            cases woken
          · exact absurd rfl written
    omega

/-- No time passes in a write. -/
lemma Move.millis_of_written (written : m.written? ≠ none) : m.millis = 0 := by
  cases m with
  | elapse _ => exact absurd rfl written
  | _ => rfl

/-- A read stays on time if time passes only while it is not ready, and no further than its window
lasts. -/
lemma OnTime.concat (onTime : OnTime window past waitIndex moves)
    (passes : m.millis = 0 ∨ ¬Ready window past waitIndex moves ∧
      clock moves + m.millis ≤ clock past + window) :
    OnTime window past waitIndex (moves ++ [m]) := by
  have since := onTime.since
  have span := onTime.span
  refine ⟨Nat.le_trans since (clock_le_append moves [m]), ?_, ?_⟩
  · rw [clock_concat]
    omega
  · intro time woken
    rw [clock_concat]
    cases before : wake? past waitIndex moves with
    | some time' =>
        rw [wake?_concat_of_some before] at woken
        cases woken
        have instant := passes.resolve_right fun room => room.1 (.inl (by rw [before]; rfl))
        rw [instant]
        exact onTime.woken time before
    | none =>
        rcases wake?_concat_of_none (m := m) before with still | ⟨written, now⟩
        · rw [still] at woken
          cases woken
        · rw [now] at woken
          cases woken
          rw [Move.millis_of_written written]
          omega

/-- What was not hurried was not before either. -/
lemma Unhurried.of_append {more : List Move} (unhurried : Unhurried window (moves ++ more)) :
    Unhurried window moves := by
  intro before u n comes
  exact unhurried before u n (comes.further more)

/-- The version that wakes a read is no lower than the one that there is as it begins. -/
lemma length_writes_le_wakeVersion : (writes past).length ≤ wakeVersion past waitIndex := by
  unfold wakeVersion
  split
  · exact Nat.le_refl _
  · exact Nat.le_max_left _ _

/-- A write while a read is not ready comes to no higher version than to wake it. -/
lemma lt_wakeVersion (unready : ¬Ready window past waitIndex moves) :
    (writes moves).length < wakeVersion past waitIndex := by
  have asleep : ¬(Struck past ∨ waitIndex = 0 ∨ waitIndex < (writes moves).length) := by
    rw [← isSome_wake?]
    exact fun woken => unready (.inl woken)
  rw [← or_assoc, not_or] at asleep
  unfold wakeVersion
  rw [if_neg asleep.1]
  omega

/-- A read waits: it is there, and it is on time. -/
structure Waits (window : Nat) (past : List Move) (waitIndex : Nat) (moves : List Move)
    (s : MemoryStore) : Prop extends OnTime window past waitIndex moves where
  /-- It is there. -/
  there : s.find? (begun past) = some (reading window past waitIndex)
  /-- If nothing was written while a read could end, the version is no higher than to wake it. -/
  first : Unhurried window moves → (writes moves).length ≤ wakeVersion past waitIndex

/-- A read waits as it begins. -/
lemma waits_start (agrees : Agrees window past s) (numbered : s.Numbered) :
    Waits window past waitIndex (past ++ [.start waitIndex]) (s.start waitIndex) := by
  refine ⟨onTime_start, ?_, fun _ => ?_⟩
  · have new := numbered.find?_reads
    rw [agrees.reads] at new
    rw [find?_start, new, agrees.reads, if_pos rfl, agrees.now, agrees.span, agrees.fails]
    rfl
  · have same : writes (past ++ [.start waitIndex]) = writes past := by simp [Move.written?]
    rw [same]
    exact length_writes_le_wakeVersion

/-- Time passes only while no read could end, and no further than the first window lasts. -/
lemma passes_of_move (h : s.move? m = some t) : m.millis = 0 ∨
    ∀ p ∈ s.pending, s.canFinish p = false ∧ s.now + m.millis ≤ p.deadline := by
  cases m with
  | elapse millis =>
      obtain ⟨may, -⟩ := of_guard h
      simpa [mayElapse, Move.millis] using may
  | _ => exact .inl rfl

/-- A move that does not end or take away a read leaves it waiting. -/
lemma Waits.of_move (waits : Waits window past waitIndex moves s)
    (run : (MemoryStore.new window).run? moves = some s) (h : s.move? m = some t)
    (spared : m ≠ .finish (begun past) ∧ m ≠ .forget (begun past)) :
    Waits window past waitIndex (moves ++ [m]) t := by
  have agrees := agrees_of_run run
  have mem : reading window past waitIndex ∈ s.pending := (ticket_of_find? waits.there).1
  have began : begun past < s.reads := (numbered_of_run run _ mem).1
  refine ⟨waits.toOnTime.concat ?_, (find?_of_move h began spared).trans waits.there, ?_⟩
  · refine (passes_of_move h).imp_right fun all => ?_
    obtain ⟨unready, room⟩ := all _ mem
    rw [agrees.now] at room
    exact ⟨agrees.canFinish_eq_false.mp unready, room⟩
  · intro unhurried
    rw [writes_concat, List.length_append]
    cases written : m.written? with
    | none => simpa using waits.first unhurried.of_append
    | some value =>
        have unready := unhurried moves s m (comesTo_last run m) (by rw [written]; nofun) _ mem
        exact lt_wakeVersion (agrees.canFinish_eq_false.mp unready)

/-- A run in which a read begins goes on from its beginning. -/
lemma run_of_start {since : List Move}
    (run : (MemoryStore.new window).run? (past ++ .start waitIndex :: since) = some s) :
    ∃ s₀, (MemoryStore.new window).run? past = some s₀ ∧ (s₀.start waitIndex).run? since = some s := by
  obtain ⟨s₀, before, rest⟩ := run_append.mp run
  obtain ⟨s₁, first, after⟩ := run_cons.mp rest
  cases first
  exact ⟨s₀, before, after⟩

/-- In every run a read waits until it is ended or given up. -/
theorem waits_of_run {since : List Move}
    (run : (MemoryStore.new window).run? (past ++ .start waitIndex :: since) = some s)
    (spare : Spare (begun past) since) :
    Waits window past waitIndex (past ++ .start waitIndex :: since) s := by
  obtain ⟨s₀, before, after⟩ := run_of_start run
  revert spare
  refine run_induction (P := fun since s => Spare (begun past) since →
    Waits window past waitIndex (past ++ .start waitIndex :: since) s) ?_ ?_ after
  · intro _
    exact waits_start (agrees_of_run before) (numbered_of_run before)
  · intro since u m t made waits h spare
    obtain ⟨unended, unforgotten⟩ := spare
    rw [List.mem_append, List.mem_singleton, not_or] at unended unforgotten
    have made' : (MemoryStore.new window).run? (past ++ .start waitIndex :: since) = some u :=
      run_append.mpr ⟨s₀, before, run_cons.mpr ⟨_, rfl, made⟩⟩
    have := (waits ⟨unended.1, unforgotten.1⟩).of_move made' h
      ⟨Ne.symm unended.2, Ne.symm unforgotten.2⟩
    simpa using this

/-! ### A read that is gone -/

/-- A read has begun and does not wait any more. -/
def Gone (ticket : Nat) (s : MemoryStore) : Prop :=
  ticket < s.reads ∧ s.find? ticket = none

/-- A read that is gone does not end. -/
lemma Gone.not_finish {ticket : Nat} (gone : Gone ticket s)
    (h : s.move? (.finish ticket) = some t) : False := by
  obtain ⟨p, found, -⟩ := of_finish h
  rw [gone.2] at found
  cases found

/-- A read that is gone stays so. -/
lemma Gone.of_move {ticket : Nat} (gone : Gone ticket s) (h : s.move? m = some t) :
    Gone ticket t := by
  have began : ticket < t.reads := by
    rw [(moved_of_move h).reads]
    exact Nat.lt_add_right _ gone.1
  refine ⟨began, ?_⟩
  by_cases forgotten : m = .forget ticket
  · rw [forgotten] at h
    cases h
    exact find?_without_self
  · have spared : m ≠ .finish ticket := fun same => gone.not_finish (same ▸ h)
    rw [find?_of_move h gone.1 ⟨spared, forgotten⟩, gone.2]

/-- A read that is gone does not end later. -/
lemma Gone.not_mem {ticket : Nat} {late : List Move} (gone : Gone ticket s)
    (run : s.run? late = some t) : .finish ticket ∉ late := by
  intro mem
  obtain ⟨early, rest, rfl⟩ := List.append_of_mem mem
  obtain ⟨u, before, after⟩ := run_append.mp run
  obtain ⟨v, ends, -⟩ := run_cons.mp after
  exact (of_run Gone.of_move gone before).not_finish ends

/-! ### What comes of each read -/

/-- Some moves leave a read alone, or there is a first one that does not. -/
lemma spare_or_first (ticket : Nat) (moves : List Move) :
    Spare ticket moves ∨ ∃ mid m late, moves = mid ++ m :: late ∧ Spare ticket mid ∧
      (m = .finish ticket ∨ m = .forget ticket) := by
  cases h : moves.find? (fun m => m = .finish ticket ∨ m = .forget ticket) with
  | none =>
      left
      have none := List.find?_eq_none.mp h
      exact ⟨fun mem => none _ mem (by simp), fun mem => none _ mem (by simp)⟩
  | some m =>
      right
      obtain ⟨touches, mid, late, split, before⟩ := List.find?_eq_some_iff_append.mp h
      refine ⟨mid, m, late, split, ⟨fun mem => ?_, fun mem => ?_⟩, by simpa using touches⟩
      · simpa using before _ mem
      · simpa using before _ mem

/-- A read that waits ends with a failure or with the record. -/
lemma Waits.finish? (waits : Waits window past waitIndex moves s) (agrees : Agrees window moves s)
    (ready : Ready window past waitIndex moves) :
    s.finish? (begun past) = some
      (if Struck past then .failed (.store .injected) else record moves, s.without (begun past)) := by
  rw [finish?_of_canFinish waits.there (agrees.canFinish_reading.mpr ready), ← agrees.current]
  simp [resultOf, reading]

/-- A read that waits can end exactly if it is ready. -/
lemma Waits.isSome_finish? (waits : Waits window past waitIndex moves s)
    (agrees : Agrees window moves s) :
    (s.finish? (begun past)).isSome = true ↔ Ready window past waitIndex moves := by
  constructor
  · intro ends
    unfold MemoryStore.finish? at ends
    rw [waits.there] at ends
    simp only at ends
    split at ends
    · rename_i can
      exact agrees.canFinish_reading.mp can
    · cases ends
  · intro ready
    rw [waits.finish? agrees ready]
    rfl

/-- A read that is ended or given up is gone. -/
lemma Waits.gone (waits : Waits window past waitIndex moves s) (numbered : s.Numbered)
    (h : s.move? m = some t) (touches : m = .finish (begun past) ∨ m = .forget (begun past)) :
    Gone (begun past) t := by
  have began : begun past < s.reads :=
    (numbered _ ((ticket_of_find? waits.there).1)).1
  rcases touches with rfl | rfl
  · obtain ⟨-, -, -, rfl⟩ := of_finish h
    exact ⟨began, find?_without_self⟩
  · cases h
    exact ⟨began, find?_without_self⟩

/-- In every run each read waits, has ended or was given up. -/
theorem fate_of_run {since : List Move}
    (run : (MemoryStore.new window).run? (past ++ .start waitIndex :: since) = some s) :
    Fate window past waitIndex since s := by
  rcases spare_or_first (begun past) since with spare | ⟨mid, m, late, rfl, spare, touches⟩
  · have waits := waits_of_run run spare
    refine .waits spare waits.le_due ?_
    rw [waits.isSome_finish? (agrees_of_run run), waits.ready_iff]
  · have whole : past ++ .start waitIndex :: (mid ++ m :: late) =
        (past ++ .start waitIndex :: mid) ++ m :: late := by simp
    rw [whole] at run
    obtain ⟨u, before, after⟩ := run_append.mp run
    obtain ⟨v, h, rest⟩ := run_cons.mp after
    have waits := waits_of_run before spare
    have agrees := agrees_of_run before
    have gone := waits.gone (numbered_of_run before) h touches
    rcases touches with rfl | rfl
    · obtain ⟨p, found, can, -⟩ := of_finish h
      rw [waits.there] at found
      cases found
      have ready := agrees.canFinish_reading.mp can
      have come := waits.ready_iff.mp ready
      refine .ended rfl spare (gone.not_mem rest) ⟨u, _, before, waits.finish? agrees ready⟩ ?_
        (waits.above ready) ?_
      · rw [whole, due_append (Nat.le_of_eq come.symm)]
        exact come
      · intro unhurried
        rw [whole] at unhurried
        exact waits.first unhurried.of_append
    · exact .forgotten rfl spare (gone.not_mem rest)

/-- Each number up to that of the reads begun is that of a read. -/
lemma exists_start_of_lt {ticket : Nat} (early : ticket < begun moves) :
    ∃ past waitIndex since, moves = past ++ .start waitIndex :: since ∧ begun past = ticket := by
  induction moves using List.reverseRecOn with
  | nil => cases early
  | append_singleton moves m ih =>
      rw [begun_concat] at early
      by_cases before : ticket < begun moves
      · obtain ⟨past, waitIndex, since, split, same⟩ := ih before
        exact ⟨past, waitIndex, since ++ [m], by rw [split]; simp, same⟩
      · cases m with
        | start waitIndex =>
            simp only [Move.begins, Bool.toNat_true] at early
            exact ⟨moves, waitIndex, [], rfl, by omega⟩
        | _ => exact absurd early before

/-- What ends in a run is a read that has begun. -/
lemma exists_start_of_finish {mid late : List Move} {ticket : Nat}
    (run : (MemoryStore.new window).run? (mid ++ .finish ticket :: late) = some s) :
    ∃ past waitIndex since, mid = past ++ .start waitIndex :: since ∧ begun past = ticket := by
  obtain ⟨u, before, after⟩ := run_append.mp run
  obtain ⟨v, ends, -⟩ := run_cons.mp after
  obtain ⟨p, found, -⟩ := of_finish ends
  obtain ⟨there, same⟩ := ticket_of_find? found
  have began := (numbered_of_run before p there).1
  rw [same, (agrees_of_run before).reads] at began
  exact exists_start_of_lt began

/-! ### Time passes -/

/-- A move that comes by itself: a read ends, or time passes. -/
inductive Move.Own : Move → Prop where
  | finish (ticket : Nat) : Move.Own (.finish ticket)
  | elapse (millis : Nat) : Move.Own (.elapse millis)

/-- No read could end. -/
def Settled (s : MemoryStore) : Prop :=
  ∀ p ∈ s.pending, s.canFinish p = false

/-- The reads that could end do so in their moment, until there are none. -/
lemma settles (numbered : s.Numbered) :
    ∃ more t, s.run? more = some t ∧ t.now = s.now ∧ t.Numbered ∧ t.Settled ∧
      ∀ m ∈ more, m.Own := by
  induction left : s.pending.length using Nat.strong_induction_on generalizing s with
  | _ size ih =>
    by_cases settled : s.Settled
    · exact ⟨[], s, rfl, rfl, numbered, settled, nofun⟩
    · unfold Settled at settled
      push Not at settled
      obtain ⟨p, there, can⟩ := settled
      rw [ne_eq, Bool.not_eq_false] at can
      have ends : s.move? (.finish p.ticket) = some (s.without p.ticket) := by
        have finished := finish?_of_canFinish (numbered p there).2 can
        exact Option.map_eq_some_iff.mpr ⟨_, finished, rfl⟩
      have fewer : (s.without p.ticket).pending.length < size := by
        rw [← left]
        exact List.length_filter_lt_length_iff_exists.mpr ⟨p, there, by simp⟩
      obtain ⟨more, t, run, now, numbered', settled', own⟩ :=
        ih _ fewer (numbered.without p.ticket) rfl
      refine ⟨.finish p.ticket :: more, t, run_cons.mpr ⟨_, ends, run⟩, now, numbered', settled', ?_⟩
      rw [List.forall_mem_cons]
      exact ⟨.finish p.ticket, own⟩

/-- Where no read could end, a millisecond can pass. -/
lemma Settled.tick (settled : s.Settled) :
    s.move? (.elapse 1) = some { s with now := s.now + 1 } := by
  refine if_pos ?_
  unfold mayElapse
  simp only [Bool.or_eq_true, List.all_eq_true, Bool.and_eq_true, decide_eq_true_eq]
  right
  intro p there
  have unready := settled p there
  have early : s.now < p.deadline := by
    unfold canFinish at unready
    simp at unready
    omega
  exact ⟨by rw [unready]; rfl, early⟩

/-- Any time can pass: the reads that are due meanwhile end. -/
theorem time_passes (numbered : s.Numbered) (millis : Nat) :
    ∃ more t, s.run? more = some t ∧ t.now = s.now + millis ∧ t.Settled ∧ ∀ m ∈ more, m.Own := by
  induction millis generalizing s with
  | zero =>
      obtain ⟨more, t, run, now, -, settled, own⟩ := settles numbered
      exact ⟨more, t, run, now, settled, own⟩
  | succ millis ih =>
      obtain ⟨first, u, run, now, numbered', settled, own⟩ := settles numbered
      have tick := settled.tick
      obtain ⟨rest, t, run', now', settled', own'⟩ := ih (numbered'.of_move tick)
      refine ⟨first ++ .elapse 1 :: rest, t,
        run_append.mpr ⟨u, run, run_cons.mpr ⟨_, tick, run'⟩⟩, ?_, settled', ?_⟩
      · rw [now']
        simp only [now]
        omega
      · intro m mem
        rcases List.mem_append.mp mem with early | late
        · exact own m early
        · rcases List.mem_cons.mp late with rfl | later
          · exact .elapse 1
          · exact own' m later

/-! ### Every run -/

/-- **Each read ends when it is due.**  In every run the version is the number of the writes, and as
many reads were counted as have begun.  Each read that has begun waits for the time when it is due,
has ended then, once, with a failure if it was made to fail and otherwise with the record as it was,
or was given up.  Only reads that have begun end, and any time can pass. -/
theorem reads_end_when_due (run : (MemoryStore.new window).run? moves = some s) :
    s.version = (writes moves).length ∧ s.reads = begun moves ∧ s.current = record moves ∧
      (∀ past waitIndex since, moves = past ++ .start waitIndex :: since →
        Fate window past waitIndex since s) ∧
      (∀ mid ticket late, moves = mid ++ .finish ticket :: late →
        ∃ past waitIndex since, mid = past ++ .start waitIndex :: since ∧ begun past = ticket) ∧
      ∀ millis, ∃ more t, s.run? more = some t ∧ t.now = s.now + millis ∧ t.Settled ∧
        ∀ m ∈ more, m.Own := by
  have agrees := agrees_of_run run
  refine ⟨agrees.version, agrees.reads, agrees.current, ?_, ?_,
    fun millis => time_passes (numbered_of_run run) millis⟩
  · rintro past waitIndex since rfl
    exact fate_of_run run
  · rintro mid ticket late rfl
    exact exists_start_of_finish run

/-- Three reads at a time: a write wakes one of them and is too little for another, whose window then
ends; the one between them fails by the later of two counts. -/
theorem reads_end_when_due_oneWokenOneOver :
    ∃ s, (MemoryStore.new 10).run?
        [.set "a", .start 1, .failNext 3, .failNext 1, .start 5, .start 2, .finish 1, .elapse 4,
          .set "b", .finish 0, .elapse 6, .finish 2, .clear] = some s ∧
      s.version = 3 ∧ s.reads = 3 ∧ s.current = .absent ∧
      Fate 10 [.set "a"] 1
        [.failNext 3, .failNext 1, .start 5, .start 2, .finish 1, .elapse 4, .set "b", .finish 0,
          .elapse 6, .finish 2, .clear] s ∧
      Fate 10 [.set "a", .start 1, .failNext 3, .failNext 1, .start 5] 2
        [.finish 1, .elapse 4, .set "b", .finish 0, .elapse 6, .finish 2, .clear] s := by
  obtain ⟨s, run⟩ : ∃ s, (MemoryStore.new 10).run?
      [.set "a", .start 1, .failNext 3, .failNext 1, .start 5, .start 2, .finish 1, .elapse 4,
        .set "b", .finish 0, .elapse 6, .finish 2, .clear] = some s := ⟨_, rfl⟩
  obtain ⟨version, reads, current, fate, -⟩ := reads_end_when_due run
  exact ⟨s, run, version, reads, current, fate [.set "a"] 1 _ rfl,
    fate [.set "a", .start 1, .failNext 3, .failNext 1, .start 5] 2 _ rfl⟩

end FloatingIp.MemoryStore
