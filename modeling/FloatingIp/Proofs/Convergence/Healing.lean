import FloatingIp.Proofs.Convergence.Shutdown
import FloatingIp.Proofs.Convergence.Sight
import Mathlib.Data.List.Count

/-!
# The host is put right again

Whatever has happened to the host and to the calls so far, one write of the desired state is enough:
from there a host that does what it is called to do is as desired after two questions and one change
at most, and the reconciler rests until there is something new (`heals`).

A reconciler that rests carries nothing over from the passes before but the count of the writes that
it has seen, and it has seen no more than there were (`sight_earlier`); so the new write wakes it.
`Left` says how much there is to do from then on, by the phase and by whether the address is as
desired, one constructor for each place on the way.  An honest turn does a part of it
(`Left.of_turn`), anything else that happens leaves it as it is, and until nothing is left there is
an honest turn to take (`Left.exists_turn`).
-/

namespace FloatingIp.Convergence

/-! ### Nothing new -/

/-- The reconciler rests and has no reason to wake. -/
def IsBlocked (s : Convergence) : Prop :=
  s.reconciler.phase = .resting ∧ s.canWake = false

/-- The work is not called off, and there is a coordinator. -/
structure Attended (s : Convergence) : Prop where
  /-- The work is not called off. -/
  active : s.cancelled = false
  /-- The coordinator runs. -/
  running : s.duty.isRunning = true

/-- Nothing new happens in moves from one state to another: the desired state is not written, the
work is not called off, and the coordinator is not dropped. -/
structure Calm (s : Convergence) (moves : List Move) (t : Convergence) : Prop where
  /-- There is no write. -/
  unwritten : t.cell.writes = s.cell.writes
  /-- The work goes on. -/
  going : .cancel ∉ moves
  /-- The coordinator stays. -/
  kept : .abandon ∉ moves

/-- Of calm moves, the first one leaves the cell as it is, and the others are calm. -/
lemma Calm.of_cons {s u t : Convergence} {m : Move} {moves : List Move}
    (calm : s.Calm (m :: moves) t) (h : s.move? m = some u) (run : u.run? moves = some t) :
    u.cell = s.cell ∧ m ≠ .cancel ∧ m ≠ .abandon ∧ u.Calm moves t := by
  have first := cell_earlier_of_move h
  have same : s.cell = u.cell := first.eq_of_writes_eq (by
    have before := first.writes_le
    have after := (cell_earlier_of_run run).writes_le
    have unwritten := calm.unwritten
    omega)
  obtain ⟨cancel, going⟩ := not_or.mp (mt List.mem_cons.mpr calm.going)
  obtain ⟨abandon, kept⟩ := not_or.mp (mt List.mem_cons.mpr calm.kept)
  refine ⟨same.symm, Ne.symm cancel, Ne.symm abandon, ?_, going, kept⟩
  rw [calm.unwritten, same]

/-- Work that is attended is no reason for the release. -/
lemma Attended.not_off {s : Convergence} (attended : s.Attended) {seen : Prop} :
    ¬(s.cancelled = true ∨ seen ∧ s.isClosed = true) := by
  simp [isClosed, attended.active, attended.running]

/-- As long as the reconciler has not ended, only two moves leave the work unattended. -/
lemma Attended.of_move {s t : Convergence} {m : Move} (attended : s.Attended)
    (h : s.move? m = some t) (unfinished : s.reconciler.phase.isOver = false)
    (going : m ≠ .cancel) (kept : m ≠ .abandon) : t.Attended := by
  constructor
  · have still := mt (cancelled_of_move h).mp (not_or.mpr ⟨by simp [attended.active], going⟩)
    simpa using still
  · rcases move?_cases h with ⟨r, turn, rfl⟩ | aside
    · exact attended.running
    · cases aside with
      | receive leader _ =>
          rw [duty_receive]
          exact attended.running
      | drain _ _ => rfl
      | join _ stopped => rw [stopped] at unfinished; cases unfinished
      | joinCrashed _ crashed => rw [crashed] at unfinished; cases unfinished
      | abandon _ => exact absurd rfl kept
      | _ => exact attended.running

/-- A reconciler is blocked where it rests, has seen every write, and the work is attended. -/
lemma isBlocked_iff {s : Convergence} :
    s.IsBlocked ↔ s.reconciler.phase = .resting ∧
      s.cell.changedSince s.reconciler.seen = false ∧ s.Attended := by
  constructor
  · rintro ⟨resting, still⟩
    unfold canWake Reconciler.wake? at still
    rw [if_neg (not_not_intro resting)] at still
    split at still
    · cases still
    · rename_i active
      split at still
      · cases still
      · rename_i seen
        split at still
        · cases still
        · rename_i closed
          refine ⟨resting, by simpa using seen, by simpa using active, ?_⟩
          simpa [isClosed] using closed
  · rintro ⟨resting, seen, attended⟩
    refine ⟨resting, ?_⟩
    have closed : s.isClosed = false := by simp [isClosed, attended.running]
    simp [canWake, Reconciler.wake?, resting, seen, closed, attended.active]

/-- A blocked reconciler takes no turn. -/
lemma Turn.not_blocked {s : Convergence} {m : Move} {r : Reconciler} (turn : Turn s m r) :
    ¬s.IsBlocked := by
  intro blocked
  obtain ⟨resting, seen, attended⟩ := isBlocked_iff.mp blocked
  cases turn with
  | release _ off => exact attended.not_off off
  | again _ _ news =>
      rw [seen] at news
      cases news
  | broke _ busy =>
      rw [resting] at busy
      cases busy
  | _ => simp_all

/-- **A blocked reconciler calls nothing** as long as nothing new happens. -/
theorem trace_of_blocked {s t : Convergence} {moves : List Move} (run : s.run? moves = some t)
    (blocked : s.IsBlocked) (calm : s.Calm moves t) : s.trace moves = [] := by
  induction moves generalizing s with
  | nil => rfl
  | cons m moves ih =>
      obtain ⟨u, hu, hrun⟩ := run_cons.mp run
      obtain ⟨same, going, kept, later⟩ := calm.of_cons hu hrun
      obtain ⟨resting, seen, attended⟩ := isBlocked_iff.mp blocked
      rw [trace_cons hu]
      rcases move?_cases hu with ⟨r, turn, rfl⟩ | aside
      · exact absurd blocked turn.not_blocked
      · have still : u.IsBlocked := by
          rw [isBlocked_iff, aside.reconciler, same]
          exact ⟨resting, seen, attended.of_move hu (by rw [resting]; rfl) going kept⟩
        rw [aside.events, ih hrun still later]
        rfl

/-! ### An honest host -/

/-- Whether the address is there after a call, given whether it was there before, if the answer is
the one of an honest host: it says what is there, no other host has the address, and it makes the
change that it is called to make. -/
def Call.serve? (present : Bool) : Call → Answer → Option Bool
  | .query, .present actual => if actual = present then some present else none
  | .probe, .duplicate false => some present
  | .configure, .changed _ => some true
  | .deconfigure, .changed _ => some false
  | _, _ => none

/-- Coordinator and reconciler on an honest host. -/
structure Served where
  /-- Coordinator and reconciler. -/
  system : Convergence
  /-- Whether the address is there. -/
  present : Bool

namespace Served

/-- Whether the address is there after a move; the answers are those of an honest host. -/
def serve? (s : Served) : Move → Option Bool
  | .answer a => s.system.reconciler.phase.call?.bind fun call => call.serve? s.present a
  | _ => some s.present

/-- Makes a move, if it can be made and the host is honest in it. -/
def move? (s : Served) (m : Move) : Option Served :=
  match s.system.move? m, s.serve? m with
  | some system, some present => some ⟨system, present⟩
  | _, _ => none

/-- Makes moves one after another, if they can all be made. -/
def run? (s : Served) (moves : List Move) : Option Served :=
  moves.foldlM move? s

variable {s t : Served}

/-- A move on an honest host is one that can be made, and what the host does in it. -/
lemma of_move? {m : Move} (h : s.move? m = some t) :
    s.system.move? m = some t.system ∧ s.serve? m = some t.present := by
  unfold move? at h
  split at h
  · rename_i system present moved served
    cases h
    exact ⟨moved, served⟩
  · cases h

/-- A run on an honest host is a run. -/
lemma system_of_run {moves : List Move} (run : s.run? moves = some t) :
    s.system.run? moves = some t.system := by
  refine run_induction (P := fun moves t => s.system.run? moves = some t.system) rfl ?_ run
  intro moves t m u _ before h
  exact run_concat.mpr ⟨t.system, before, (of_move? h).1⟩

/-- An honest host makes a difference only in its answers. -/
lemma present_of_aside {m : Move} {u : Convergence} (aside : Aside s.system m u)
    (served : s.serve? m = some t.present) : t.present = s.present := by
  cases aside <;> exact (Option.some.inj served).symm

/-- Whether the address is as desired: it is there if and only if that is wanted. -/
def IsRight (s : Served) : Prop :=
  s.present = s.system.cell.value

end Served

/-! ### What is left to do -/

/-- How much there is to do: turns of the reconciler, questions and changes. -/
structure Effort where
  /-- Turns of the reconciler. -/
  turns : Nat
  /-- Questions that are begun. -/
  questions : Nat
  /-- Changes that are begun. -/
  changes : Nat

/-- An effort is enough for moves and for the events in them, and leaves another one. -/
structure Effort.Covers (all : Effort) (moves : List Move) (events : List CallEvent)
    (rest : Effort) : Prop where
  /-- There are enough turns. -/
  turns : moves.countP Move.isTurn + rest.turns ≤ all.turns
  /-- There are enough questions. -/
  questions : events.count (.began .query) + rest.questions ≤ all.questions
  /-- There are enough changes. -/
  changes : events.count (.began .configure) + events.count (.began .deconfigure) + rest.changes ≤
    all.changes

/-- What is enough for moves, and then for more moves, is enough for both. -/
lemma Effort.Covers.append {all between rest : Effort} {moves more : List Move}
    {events later : List CallEvent} (first : all.Covers moves events between)
    (second : between.Covers more later rest) :
    all.Covers (moves ++ more) (events ++ later) rest := by
  obtain ⟨turns, questions, changes⟩ := first
  obtain ⟨turns', questions', changes'⟩ := second
  constructor
  · rw [List.countP_append]
    omega
  · rw [List.count_append]
    omega
  · rw [List.count_append, List.count_append]
    omega

/-- A turn needs itself and the call that it begins. -/
lemma Turn.covered {s : Convergence} {m : Move} {r : Reconciler} (turn : Turn s m r)
    {all rest : Effort} (call : Option Call) (begun : r.phase.call? = call)
    (enough : 1 + rest.turns ≤ all.turns ∧
      call.toList.count .query + rest.questions ≤ all.questions ∧
      call.toList.count .configure + call.toList.count .deconfigure + rest.changes ≤
        all.changes) : all.Covers [m] (s.events m (s.turned m r)) rest := by
  obtain ⟨turns, questions, changes⟩ := enough
  have same (c : Call) : (s.events m (s.turned m r)).count (.began c) = call.toList.count c := by
    rw [turn.events, begun, List.count_append]
    have none : ((s.endedBy m).map fun c => CallEvent.ended c.call c.answer).count (.began c) =
        0 := by
      rw [List.count_eq_zero]
      simp
    rw [none, Nat.zero_add]
    exact List.count_map_of_injective _ _ (fun _ _ => CallEvent.began.inj) c
  constructor
  · rw [List.countP_singleton, if_pos turn.isTurn]
    exact turns
  · rw [same]
    exact questions
  · rw [same, same]
    exact changes

/-- How much there is to do, from a phase on, until the reconciler is blocked and the address is as
desired. -/
inductive Left (s : Served) : Phase → Effort → Prop where
  | settled (seen : s.system.cell.changedSince s.system.reconciler.seen = false)
      (right : s.IsRight) : Left s .resting ⟨0, 0, 0⟩
  | woken (news : s.system.cell.changedSince s.system.reconciler.seen = true)
      (right : s.IsRight) : Left s .resting ⟨2, 1, 0⟩
  | wokenWrong (news : s.system.cell.changedSince s.system.reconciler.seen = true)
      (wrong : ¬s.IsRight) : Left s .resting ⟨5, 2, 1⟩
  | asking (right : s.IsRight) : Left s .querying ⟨1, 0, 0⟩
  | askingWrong (wrong : ¬s.IsRight) : Left s .querying ⟨4, 1, 1⟩
  | probing (desired : s.system.cell.value = true) : Left s .probing ⟨3, 1, 1⟩
  | claiming (desired : s.system.cell.value = true) : Left s .claiming ⟨2, 1, 0⟩
  | withdrawing (undesired : s.system.cell.value = false) : Left s .withdrawing ⟨2, 1, 0⟩

/-- On the way no reconciler has ended. -/
lemma Left.unfinished {s : Served} {p : Phase} {all : Effort} (left : Left s p all) :
    p.isOver = false := by
  cases left <;> rfl

/-- **An honest turn does a part of what is left.** -/
lemma Left.of_turn {s : Served} {all : Effort} (left : Left s s.system.reconciler.phase all)
    (attended : s.system.Attended) {m : Move} {r : Reconciler} (turn : Turn s.system m r)
    {present : Bool} (served : s.serve? m = some present) :
    ∃ rest, Left ⟨s.system.turned m r, present⟩ r.phase rest ∧
      all.Covers [m] (s.system.events m (s.system.turned m r)) rest := by
  have within {p : Phase} (phase : s.system.reconciler.phase = p) : Left s p all := phase ▸ left
  have answer {a : Answer} {p : Phase} {call : Call} (same : m = .answer a)
      (phase : s.system.reconciler.phase = p) (busy : p.call? = some call) :
      call.serve? s.present a = some present := by
    rw [same, Served.serve?, phase, busy] at served
    exact served
  have taken := turn
  cases turn with
  | begin starting => cases within starting
  | release _ off => exact absurd off attended.not_off
  | again resting _ news =>
      cases served
      cases within resting with
      | settled seen _ => rw [seen] at news; cases news
      | woken _ right =>
          exact ⟨⟨1, 0, 0⟩, .asking right, taken.covered (some .query) rfl (by decide)⟩
      | wokenWrong _ wrong =>
          exact ⟨⟨4, 1, 1⟩, .askingWrong wrong, taken.covered (some .query) rfl (by decide)⟩
  | agree querying actual same =>
      obtain ⟨honest, rfl⟩ := of_guard (answer rfl querying rfl)
      cases within querying with
      | asking right =>
          refine ⟨⟨0, 0, 0⟩, .settled ?_ right, taken.covered none rfl (by decide)⟩
          show s.system.cell.changedSince s.system.cell.writes = false
          simp [Cell.changedSince]
      | askingWrong wrong => exact absurd (honest.symm.trans same) wrong
  | probe querying desired =>
      obtain ⟨honest, rfl⟩ := of_guard (answer rfl querying rfl)
      cases within querying with
      | asking right =>
          rw [Served.IsRight, ← honest, desired] at right
          cases right
      | askingWrong _ =>
          exact ⟨⟨3, 1, 1⟩, .probing desired, taken.covered (some .probe) rfl (by decide)⟩
  | withdraw querying undesired =>
      obtain ⟨honest, rfl⟩ := of_guard (answer rfl querying rfl)
      cases within querying with
      | asking right =>
          rw [Served.IsRight, ← honest, undesired] at right
          cases right
      | askingWrong _ =>
          exact ⟨⟨2, 1, 0⟩, .withdrawing undesired,
            taken.covered (some .deconfigure) rfl (by decide)⟩
  | unknown querying _ => cases answer rfl querying rfl
  | defer probing => cases answer rfl probing rfl
  | claim probing =>
      cases within probing with
      | probing desired =>
          exact ⟨⟨2, 1, 0⟩, .claiming desired, taken.covered (some .configure) rfl (by decide)⟩
  | claimed claiming _ =>
      cases answer rfl claiming rfl
      cases within claiming with
      | claiming desired =>
          rw [attended.active] at taken ⊢
          exact ⟨⟨1, 0, 0⟩, .asking desired.symm, taken.covered (some .query) rfl (by decide)⟩
  | claimFailed claiming _ => cases answer rfl claiming rfl
  | withdrawn withdrawing _ =>
      cases answer rfl withdrawing rfl
      cases within withdrawing with
      | withdrawing undesired =>
          rw [attended.active] at taken ⊢
          exact ⟨⟨1, 0, 0⟩, .asking undesired.symm, taken.covered (some .query) rfl (by decide)⟩
  | withdrawFailed withdrawing _ => cases answer rfl withdrawing rfl
  | released releasing _ => cases within releasing
  | releaseFailed releasing _ => cases within releasing
  | broke call busy =>
      have honest := answer rfl rfl busy
      cases call <;> cases honest

/-- What is left depends on the host, the cell and the reconciler only. -/
lemma Left.congr {s t : Served} {p : Phase} {all : Effort} (left : Left s p all)
    (present : t.present = s.present) (cell : t.system.cell = s.system.cell)
    (reconciler : t.system.reconciler = s.system.reconciler) : Left t p all := by
  have right : t.IsRight ↔ s.IsRight := by
    rw [Served.IsRight, Served.IsRight, present, cell]
  have news : t.system.cell.changedSince t.system.reconciler.seen =
      s.system.cell.changedSince s.system.reconciler.seen := by
    rw [cell, reconciler]
  cases left with
  | settled seen here => exact .settled (news.trans seen) (right.mpr here)
  | woken unseen here => exact .woken (news.trans unseen) (right.mpr here)
  | wokenWrong unseen wrong => exact .wokenWrong (news.trans unseen) (mt right.mp wrong)
  | asking here => exact .asking (right.mpr here)
  | askingWrong wrong => exact .askingWrong (mt right.mp wrong)
  | probing desired => exact .probing (cell ▸ desired)
  | claiming desired => exact .claiming (cell ▸ desired)
  | withdrawing undesired => exact .withdrawing (cell ▸ undesired)

/-- A move that is no turn needs nothing. -/
lemma Aside.covered {s t : Convergence} {m : Move} (aside : Aside s m t) (all : Effort) :
    all.Covers [m] (s.events m t) all := by
  rw [aside.events]
  constructor
  · rw [List.countP_singleton, aside.isTurn]
    simp
  · simp
  · simp

/-- **An honest move without a write does a part of what is left, or nothing.** -/
lemma Left.of_move {s t : Served} {all : Effort} (left : Left s s.system.reconciler.phase all)
    (attended : s.system.Attended) {m : Move} (h : s.move? m = some t)
    (same : t.system.cell = s.system.cell) :
    ∃ rest, Left t t.system.reconciler.phase rest ∧
      all.Covers [m] (s.system.events m t.system) rest := by
  obtain ⟨system, present⟩ := t
  obtain ⟨moved, served⟩ := Served.of_move? h
  rcases move?_cases moved with ⟨r, turn, rfl⟩ | aside
  · exact left.of_turn attended turn served
  · refine ⟨all, ?_, aside.covered all⟩
    rw [aside.reconciler]
    exact left.congr (Served.present_of_aside aside served) same aside.reconciler

/-- **A calm run on an honest host does a part of what is left**, and the work stays attended. -/
theorem Left.of_run {s u : Served} {moves : List Move} (run : s.run? moves = some u) {all : Effort}
    (left : Left s s.system.reconciler.phase all) (attended : s.system.Attended)
    (calm : s.system.Calm moves u.system) :
    u.system.Attended ∧ ∃ rest, Left u u.system.reconciler.phase rest ∧
      all.Covers moves (s.system.trace moves) rest := by
  induction moves generalizing s all with
  | nil =>
      cases run
      exact ⟨attended, all, left, by constructor <;> simp [trace]⟩
  | cons m moves ih =>
      obtain ⟨t, ht, hrun⟩ := run_cons.mp run
      have moved := (Served.of_move? ht).1
      obtain ⟨same, going, kept, later⟩ := calm.of_cons moved (Served.system_of_run hrun)
      have still := attended.of_move moved left.unfinished going kept
      obtain ⟨between, leftBetween, first⟩ := left.of_move attended ht same
      obtain ⟨atEnd, rest, leftAtEnd, others⟩ := ih hrun leftBetween still later
      rw [trace_cons moved]
      exact ⟨atEnd, rest, leftAtEnd, first.append others⟩

/-- Where the reconciler is blocked, the address is as desired. -/
lemma Left.right_of_blocked {s : Served} {rest : Effort}
    (left : Left s s.system.reconciler.phase rest) (blocked : s.system.IsBlocked) : s.IsRight := by
  obtain ⟨resting, seen, -⟩ := isBlocked_iff.mp blocked
  rw [resting] at left
  cases left with
  | settled _ right => exact right
  | woken _ right => exact right
  | wokenWrong news _ => rw [seen] at news; cases news

/-- An honest host answers every call. -/
lemma Served.exists_answer {s : Served} {call : Call}
    (busy : s.system.reconciler.phase.call? = some call) :
    ∃ a, (s.move? (.answer a)).isSome = true := by
  obtain ⟨t, moved⟩ := Option.isSome_iff_exists.mp (answer?_honestAnswer busy s.present)
  have served : (call.serve? s.present (call.honestAnswer s.present)).isSome = true := by
    cases call <;> simp [Call.serve?, Call.honestAnswer]
  obtain ⟨present, served⟩ := Option.isSome_iff_exists.mp served
  refine ⟨call.honestAnswer s.present, ?_⟩
  simp [move?, Convergence.move?, serve?, moved, busy, served]

/-- On the way to where the reconciler is blocked there is an honest turn to take. -/
lemma Left.exists_turn {s : Served} {rest : Effort}
    (left : Left s s.system.reconciler.phase rest) (unblocked : ¬s.system.IsBlocked) :
    ∃ m, m.isTurn = true ∧ (s.move? m).isSome = true := by
  have answer {call : Call} (busy : s.system.reconciler.phase.call? = some call) :
      ∃ m, m.isTurn = true ∧ (s.move? m).isSome = true := by
    obtain ⟨a, can⟩ := Served.exists_answer busy
    exact ⟨.answer a, rfl, can⟩
  cases phase : s.system.reconciler.phase with
  | resting =>
      refine ⟨.wake, rfl, ?_⟩
      have awake : s.system.canWake = true := by simpa [IsBlocked, phase] using unblocked
      obtain ⟨r, hr⟩ := Option.isSome_iff_exists.mp awake
      simp [Served.move?, Served.serve?, Convergence.move?, hr]
  | querying => exact answer (by rw [phase]; rfl)
  | probing => exact answer (by rw [phase]; rfl)
  | claiming => exact answer (by rw [phase]; rfl)
  | withdrawing => exact answer (by rw [phase]; rfl)
  | _ => rw [phase] at left; cases left

/-! ### After any history -/

/-- A recheck or a flip is a write of a coordinator that listens. -/
lemma written_of_news {s t : Convergence} {m : Move} (h : s.move? m = some t)
    (news : m = .recheck ∨ m = .receive (!s.cell.value)) :
    s.duty = .listening ∧ t.reconciler = s.reconciler ∧ t.cell.writes = s.cell.writes + 1 := by
  rcases move?_cases h with ⟨r, turn, -⟩ | aside
  · rcases news with rfl | rfl <;> cases turn
  · have same := aside.reconciler
    rcases news with rfl | rfl
    · cases aside with
      | recheck listening _ => exact ⟨listening, same, rfl⟩
    · cases aside with
      | receive _ listening =>
          have here : s.duty = .listening ∧ s.streamOpen = true := by
            simpa [isListening] using listening
          refine ⟨here.1, same, ?_⟩
          rw [cell_receive]
          simp [Cell.publish]

/-- How the host is put right by the moves from a state `t` to the state `u`. -/
structure Heals (t : Convergence) (moves : List Move) (u : Served) : Prop where
  /-- At most two questions are asked. -/
  questions : (t.trace moves).count (.began .query) ≤ 2
  /-- At most one change is tried. -/
  changes : (t.trace moves).count (.began .configure) +
    (t.trace moves).count (.began .deconfigure) ≤ 1
  /-- The end is near. -/
  bounded : moves.countP Move.isTurn ≤ 5
  /-- As long as the reconciler is not blocked there is a way on. -/
  live : ¬u.system.IsBlocked → ∃ m, m.isTurn = true ∧ (u.move? m).isSome = true
  /-- Once it is blocked, the address is there if and only if it is desired. -/
  right : u.system.IsBlocked → u.present = u.system.cell.value
  /-- Once it is blocked, no call begins or ends until there is something new. -/
  quiet : u.system.IsBlocked → ∀ more v, u.system.run? more = some v →
    u.system.Calm more v → u.system.trace more = []

/-- **One write puts the host right**, whatever has happened before.  Take any run, with any answers,
after which the reconciler rests and the work is not called off, and let the coordinator recheck or
the desired state flip.  If the host is honest from there on, wherever the address is by then, and
nothing else new happens, there are at most two questions and one change until the reconciler is
blocked again.  It gets there, the address is then there if and only if it is desired, and nothing is
called until there is something new. -/
theorem heals {recheck : Nat} {past : List Move} {s t : Convergence} {m : Move}
    (run : (Convergence.new recheck).run? past = some s) (active : s.cancelled = false)
    (resting : s.reconciler.phase = .resting)
    (news : m = .recheck ∨ m = .receive (!s.cell.value)) (h : s.move? m = some t)
    {present : Bool} {moves : List Move} {u : Served}
    (honest : Served.run? ⟨t, present⟩ moves = some u) (calm : t.Calm moves u.system) :
    Heals t moves u := by
  obtain ⟨listening, same, written⟩ := written_of_news h news
  have attended : t.Attended := by
    have before : s.Attended := ⟨active, by rw [listening]; rfl⟩
    refine before.of_move h (by rw [resting]; rfl) ?_ ?_ <;>
      rintro rfl <;> rcases news with other | other <;> cases other
  have unseen : t.cell.changedSince t.reconciler.seen = true := by
    have known : s.reconciler.seen ≤ s.cell.writes :=
      (sight_earlier run (by rw [resting]; rfl)).writes_le
    rw [Cell.changedSince, written, same, bne_iff_ne]
    omega
  obtain ⟨all, left, turns, questions, changes⟩ : ∃ all, Left ⟨t, present⟩ t.reconciler.phase all ∧
      all.turns ≤ 5 ∧ all.questions ≤ 2 ∧ all.changes ≤ 1 := by
    rw [same, resting]
    by_cases right : Served.IsRight ⟨t, present⟩
    · exact ⟨_, .woken unseen right, by decide⟩
    · exact ⟨_, .wokenWrong unseen right, by decide⟩
  obtain ⟨-, rest, leftAtEnd, covers⟩ := left.of_run honest attended calm
  constructor
  · exact Nat.le_trans (Nat.le_of_add_right_le covers.questions) questions
  · exact Nat.le_trans (Nat.le_of_add_right_le covers.changes) changes
  · exact Nat.le_trans (Nat.le_of_add_right_le covers.turns) turns
  · exact leftAtEnd.exists_turn
  · exact leftAtEnd.right_of_blocked
  · exact fun blocked more v run calm => trace_of_blocked run blocked calm

/-- A history in which a question and a claim fail and another claim is put off. -/
def troubled : List Move :=
  [.begin, .answer (.queryFailed .injected), .receive true, .wake, .answer (.present false),
    .answer (.duplicate false), .answer (.changeFailed .injected), .elapse 10000, .recheck, .wake,
    .answer (.present false), .answer (.duplicate true), .elapse 10000]

/-- What an honest host makes of a recheck after this history. -/
def repair : List Move :=
  [.wake, .answer (.present false), .elapse 5, .answer (.duplicate false), .hangUp,
    .answer (.changed .applied), .answer (.present true)]

/-- After a recheck the address is there, and the reconciler is blocked. -/
theorem heals_troubled :
    ∃ s t u, (Convergence.new 10000).run? troubled = some s ∧ s.cancelled = false ∧
      s.reconciler.phase = .resting ∧ s.move? .recheck = some t ∧
      Served.run? ⟨t, false⟩ repair = some u ∧ t.Calm repair u.system ∧ u.system.IsBlocked ∧
      u.present = true ∧ Heals t repair u :=
  ⟨_, _, _, rfl, rfl, rfl, rfl, rfl, ⟨rfl, by decide, by decide⟩, ⟨rfl, rfl⟩, rfl,
    @heals 10000 troubled _ _ .recheck rfl rfl rfl (.inl rfl) rfl false repair _ rfl
      ⟨rfl, by decide, by decide⟩⟩

end FloatingIp.Convergence
