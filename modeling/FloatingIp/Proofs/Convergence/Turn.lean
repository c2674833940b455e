import FloatingIp.Convergence
import FloatingIp.Proofs.Run

/-!
# What one move of convergence does

A move is either a *turn* of the reconciler, in which it begins, wakes, or goes on from the answer
to its call, or it leaves the reconciler alone: the coordinator acts, the work is called off, or
time passes.  `move?_cases` splits every move in this way and says all that the move can do, its
guards included, so that no proof about runs has to open `move?` again.

A turn begins where the reconciler waits, for its beginning, for news or for the answer to a call,
and lasts until it waits again.  What it ends and begins on the way is the matter of `turned`.
-/

namespace FloatingIp.Convergence

/-! ### Turns of the reconciler -/

/-- Whether a move is a turn of the reconciler. -/
def Move.isTurn : Move → Bool
  | .begin => true
  | .wake => true
  | .answer _ => true
  | _ => false

/-- A turn that the reconciler can take in a state: the move, and the reconciler after it. -/
inductive Turn (s : Convergence) : Move → Reconciler → Prop where
  | begin (starting : s.reconciler.phase = .starting) :
      Turn s .begin (s.reconciler.begin s.cancelled)
  | release (resting : s.reconciler.phase = .resting)
      (off : s.cancelled = true ∨
        s.cell.changedSince s.reconciler.seen = false ∧ s.isClosed = true) :
      Turn s .wake s.reconciler.release
  | again (resting : s.reconciler.phase = .resting) (active : s.cancelled = false)
      (news : s.cell.changedSince s.reconciler.seen = true) :
      Turn s .wake ({ s.reconciler with seen := s.cell.writes }.nextPass false)
  | agree (querying : s.reconciler.phase = .querying) (actual : Bool)
      (same : actual = s.cell.value) :
      Turn s (.answer (.present actual))
        ((s.reconciler.look s.cell).tell (.compared actual s.cell.value)).rest
  | probe (querying : s.reconciler.phase = .querying) (desired : s.cell.value = true) :
      Turn s (.answer (.present false))
        { (s.reconciler.look s.cell).tell (.compared false true) with phase := .probing }
  | withdraw (querying : s.reconciler.phase = .querying) (undesired : s.cell.value = false) :
      Turn s (.answer (.present true))
        ((s.reconciler.look s.cell).tell (.compared true false)).withdraw
  | unknown (querying : s.reconciler.phase = .querying) (fault : AddressFault) :
      Turn s (.answer (.queryFailed fault))
        ((s.reconciler.fail (.queryFailed fault)).look s.cell).rest
  | defer (probing : s.reconciler.phase = .probing) :
      Turn s (.answer (.duplicate true)) (s.reconciler.fail .deferred).rest
  | claim (probing : s.reconciler.phase = .probing) :
      Turn s (.answer (.duplicate false)) s.reconciler.claim
  | claimed (claiming : s.reconciler.phase = .claiming) (outcome : Host.ChangeOutcome) :
      Turn s (.answer (.changed outcome))
        ((s.reconciler.tell (.changed true outcome)).nextPass s.cancelled)
  | claimFailed (claiming : s.reconciler.phase = .claiming) (fault : AddressFault) :
      Turn s (.answer (.changeFailed fault)) (s.reconciler.fail (.configureFailed fault)).rest
  | withdrawn (withdrawing : s.reconciler.phase = .withdrawing) (outcome : Host.ChangeOutcome) :
      Turn s (.answer (.changed outcome))
        ((s.reconciler.tell (.changed false outcome)).nextPass s.cancelled)
  | withdrawFailed (withdrawing : s.reconciler.phase = .withdrawing) (fault : AddressFault) :
      Turn s (.answer (.changeFailed fault)) (s.reconciler.fail (.deconfigureFailed fault)).rest
  | released (releasing : s.reconciler.phase = .releasing) (outcome : Host.ChangeOutcome) :
      Turn s (.answer (.changed outcome)) (s.reconciler.tell (.changed false outcome)).stop
  | releaseFailed (releasing : s.reconciler.phase = .releasing) (fault : AddressFault) :
      Turn s (.answer (.changeFailed fault)) (s.reconciler.fail (.deconfigureFailed fault)).stop
  | broke (call : Call) (busy : s.reconciler.phase.call? = some call) :
      Turn s (.answer .broke) { s.reconciler with phase := .crashed }

/-- The records of the calls that a move ends: one for an answer, none else. -/
def endedBy (s : Convergence) : Move → List CallRecord
  | .answer a => (s.reconciler.phase.call?.map fun call => ⟨call, s.callStart, s.now, a⟩).toList
  | _ => []

/-- The state after a turn. -/
def turned (s : Convergence) (m : Move) (r : Reconciler) : Convergence :=
  { s with reconciler := r, callStart := s.now, calls := s.endedBy m ++ s.calls }

/-- Only turns of the reconciler are turns. -/
lemma Turn.isTurn {s : Convergence} {m : Move} {r : Reconciler} (turn : Turn s m r) :
    m.isTurn = true := by
  cases turn <;> rfl

/-- A turn of a reconciler that is in a call ends that call. -/
lemma endedBy_answer {s : Convergence} {call : Call} (busy : s.reconciler.phase.call? = some call)
    (a : Answer) : s.endedBy (.answer a) = [⟨call, s.callStart, s.now, a⟩] := by
  unfold endedBy
  rw [busy]
  rfl

/-- A turn of a reconciler that is in a call records that call. -/
lemma calls_turned {s : Convergence} {call : Call} (busy : s.reconciler.phase.call? = some call)
    (a : Answer) (r : Reconciler) :
    (s.turned (.answer a) r).calls = ⟨call, s.callStart, s.now, a⟩ :: s.calls := by
  unfold turned
  rw [endedBy_answer busy]
  rfl

/-! ### Where the reconciler goes on to -/

namespace Reconciler

variable {r : Reconciler} {cancelled : Bool}

/-- A reconciler that goes on to its next pass asks, or releases the address if the work is called
off; it is nowhere else. -/
lemma phase_nextPass_ne {p : Phase} (asks : p ≠ .querying) (releases : p ≠ .releasing) :
    (r.nextPass cancelled).phase ≠ p := by
  cases cancelled with
  | false => exact asks.symm
  | true => exact releases.symm

/-- A reconciler that begins a pass does so because the work is not called off. -/
lemma active_of_querying (querying : (r.nextPass cancelled).phase = .querying) :
    cancelled = false := by
  cases cancelled with
  | false => rfl
  | true => cases querying

/-- A reconciler that goes on to the release does so because the work is called off. -/
lemma over_of_releasing (releasing : (r.nextPass cancelled).phase = .releasing) :
    cancelled = true := by
  cases cancelled with
  | true => rfl
  | false => cases releasing

/-- Once the work is called off, a reconciler goes on to the release. -/
lemma releasing_of_over (off : cancelled = true) :
    (r.nextPass cancelled).phase = .releasing := by
  rw [off]
  rfl

/-- A reconciler that finds the address as desired rests. -/
lemma compare_agree {actual : Bool} (same : actual = r.desired) :
    r.compare actual = (r.tell (.compared actual r.desired)).rest := by
  unfold compare
  exact if_pos same

/-- A reconciler that finds a desired address absent probes for a duplicate. -/
lemma compare_probe (desired : r.desired = true) :
    r.compare false = { r.tell (.compared false true) with phase := .probing } := by
  simp [compare, tell, desired]

/-- A reconciler that finds an address present that is not desired withdraws it. -/
lemma compare_withdraw (undesired : r.desired = false) :
    r.compare true = (r.tell (.compared true false)).withdraw := by
  simp [compare, tell, undesired]

end Reconciler

/-- Only in one phase is the address asked for. -/
lemma Phase.querying_of_query {p : Phase} (query : p.call? = some .query) : p = .querying := by
  cases p <;> first | rfl | cases query

/-- Only in one phase is the address added. -/
lemma Phase.claiming_of_configure {p : Phase} (configure : p.call? = some .configure) :
    p = .claiming := by
  cases p <;> first | rfl | cases configure

/-! ### Moves that leave the reconciler alone -/

/-- A move other than a turn, with the state after it. -/
inductive Aside (s : Convergence) : Move → Convergence → Prop where
  | receive (leader : Bool) (listening : s.isListening = true) :
      Aside s (.receive leader) (s.receive leader)
  | hangUp (listening : s.isListening = true) :
      Aside s .hangUp ({ s with streamOpen := false }.tell .streamClosed)
  | recheck (listening : s.duty = .listening) (due : s.nextRecheck ≤ s.now) :
      Aside s .recheck
        ({ s with
          cell := s.cell.touch, nextRecheck := s.now + s.interval }.tell .recheck)
  | drain (listening : s.duty = .listening) (off : s.cancelled = true) : Aside s .drain s.drain
  | join (running : s.duty.isRunning = true) (stopped : s.reconciler.phase = .stopped) :
      Aside s .join { s with duty := .returned s.reconciler.stats s.now }
  | joinCrashed (running : s.duty.isRunning = true) (crashed : s.reconciler.phase = .crashed) :
      Aside s .join ({ s with duty := .returned Stats.zero s.now }.tell .failed)
  | cancel (active : s.cancelled = false) : Aside s .cancel { s with cancelled := true }
  | abandon (running : s.duty.isRunning = true) : Aside s .abandon { s with duty := .abandoned }
  | elapse (millis : Nat) (early : ¬(s.duty = .listening ∧ s.nextRecheck < s.now + millis)) :
      Aside s (.elapse millis) { s with now := s.now + millis }

/-- A leadership change is published on the cell. -/
lemma cell_receive (s : Convergence) (leader : Bool) :
    (s.receive leader).cell = (s.cell.publish leader).2 := by
  unfold receive
  dsimp only
  split <;> rfl

/-- A leadership change leaves the coordinator doing what it does. -/
lemma duty_receive (s : Convergence) (leader : Bool) : (s.receive leader).duty = s.duty := by
  unfold receive
  dsimp only
  split <;> rfl

/-- A move that is no turn is none by its kind. -/
lemma Aside.isTurn {s t : Convergence} {m : Move} (aside : Aside s m t) : m.isTurn = false := by
  cases aside <;> rfl

/-- A move that is no turn leaves the reconciler as it is. -/
lemma Aside.reconciler {s t : Convergence} {m : Move} (aside : Aside s m t) :
    t.reconciler = s.reconciler := by
  cases aside with
  | receive leader _ =>
      unfold Convergence.receive
      dsimp only
      split <;> rfl
  | _ => rfl

/-- A move that is no turn begins and ends no call. -/
lemma Aside.calls {s t : Convergence} {m : Move} (aside : Aside s m t) : t.calls = s.calls := by
  cases aside with
  | receive leader _ =>
      unfold Convergence.receive
      dsimp only
      split <;> rfl
  | _ => rfl

/-! ### Every move is one or the other -/

/-- An answer that the reconciler can go on from gives one of its turns. -/
lemma Turn.of_answer? {s : Convergence} {a : Answer} {r : Reconciler} {call : Call}
    (busy : s.reconciler.phase.call? = some call)
    (h : s.reconciler.answer? s.cancelled s.cell a = some r) : Turn s (.answer a) r := by
  cases a with
  | present actual =>
      obtain ⟨querying, rfl⟩ := of_guard h
      by_cases same : actual = s.cell.value
      · rw [Reconciler.compare_agree same]
        exact .agree querying actual same
      · cases desired : s.cell.value with
        | true =>
            obtain rfl : actual = false := by simpa [desired] using same
            rw [Reconciler.compare_probe desired]
            exact .probe querying desired
        | false =>
            obtain rfl : actual = true := by simpa [desired] using same
            rw [Reconciler.compare_withdraw desired]
            exact .withdraw querying desired
  | queryFailed fault =>
      obtain ⟨querying, rfl⟩ := of_guard h
      exact .unknown querying fault
  | duplicate found =>
      obtain ⟨probing, rfl⟩ := of_guard h
      cases found with
      | true => exact .defer probing
      | false => exact .claim probing
  | changed outcome =>
      cases phase : s.reconciler.phase <;>
        simp only [Reconciler.answer?, phase, Option.some.injEq, reduceCtorEq] at h
      case claiming => subst h; exact .claimed phase outcome
      case withdrawing => subst h; exact .withdrawn phase outcome
      case releasing => subst h; exact .released phase outcome
  | changeFailed fault =>
      cases phase : s.reconciler.phase <;>
        simp only [Reconciler.answer?, phase, Option.some.injEq, reduceCtorEq] at h
      case claiming => subst h; exact .claimFailed phase fault
      case withdrawing => subst h; exact .withdrawFailed phase fault
      case releasing => subst h; exact .releaseFailed phase fault
  | broke =>
      obtain ⟨-, rfl⟩ := of_guard h
      exact .broke call busy

/-- A reconciler that wakes takes one of its turns. -/
lemma Turn.of_wake? {s : Convergence} {r : Reconciler}
    (h : s.reconciler.wake? s.cancelled s.cell s.isClosed = some r) : Turn s .wake r := by
  unfold Reconciler.wake? at h
  split at h
  · cases h
  · rename_i awake
    have resting : s.reconciler.phase = .resting := by simpa using awake
    split at h
    · rename_i off
      cases h
      exact .release resting (.inl off)
    · rename_i active
      have active : s.cancelled = false := by simpa using active
      split at h
      · rename_i news
        cases h
        rw [active]
        exact .again resting active news
      · rename_i still
        split at h
        · rename_i closed
          cases h
          exact .release resting (.inr ⟨by simpa using still, closed⟩)
        · cases h

/-- **Every move is a turn of the reconciler or leaves it alone.** -/
theorem move?_cases {s t : Convergence} {m : Move} (h : s.move? m = some t) :
    (∃ r, Turn s m r ∧ t = s.turned m r) ∨ Aside s m t := by
  cases m with
  | receive leader =>
      obtain ⟨listening, rfl⟩ := of_guard h
      exact .inr (.receive leader listening)
  | hangUp =>
      obtain ⟨listening, rfl⟩ := of_guard h
      exact .inr (.hangUp listening)
  | recheck =>
      obtain ⟨⟨listening, due⟩, rfl⟩ := of_guard h
      exact .inr (.recheck listening due)
  | drain =>
      obtain ⟨⟨listening, off⟩, rfl⟩ := of_guard h
      exact .inr (.drain listening off)
  | join =>
      simp only [move?, join?, Option.ite_none_right_eq_some] at h
      obtain ⟨running, h⟩ := h
      cases phase : s.reconciler.phase <;>
        simp only [phase, Option.some.injEq, reduceCtorEq] at h
      case stopped => subst h; exact .inr (.join running phase)
      case crashed => subst h; exact .inr (.joinCrashed running phase)
  | begin =>
      obtain ⟨starting, rfl⟩ := of_guard h
      exact .inl ⟨_, .begin starting, rfl⟩
  | wake =>
      simp only [move?, Option.map_eq_some_iff] at h
      obtain ⟨r, hr, rfl⟩ := h
      exact .inl ⟨r, .of_wake? hr, rfl⟩
  | answer a =>
      simp only [move?, answer?] at h
      split at h
      · rename_i call r busy hr
        cases h
        refine .inl ⟨r, .of_answer? busy hr, ?_⟩
        simp [turned, endedBy, busy]
      · cases h
  | cancel =>
      obtain ⟨active, rfl⟩ := of_bar h
      exact .inr (.cancel (by simpa using active))
  | abandon =>
      obtain ⟨running, rfl⟩ := of_guard h
      exact .inr (.abandon running)
  | elapse millis =>
      obtain ⟨early, rfl⟩ := of_bar h
      exact .inr (.elapse millis early)

end FloatingIp.Convergence
