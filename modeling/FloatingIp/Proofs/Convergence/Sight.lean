import FloatingIp.Proofs.Convergence.Turn

/-!
# What the reconciler has seen of the desired state

No write of the desired state is lost on the reconciler: when it rests, either a write is still
unseen, and then it can wake at once (`canWake_of_stale`), or its last pass looked at the desired
state as it is now (`no_lost_wakeup`).  If nothing went wrong in that pass, the host was found as
desired.

A look takes value and count of writes at one stroke, so what the reconciler remembers is the cell
as it was at some time, its *sight*.  A cell whose writes have not grown since is the same cell;
this is the whole invariant, `sight_earlier`, for the part of a pass that comes after the look.
While the address is asked for it does not hold, since waking marks the writes as seen before the
pass looks at the value, and it need not: the pass will look again.
-/

namespace FloatingIp

/-! ### Cells at different times -/

/-- One cell is the other at the same or an earlier time: they agree, or it has fewer writes. -/
def Cell.Earlier {α : Type} (c d : Cell α) : Prop :=
  c = d ∨ c.writes < d.writes

namespace Cell.Earlier

variable {α : Type} {c d e : Cell α}

/-- A cell is no later than itself. -/
lemma refl (c : Cell α) : c.Earlier c := .inl rfl

/-- What is earlier stays earlier. -/
lemma trans (hcd : c.Earlier d) (hde : d.Earlier e) : c.Earlier e := by
  rcases hcd with rfl | hcd
  · exact hde
  · rcases hde with rfl | hde
    · exact .inr hcd
    · exact .inr (Nat.lt_trans hcd hde)

/-- A write comes later. -/
lemma write (c : Cell α) (a : α) : c.Earlier (c.write a) :=
  .inr (by rw [writes_write]; exact Nat.lt_succ_self _)

/-- A published value comes later, or is there already. -/
lemma publish [DecidableEq α] (c : Cell α) (a : α) : c.Earlier (c.publish a).2 := by
  unfold Cell.publish
  split
  · exact refl c
  · exact write c a

/-- Cells with as many writes are the same. -/
lemma eq_of_writes_eq (h : c.Earlier d) (same : d.writes = c.writes) : c = d := by
  rcases h with rfl | h
  · rfl
  · omega

/-- One cell has no more writes than itself at a later time. -/
lemma writes_le (h : c.Earlier d) : c.writes ≤ d.writes := by
  rcases h with rfl | h
  · exact Nat.le_refl _
  · exact Nat.le_of_lt h

end Cell.Earlier

/-- The cells are one cell at different times, in order. -/
def Cell.Chronicle {α : Type} (cells : List (Cell α)) : Prop :=
  cells.Pairwise Cell.Earlier

namespace Cell.Chronicle

variable {α : Type} {cells : List (Cell α)} {c d : Cell α}

/-- A chronicle can be continued by a later time. -/
lemma concat (one : Chronicle (cells ++ [c])) (later : c.Earlier d) :
    Chronicle (cells ++ [c] ++ [d]) := by
  have last := (List.pairwise_append.mp one).2.2
  refine List.pairwise_append.mpr ⟨one, List.pairwise_singleton _ d, fun e mem f same => ?_⟩
  rw [List.mem_singleton.mp same]
  rcases List.mem_append.mp mem with before | now
  · exact (last e before c (List.mem_singleton_self c)).trans later
  · rw [List.mem_singleton.mp now]
    exact later

/-- A chronicle can end at a later time. -/
lemma later (one : Chronicle (cells ++ [c])) (later : c.Earlier d) : Chronicle (cells ++ [d]) :=
  (one.concat later).sublist ((List.sublist_append_left cells [c]).append_right [d])

/-- A chronicle that was continued is one up to the time before. -/
lemma of_concat (one : Chronicle (cells ++ [c] ++ [d])) :
    Chronicle (cells ++ [c]) ∧ c.Earlier d := by
  obtain ⟨before, -, last⟩ := List.pairwise_append.mp one
  exact ⟨before, last c (List.mem_append_right _ (List.mem_singleton_self c)) d
    (List.mem_singleton_self d)⟩

end Cell.Chronicle

namespace Convergence

/-! ### The cell changes by writes only -/

/-- A move that is no turn changes the cell by a write, if at all. -/
lemma Aside.cell_earlier {s t : Convergence} {m : Move} (aside : Aside s m t) :
    s.cell.Earlier t.cell := by
  cases aside with
  | receive leader _ =>
      rw [cell_receive]
      exact .publish s.cell leader
  | recheck _ _ => exact .write s.cell s.cell.value
  | drain _ _ => exact .write s.cell false
  | _ => exact .refl s.cell

/-- Every move leaves the cell at the same or a later time. -/
lemma cell_earlier_of_move {s t : Convergence} {m : Move} (h : s.move? m = some t) :
    s.cell.Earlier t.cell := by
  rcases move?_cases h with ⟨r, turn, rfl⟩ | aside
  · exact .refl s.cell
  · exact aside.cell_earlier

/-- Every run leaves the cell at the same or a later time. -/
lemma cell_earlier_of_run {s t : Convergence} {moves : List Move} (run : s.run? moves = some t) :
    s.cell.Earlier t.cell :=
  of_run (P := fun t : Convergence => s.cell.Earlier t.cell)
    (fun before h => before.trans (cell_earlier_of_move h)) (.refl s.cell) run

/-! ### The sight of the reconciler -/

/-- The cell as the reconciler saw it when it last looked. -/
def Reconciler.sight (r : Reconciler) : Cell Bool :=
  ⟨r.desired, r.seen⟩

/-- Whether the pass that a reconciler is in, or has just ended, has looked at the desired state. -/
def Phase.hasLooked : Phase → Bool
  | .probing => true
  | .claiming => true
  | .withdrawing => true
  | .resting => true
  | _ => false

/-- A pass begins without a look, and so does the final release. -/
lemma Reconciler.hasLooked_nextPass (r : Reconciler) (cancelled : Bool) :
    (r.nextPass cancelled).phase.hasLooked = false := by
  cases cancelled <;> rfl

/-- Whether a move answers the question whether the address is there; with that answer a pass looks
at the desired state. -/
def Move.isLook : Move → Bool
  | .answer (.present _) => true
  | .answer (.queryFailed _) => true
  | _ => false

/-- A look sees the cell as it is. -/
lemma Turn.sight_of_look {s : Convergence} {m : Move} {r : Reconciler} (turn : Turn s m r)
    (look : m.isLook = true) : r.sight = s.cell := by
  cases turn with
  | agree _ _ _ => rfl
  | probe _ _ => rfl
  | withdraw _ _ => rfl
  | unknown _ _ => rfl
  | _ => cases look

/-- After another turn a reconciler whose pass has looked has looked before, and keeps what it
saw. -/
lemma Turn.sight_of_no_look {s : Convergence} {m : Move} {r : Reconciler} (turn : Turn s m r)
    (later : m.isLook = false) (looked : r.phase.hasLooked = true) :
    s.reconciler.phase.hasLooked = true ∧ r.sight = s.reconciler.sight := by
  cases turn with
  | agree _ _ _ => cases later
  | probe _ _ => cases later
  | withdraw _ _ => cases later
  | unknown _ _ => cases later
  | defer probing => exact ⟨by rw [probing]; rfl, rfl⟩
  | claim probing => exact ⟨by rw [probing]; rfl, rfl⟩
  | claimFailed claiming _ => exact ⟨by rw [claiming]; rfl, rfl⟩
  | withdrawFailed withdrawing _ => exact ⟨by rw [withdrawing]; rfl, rfl⟩
  | begin _ => rw [Reconciler.begin, Reconciler.hasLooked_nextPass] at looked; cases looked
  | again _ _ _ => rw [Reconciler.hasLooked_nextPass] at looked; cases looked
  | claimed _ _ => rw [Reconciler.hasLooked_nextPass] at looked; cases looked
  | withdrawn _ _ => rw [Reconciler.hasLooked_nextPass] at looked; cases looked
  | _ => cases looked

/-- Once a pass has looked, what it saw is the cell at the same or an earlier time. -/
def SeesPast (s : Convergence) : Prop :=
  s.reconciler.phase.hasLooked = true → s.reconciler.sight.Earlier s.cell

/-- Every move keeps what was seen in the past. -/
lemma SeesPast.keep {s t : Convergence} {m : Move} (past : s.SeesPast)
    (h : s.move? m = some t) : t.SeesPast := by
  rcases move?_cases h with ⟨r, turn, rfl⟩ | aside
  · intro looked
    cases look : m.isLook with
    | true => exact .inl (turn.sight_of_look look)
    | false =>
        obtain ⟨before, same⟩ := turn.sight_of_no_look look looked
        show r.sight.Earlier s.cell
        rw [same]
        exact past before
  · intro looked
    rw [aside.reconciler] at looked ⊢
    exact (past looked).trans aside.cell_earlier

/-- In every run, what a pass saw is the cell at the same or an earlier time. -/
theorem sight_earlier {recheck : Nat} {moves : List Move} {s : Convergence}
    (run : (Convergence.new recheck).run? moves = some s) : s.SeesPast :=
  of_run SeesPast.keep (fun looked => by cases looked) run

/-- Once a pass has looked and no write has come since, it has seen the cell as it is. -/
theorem sight_eq_of_seen {recheck : Nat} {moves : List Move} {s : Convergence}
    (run : (Convergence.new recheck).run? moves = some s)
    (looked : s.reconciler.phase.hasLooked = true)
    (seen : s.cell.changedSince s.reconciler.seen = false) : s.reconciler.sight = s.cell := by
  have same : s.cell.writes = s.reconciler.seen := by simpa [Cell.changedSince] using seen
  exact (sight_earlier run looked).eq_of_writes_eq same

/-- A reconciler that rests after it saw another desired state than there is can wake. -/
theorem canWake_of_stale {recheck : Nat} {moves : List Move} {s : Convergence}
    (run : (Convergence.new recheck).run? moves = some s)
    (resting : s.reconciler.phase = .resting)
    (stale : s.reconciler.desired ≠ s.cell.value) : s.canWake = true := by
  cases unseen : s.cell.changedSince s.reconciler.seen with
  | false =>
      have sight := sight_eq_of_seen run (by rw [resting]; rfl) unseen
      exact absurd (congrArg Cell.value sight) stale
  | true =>
      unfold canWake Reconciler.wake?
      rw [if_neg (not_not_intro resting), unseen]
      split <;> rfl

/-! ### The last pass -/

/-- Whether an answer ends a pass without the host being as desired: a question that was not
answered, a change that was not made, a claim put off because of a duplicate, a broken call. -/
def Answer.isSetback : Answer → Bool
  | .present _ => false
  | .queryFailed _ => true
  | .duplicate found => found
  | .changed _ => false
  | .changeFailed _ => true
  | .broke => true

/-- The calls of the last pass, newest first: those back to the last question whether the address
is there, with that question. -/
def lastPass : List CallRecord → List CallRecord
  | [] => []
  | c :: rest => if c.call = .query then [c] else c :: lastPass rest

/-- The newest call belongs to the last pass. -/
lemma mem_lastPass (c : CallRecord) (rest : List CallRecord) : c ∈ lastPass (c :: rest) := by
  unfold lastPass
  split <;> exact List.mem_cons_self

/-- The question alone is the last pass if it is the newest call. -/
lemma lastPass_query {c : CallRecord} (query : c.call = .query) (rest : List CallRecord) :
    lastPass (c :: rest) = [c] := by
  unfold lastPass
  rw [if_pos query]

/-- A reconciler that goes to rest does so by an answer that is a setback, or by one that found the
address as it was desired. -/
lemma Turn.reason_to_rest {s : Convergence} {m : Move} {r : Reconciler} (turn : Turn s m r)
    (resting : r.phase = .resting) :
    ∃ call a, s.reconciler.phase.call? = some call ∧ m = .answer a ∧
      (a.isSetback = true ∨ call = .query ∧ a = .present r.desired) := by
  cases turn with
  | agree querying actual same =>
      exact ⟨_, _, by rw [querying]; rfl, rfl, .inr ⟨rfl, congrArg Answer.present same⟩⟩
  | unknown querying _ => exact ⟨_, _, by rw [querying]; rfl, rfl, .inl rfl⟩
  | defer probing => exact ⟨_, _, by rw [probing]; rfl, rfl, .inl rfl⟩
  | claimFailed claiming _ => exact ⟨_, _, by rw [claiming]; rfl, rfl, .inl rfl⟩
  | withdrawFailed withdrawing _ => exact ⟨_, _, by rw [withdrawing]; rfl, rfl, .inl rfl⟩
  | begin _ => exact absurd resting (Reconciler.phase_nextPass_ne nofun nofun)
  | claimed _ _ => exact absurd resting (Reconciler.phase_nextPass_ne nofun nofun)
  | withdrawn _ _ => exact absurd resting (Reconciler.phase_nextPass_ne nofun nofun)
  | _ => cases resting

/-- A reconciler that rests has had a setback in its last call, or that call found the address as
it was desired. -/
def RestsForReason (s : Convergence) : Prop :=
  s.reconciler.phase = .resting → ∃ c rest, s.calls = c :: rest ∧
    (c.answer.isSetback = true ∨ c.call = .query ∧ c.answer = .present s.reconciler.desired)

/-- A turn to rest ends a call that gives the reason for it. -/
lemma Turn.restsForReason {s : Convergence} {m : Move} {r : Reconciler} (turn : Turn s m r) :
    (s.turned m r).RestsForReason := by
  intro resting
  obtain ⟨call, a, busy, rfl, reason⟩ := turn.reason_to_rest resting
  exact ⟨⟨call, s.callStart, s.now, a⟩, s.calls, calls_turned busy a r, reason⟩

/-- In every run a reconciler rests for a reason. -/
theorem rests_for_reason {recheck : Nat} {moves : List Move} {s : Convergence}
    (run : (Convergence.new recheck).run? moves = some s) : s.RestsForReason := by
  refine of_run (P := RestsForReason) ?_ (fun resting => by cases resting) run
  intro s t m reason h
  rcases move?_cases h with ⟨r, turn, rfl⟩ | aside
  · exact turn.restsForReason
  · intro resting
    rw [aside.reconciler] at resting ⊢
    rw [aside.calls]
    exact reason resting

/-! ### No lost wake-up -/

/-- **No write is lost.**  Where the reconciler rests and has seen every write, its last pass
looked at the desired state as it is now.  Unless that pass had a setback, it was the question
alone, and the answer was the desired state. -/
theorem no_lost_wakeup {recheck : Nat} {moves : List Move} {s : Convergence}
    (run : (Convergence.new recheck).run? moves = some s)
    (resting : s.reconciler.phase = .resting)
    (seen : s.cell.changedSince s.reconciler.seen = false) :
    s.reconciler.desired = s.cell.value ∧
      ((∀ c ∈ lastPass s.calls, c.answer.isSetback = false) →
        ∃ c, lastPass s.calls = [c] ∧ c.call = .query ∧ c.answer = .present s.cell.value) := by
  have sight : s.reconciler.sight = s.cell := sight_eq_of_seen run (by rw [resting]; rfl) seen
  have desired : s.reconciler.desired = s.cell.value := congrArg Cell.value sight
  refine ⟨desired, fun smooth => ?_⟩
  obtain ⟨c, rest, hcalls, reason⟩ := rests_for_reason run resting
  rw [hcalls] at smooth ⊢
  rcases reason with setback | ⟨query, answer⟩
  · rw [smooth c (mem_lastPass c rest)] at setback
    cases setback
  · exact ⟨c, lastPass_query query rest, query, by rw [answer, desired]⟩

/-- A run in which leadership is lost during a probe, and won and lost again during the removal
that follows from it. -/
def flipsInPasses : List Move :=
  [.begin, .receive true, .answer (.present false), .receive false, .answer (.duplicate false),
    .answer (.changed .applied), .answer (.present true), .receive true, .receive false,
    .answer (.changed .applied), .answer (.present false)]

/-- After these flips the reconciler rests on the desired state as it is. -/
theorem no_lost_wakeup_flipsInPasses :
    ∃ s, (Convergence.new 10000).run? flipsInPasses = some s ∧ s.reconciler.phase = .resting ∧
      s.cell.changedSince s.reconciler.seen = false ∧ s.reconciler.desired = s.cell.value ∧
        ∃ c, lastPass s.calls = [c] ∧ c.call = .query ∧ c.answer = .present s.cell.value := by
  have settled := @no_lost_wakeup 10000 flipsInPasses _ rfl rfl rfl
  exact ⟨_, rfl, rfl, rfl, settled.1, settled.2 (by decide)⟩

end Convergence
end FloatingIp
