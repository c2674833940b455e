import FloatingIp.Proofs.Convergence.Desire
import FloatingIp.Proofs.Convergence.Trace

/-!
# What is to come once the work is called off

Once the work is called off, the pass in progress runs to its end and the address is released in
one more call.  What is still to come is therefore a matter of the phase alone.  `Remainder` lists
the calls that the pass in progress may still make, one constructor for each way on, and `Closing`
adds the release.

A closing of the phase after a move gives one of the phase before it (`Closing.of_move`), so the
trace of a run that was called off is read from its end (`Closing.of_run`).
-/

namespace FloatingIp.Convergence

/-! ### What is still to come -/

/-- Whether an answer says how a change went. -/
def Answer.isOfChange : Answer → Bool
  | .changed _ => true
  | .changeFailed _ => true
  | _ => false

/-- The events of the final release. -/
def releaseEvents (a : Answer) : List CallEvent :=
  [.began .deconfigure, .ended .deconfigure a]

/-- The events that the pass in progress may still have, from a phase on. -/
inductive Remainder : Phase → List CallEvent → Prop where
  | starting : Remainder .starting []
  | resting : Remainder .resting []
  | unknown (fault : AddressFault) : Remainder .querying [.ended .query (.queryFailed fault)]
  | agreed (actual : Bool) : Remainder .querying [.ended .query (.present actual)]
  | probe {rest : List CallEvent} (later : Remainder .probing rest) :
      Remainder .querying (.ended .query (.present false) :: .began .probe :: rest)
  | withdraw {rest : List CallEvent} (later : Remainder .withdrawing rest) :
      Remainder .querying (.ended .query (.present true) :: .began .deconfigure :: rest)
  | deferred : Remainder .probing [.ended .probe (.duplicate true)]
  | claim {rest : List CallEvent} (later : Remainder .claiming rest) :
      Remainder .probing (.ended .probe (.duplicate false) :: .began .configure :: rest)
  | claimed (a : Answer) (change : a.isOfChange = true) :
      Remainder .claiming [.ended .configure a]
  | withdrawn (a : Answer) (change : a.isOfChange = true) :
      Remainder .withdrawing [.ended .deconfigure a]

/-- All events that may still come once the work is called off, from a phase on. -/
inductive Closing : Phase → List CallEvent → Prop where
  | pass {p : Phase} {rest : List CallEvent} (remainder : Remainder p rest) (a : Answer)
      (change : a.isOfChange = true) : Closing p (rest ++ releaseEvents a)
  | releasing (a : Answer) (change : a.isOfChange = true) :
      Closing .releasing [.ended .deconfigure a]
  | stopped : Closing .stopped []

/-- No question is begun in the rest of a pass. -/
lemma Remainder.no_query {p : Phase} {rest : List CallEvent} (remainder : Remainder p rest) :
    .began .query ∉ rest := by
  induction remainder with
  | probe _ ih => simpa using ih
  | withdraw _ ih => simpa using ih
  | claim _ ih => simpa using ih
  | _ => simp

/-- No question is begun once the work is called off. -/
lemma Closing.no_query {p : Phase} {es : List CallEvent} (closing : Closing p es) :
    .began .query ∉ es := by
  cases closing with
  | pass remainder a _ => simp [releaseEvents, remainder.no_query]
  | _ => simp

/-- Where the release has not begun, a closing is the rest of a pass and the release. -/
lemma Closing.exists_remainder {p : Phase} {es : List CallEvent} (closing : Closing p es)
    (before : p ≠ .releasing) (unfinished : p ≠ .stopped) :
    ∃ rest a, Remainder p rest ∧ a.isOfChange = true ∧ es = rest ++ releaseEvents a := by
  cases closing with
  | pass remainder a change => exact ⟨_, a, remainder, change, rfl⟩
  | releasing _ _ => exact absurd rfl before
  | stopped => exact absurd rfl unfinished

/-- Every reconciler that has not broken down can be closed. -/
lemma exists_closing {p : Phase} (whole : p ≠ .crashed) : ∃ es, Closing p es := by
  have change : (Answer.changed .already).isOfChange = true := rfl
  cases p with
  | starting => exact ⟨_, .pass .starting _ change⟩
  | querying => exact ⟨_, .pass (.agreed true) _ change⟩
  | probing => exact ⟨_, .pass .deferred _ change⟩
  | claiming => exact ⟨_, .pass (.claimed _ change) _ change⟩
  | withdrawing => exact ⟨_, .pass (.withdrawn _ change) _ change⟩
  | resting => exact ⟨_, .pass .resting _ change⟩
  | releasing => exact ⟨_, .releasing _ change⟩
  | stopped => exact ⟨_, .stopped⟩
  | crashed => exact absurd rfl whole

/-! ### One move closer to the end -/

/-- A pass that ends in rest leaves the release to come. -/
lemma Closing.of_rest {p : Phase} {es ending : List CallEvent} (closing : Closing .resting es)
    (remainder : Remainder p ending) : Closing p (ending ++ es) := by
  obtain ⟨rest, a, none, change, rfl⟩ := closing.exists_remainder nofun nofun
  cases none
  exact .pass remainder a change

/-- A pass that ends in the release leaves its answer to come. -/
lemma Closing.of_release {p : Phase} {es ending : List CallEvent} (closing : Closing .releasing es)
    (remainder : Remainder p ending) : Closing p (ending ++ .began .deconfigure :: es) := by
  cases closing with
  | pass none _ _ => cases none
  | releasing a change => exact .pass remainder a change

/-- A pass that goes on leaves the rest of it and the release to come. -/
lemma Closing.of_further {p q : Phase} {es : List CallEvent} {first : CallEvent} {call : Call}
    (closing : Closing q es) (before : q ≠ .releasing) (unfinished : q ≠ .stopped)
    (further : ∀ rest, Remainder q rest → Remainder p (first :: .began call :: rest)) :
    Closing p (first :: .began call :: es) := by
  obtain ⟨rest, a, remainder, change, rfl⟩ := closing.exists_remainder before unfinished
  exact .pass (further rest remainder) a change

/-- Nothing is to come after the end. -/
lemma Closing.of_stopped {es : List CallEvent} (closing : Closing .stopped es) : es = [] := by
  cases closing with
  | pass none _ _ => cases none
  | stopped => rfl

/-- The events of an answer to the call that the reconciler is in. -/
lemma Turn.events_answer {s : Convergence} {a : Answer} {r : Reconciler} {call : Call}
    (turn : Turn s (.answer a) r) (busy : s.reconciler.phase.call? = some call) :
    s.events (.answer a) (s.turned (.answer a) r) =
      .ended call a :: r.phase.call?.toList.map .began := by
  rw [turn.events, endedBy_answer busy]
  rfl

/-- **A turn leads one step along a closing**, once the work is called off. -/
lemma Turn.closing {s : Convergence} {m : Move} {r : Reconciler} (turn : Turn s m r)
    (off : s.cancelled = true) (whole : m ≠ .answer .broke) {es : List CallEvent}
    (closing : Closing r.phase es) :
    Closing s.reconciler.phase (s.events m (s.turned m r) ++ es) := by
  have taken := turn
  cases turn with
  | begin starting =>
      rw [taken.events, starting]
      rw [off] at closing ⊢
      exact closing.of_release .starting
  | release resting _ =>
      rw [taken.events, resting]
      exact closing.of_release .resting
  | again _ active _ =>
      rw [off] at active
      cases active
  | agree querying actual _ =>
      rw [taken.events_answer (by rw [querying]; rfl), querying]
      exact closing.of_rest (.agreed actual)
  | probe querying _ =>
      rw [taken.events_answer (by rw [querying]; rfl), querying]
      exact closing.of_further nofun nofun fun _ => .probe
  | withdraw querying _ =>
      rw [taken.events_answer (by rw [querying]; rfl), querying]
      exact closing.of_further nofun nofun fun _ => .withdraw
  | unknown querying fault =>
      rw [taken.events_answer (by rw [querying]; rfl), querying]
      exact closing.of_rest (.unknown fault)
  | defer probing =>
      rw [taken.events_answer (by rw [probing]; rfl), probing]
      exact closing.of_rest .deferred
  | claim probing =>
      rw [taken.events_answer (by rw [probing]; rfl), probing]
      exact closing.of_further nofun nofun fun _ => .claim
  | claimed claiming outcome =>
      rw [taken.events_answer (by rw [claiming]; rfl), claiming]
      rw [off] at closing ⊢
      exact closing.of_release (.claimed (.changed outcome) rfl)
  | claimFailed claiming fault =>
      rw [taken.events_answer (by rw [claiming]; rfl), claiming]
      exact closing.of_rest (.claimed (.changeFailed fault) rfl)
  | withdrawn withdrawing outcome =>
      rw [taken.events_answer (by rw [withdrawing]; rfl), withdrawing]
      rw [off] at closing ⊢
      exact closing.of_release (.withdrawn (.changed outcome) rfl)
  | withdrawFailed withdrawing fault =>
      rw [taken.events_answer (by rw [withdrawing]; rfl), withdrawing]
      exact closing.of_rest (.withdrawn (.changeFailed fault) rfl)
  | released releasing outcome =>
      rw [taken.events_answer (by rw [releasing]; rfl), releasing, closing.of_stopped]
      exact .releasing (.changed outcome) rfl
  | releaseFailed releasing fault =>
      rw [taken.events_answer (by rw [releasing]; rfl), releasing, closing.of_stopped]
      exact .releasing (.changeFailed fault) rfl
  | broke _ _ => exact absurd rfl whole

/-- Every move leads along a closing, once the work is called off. -/
lemma Closing.of_move {s t : Convergence} {m : Move} (h : s.move? m = some t)
    (off : s.cancelled = true) (whole : m ≠ .answer .broke) {es : List CallEvent}
    (closing : Closing t.reconciler.phase es) :
    Closing s.reconciler.phase (s.events m t ++ es) := by
  rcases move?_cases h with ⟨r, turn, rfl⟩ | aside
  · exact turn.closing off whole closing
  · rw [aside.events, List.nil_append]
    rw [aside.reconciler] at closing
    exact closing

/-- **A run leads along a closing**, once the work is called off. -/
theorem Closing.of_run {s t : Convergence} {moves : List Move} (run : s.run? moves = some t)
    (off : s.cancelled = true) (whole : .answer .broke ∉ moves) {es : List CallEvent}
    (closing : Closing t.reconciler.phase es) :
    Closing s.reconciler.phase (s.trace moves ++ es) := by
  induction moves generalizing s with
  | nil =>
      cases run
      exact closing
  | cons m moves ih =>
      obtain ⟨u, hu, hrun⟩ := run_cons.mp run
      rw [List.mem_cons, not_or] at whole
      obtain ⟨hm, hmoves⟩ := whole
      have still : u.cancelled = true := (cancelled_of_move hu).mpr (.inl off)
      rw [trace_cons hu, List.append_assoc]
      exact (ih hrun still hmoves).of_move hu off (Ne.symm hm)

end FloatingIp.Convergence
