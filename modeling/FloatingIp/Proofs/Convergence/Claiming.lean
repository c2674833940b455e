import FloatingIp.Proofs.Convergence.Desire
import FloatingIp.Proofs.Convergence.Trace

/-!
# When the address is claimed

A claim rests on what its pass looked at, not on the moment in which the address is added.  Whether
the work is called off is asked once, before the question; whether the address is desired is looked
at once, when the question is answered; and between that look and the addition lies the probe.
Neither is asked again.  So the work may have been called off when the address is added, during the
question or during the probe, and the desired state may have been lost during the probe
(`claim_outlives_shutdown`).  What does hold is `configure_follows_desire`: the pass began while the
work was not called off, the address was desired when its question was answered, and the desired
state has since become what was taken during the probe, nothing else.
-/

namespace FloatingIp.Convergence

/-! ### The pass that a run is in -/

/-- A run to the state in which a question is open: `opening` began it while the work was not
called off, and the reconciler has waited for its answer since. -/
structure Asked (recheck : Nat) (before : List Move) (opening : Move) (asking : List Move) :
    Prop where
  /-- The question was begun in time. -/
  begun : ∃ s, (Convergence.new recheck).run? before = some s ∧ s.cancelled = false ∧
    s.Begins opening .query
  /-- No turn has come since. -/
  waiting : ∀ m ∈ asking, m.isTurn = false

/-- Waiting on keeps a question open. -/
lemma Asked.concat {recheck : Nat} {before asking : List Move} {opening m : Move}
    (asked : Asked recheck before opening asking) (still : m.isTurn = false) :
    Asked recheck before opening (asking ++ [m]) := by
  refine ⟨asked.begun, fun n hn => ?_⟩
  rcases List.mem_append.mp hn with hn | hn
  · exact asked.waiting n hn
  · rw [List.mem_singleton.mp hn]
    exact still

/-- A run to the state in which a probe is under way: an open question was answered "absent" in a
state in which the address was desired, and the reconciler has waited for the probe since. -/
structure Probed (recheck : Nat) (before : List Move) (opening : Move)
    (asking probing : List Move) : Prop where
  /-- The question was open. -/
  asked : Asked recheck before opening asking
  /-- The address was desired when the question was answered. -/
  desired : ∃ s, (Convergence.new recheck).run? (before ++ opening :: asking) = some s ∧
    s.cell.value = true
  /-- No turn has come since. -/
  waiting : ∀ m ∈ probing, m.isTurn = false

/-- Waiting on keeps a probe under way. -/
lemma Probed.concat {recheck : Nat} {before asking probing : List Move} {opening m : Move}
    (probed : Probed recheck before opening asking probing) (still : m.isTurn = false) :
    Probed recheck before opening asking (probing ++ [m]) := by
  refine ⟨probed.asked, probed.desired, fun n hn => ?_⟩
  rcases List.mem_append.mp hn with hn | hn
  · exact probed.waiting n hn
  · rw [List.mem_singleton.mp hn]
    exact still

/-- How a run came to the question or the probe that the reconciler is in. -/
structure Opened (recheck : Nat) (moves : List Move) (s : Convergence) : Prop where
  /-- A question is open. -/
  asked : s.reconciler.phase = .querying → ∃ before opening asking,
    moves = before ++ opening :: asking ∧ Asked recheck before opening asking
  /-- A probe is under way. -/
  probed : s.reconciler.phase = .probing → ∃ before opening asking probing,
    moves = before ++ opening :: (asking ++ .answer (.present false) :: probing) ∧
      Probed recheck before opening asking probing

/-- A turn into the question is made while the work is not called off. -/
lemma Turn.active_of_querying {s : Convergence} {m : Move} {r : Reconciler} (turn : Turn s m r)
    (querying : r.phase = .querying) : s.cancelled = false := by
  cases turn with
  | begin _ => exact Reconciler.active_of_querying querying
  | again _ active _ => exact active
  | claimed _ _ => exact Reconciler.active_of_querying querying
  | withdrawn _ _ => exact Reconciler.active_of_querying querying
  | _ => cases querying

/-- A turn into the probe answers the question with "absent" where the address is desired. -/
lemma Turn.desired_of_probing {s : Convergence} {m : Move} {r : Reconciler} (turn : Turn s m r)
    (probing : r.phase = .probing) :
    s.reconciler.phase = .querying ∧ m = .answer (.present false) ∧ s.cell.value = true := by
  cases turn with
  | probe querying desired => exact ⟨querying, rfl, desired⟩
  | begin _ => exact absurd probing (Reconciler.phase_nextPass_ne nofun nofun)
  | claimed _ _ => exact absurd probing (Reconciler.phase_nextPass_ne nofun nofun)
  | withdrawn _ _ => exact absurd probing (Reconciler.phase_nextPass_ne nofun nofun)
  | _ => cases probing

/-- A turn into the addition answers the probe with "no duplicate". -/
lemma Turn.probed_of_claiming {s : Convergence} {m : Move} {r : Reconciler} (turn : Turn s m r)
    (claiming : r.phase = .claiming) :
    s.reconciler.phase = .probing ∧ m = .answer (.duplicate false) := by
  cases turn with
  | claim probing => exact ⟨probing, rfl⟩
  | begin _ => exact absurd claiming (Reconciler.phase_nextPass_ne nofun nofun)
  | claimed _ _ => exact absurd claiming (Reconciler.phase_nextPass_ne nofun nofun)
  | withdrawn _ _ => exact absurd claiming (Reconciler.phase_nextPass_ne nofun nofun)
  | _ => cases claiming

/-- A further move keeps the account of how the question or the probe was come to. -/
lemma Opened.further {recheck : Nat} {moves : List Move} {s t : Convergence} {m : Move}
    (run : (Convergence.new recheck).run? moves = some s) (opened : Opened recheck moves s)
    (h : s.move? m = some t) : Opened recheck (moves ++ [m]) t := by
  rcases move?_cases h with ⟨r, turn, rfl⟩ | aside
  · constructor
    · intro querying
      have querying : r.phase = .querying := querying
      have began : .began .query ∈ s.events m (s.turned m r) := by
        rw [turn.events, querying]
        simp [Phase.call?]
      have begins : s.Begins m .query := ⟨_, h, began⟩
      refine ⟨moves, m, [], rfl, ⟨s, run, turn.active_of_querying querying, begins⟩, ?_⟩
      intro n hn
      cases hn
    · intro probing
      obtain ⟨querying, rfl, desired⟩ := turn.desired_of_probing probing
      obtain ⟨before, opening, asking, rfl, asked⟩ := opened.asked querying
      refine ⟨before, opening, asking, [], by simp, asked, ⟨s, run, desired⟩, ?_⟩
      intro n hn
      cases hn
  · constructor
    · intro querying
      rw [aside.reconciler] at querying
      obtain ⟨before, opening, asking, rfl, asked⟩ := opened.asked querying
      exact ⟨before, opening, asking ++ [m], by simp, asked.concat aside.isTurn⟩
    · intro probing
      rw [aside.reconciler] at probing
      obtain ⟨before, opening, asking, waited, rfl, probed⟩ := opened.probed probing
      exact ⟨before, opening, asking, waited ++ [m], by simp, probed.concat aside.isTurn⟩

/-- Every run has come to its question or probe in this way. -/
theorem opened_of_run {recheck : Nat} {moves : List Move} {s : Convergence}
    (run : (Convergence.new recheck).run? moves = some s) : Opened recheck moves s := by
  refine run_induction (P := Opened recheck) ?_ Opened.further run
  constructor
  · intro querying
    cases querying
  · intro probing
    cases probing

/-! ### The address is added on what the pass looked at -/

/-- Leadership is lost during the probe. -/
def lostDuringProbe : List Move :=
  [.begin, .receive true, .answer (.present false), .receive false]

/-- The work is called off during the probe, and the coordinator gives leadership up. -/
def calledOffDuringProbe : List Move :=
  [.begin, .receive true, .answer (.present false), .cancel, .drain]

/-- The work is called off while the question is open, and its answer is taken up before the
coordinator learns of it. -/
def calledOffDuringQuestion : List Move :=
  [.begin, .receive true, .cancel, .answer (.present false)]

/-- The address may be begun to be added where it is not desired any more, and where the work is
called off, be it since the question or since the probe. -/
theorem claim_outlives_shutdown :
    (∀ moves ∈ [lostDuringProbe, calledOffDuringProbe], ∃ s,
      (Convergence.new 10000).run? moves = some s ∧
        s.Begins (.answer (.duplicate false)) .configure ∧ s.cell.value = false) ∧
    (∀ moves ∈ [calledOffDuringProbe, calledOffDuringQuestion], ∃ s,
      (Convergence.new 10000).run? moves = some s ∧
        s.Begins (.answer (.duplicate false)) .configure ∧ s.cancelled = true) ∧
    ¬∀ (recheck : Nat) (moves : List Move) (s : Convergence) (m : Move),
      (Convergence.new recheck).run? moves = some s → s.Begins m .configure →
        s.cell.value = true ∧ s.cancelled = false := by
  have lost : ∀ moves ∈ [lostDuringProbe, calledOffDuringProbe], ∃ s,
      (Convergence.new 10000).run? moves = some s ∧
        s.Begins (.answer (.duplicate false)) .configure ∧ s.cell.value = false := by
    simp only [List.forall_mem_cons]
    exact ⟨⟨_, rfl, ⟨_, rfl, by decide⟩, rfl⟩, ⟨_, rfl, ⟨_, rfl, by decide⟩, rfl⟩, nofun⟩
  have cancelled : ∀ moves ∈ [calledOffDuringProbe, calledOffDuringQuestion], ∃ s,
      (Convergence.new 10000).run? moves = some s ∧
        s.Begins (.answer (.duplicate false)) .configure ∧ s.cancelled = true := by
    simp only [List.forall_mem_cons]
    exact ⟨⟨_, rfl, ⟨_, rfl, by decide⟩, rfl⟩, ⟨_, rfl, ⟨_, rfl, by decide⟩, rfl⟩, nofun⟩
  refine ⟨lost, cancelled, ?_⟩
  intro claim
  obtain ⟨s, run, begins, late⟩ := cancelled calledOffDuringProbe (by simp)
  exact Bool.false_ne_true ((claim 10000 _ s _ run begins).2.symm.trans late)

/-- **A claim rests on its pass.**  The address is begun to be added only by the answer "no
duplicate" to a probe that followed the answer "absent" in the same pass.  That pass was begun when
the work was not called off, and the address was desired when it looked.  Since then the desired
state is what the coordinator took during the probe, and the work is called off only if it was
called off during the pass. -/
theorem configure_follows_desire {recheck : Nat} {moves : List Move} {s : Convergence} {m : Move}
    (run : (Convergence.new recheck).run? moves = some s) (begins : s.Begins m .configure) :
    m = .answer (.duplicate false) ∧ ∃ before opening asking probing,
      moves = before ++ opening :: (asking ++ .answer (.present false) :: probing) ∧
      Probed recheck before opening asking probing ∧
      s.cell.value = desiredAfter true probing ∧
      (s.cancelled = true ↔ .cancel ∈ asking ++ probing) := by
  obtain ⟨r, turn, configure⟩ := begins.turn
  obtain ⟨probing, rfl⟩ := turn.probed_of_claiming (Phase.claiming_of_configure configure)
  obtain ⟨before, opening, asking, probing, rfl, probed⟩ := (opened_of_run run).probed probing
  refine ⟨rfl, before, opening, asking, probing, rfl, probed, ?_, ?_⟩
  · -- the run from the look on decides the desired state
    obtain ⟨u, hu, desired⟩ := probed.desired
    have split : before ++ opening :: (asking ++ Move.answer (.present false) :: probing) =
        (before ++ opening :: asking) ++ Move.answer (.present false) :: probing := by simp
    rw [split] at run
    obtain ⟨v, hv, rest⟩ := run_append.mp run
    obtain rfl : u = v := Option.some.inj (hu.symm.trans hv)
    rw [value_of_run rest, desired, desiredAfter_cons]
    rfl
  · -- the run from the opening on decides whether the work is called off
    obtain ⟨u, hu, active, opens⟩ := probed.asked.begun
    obtain ⟨v, hv, rest⟩ := run_append.mp run
    obtain rfl : u = v := Option.some.inj (hu.symm.trans hv)
    have other : Move.cancel ≠ opening := by
      rintro rfl
      obtain ⟨r, opened, -⟩ := opens.turn
      cases opened
    rw [cancelled_of_run rest, active]
    simp [other]

/-- The claim in `lostDuringProbe` rests on its pass. -/
theorem configure_follows_desire_lostDuringProbe :
    ∃ s, (Convergence.new 10000).run? lostDuringProbe = some s ∧
      s.Begins (.answer (.duplicate false)) .configure ∧
      ∃ before opening asking probing,
        lostDuringProbe = before ++ opening :: (asking ++ .answer (.present false) :: probing) ∧
        Probed 10000 before opening asking probing ∧
        s.cell.value = desiredAfter true probing ∧
        (s.cancelled = true ↔ .cancel ∈ asking ++ probing) := by
  have rests := @configure_follows_desire 10000 lostDuringProbe _ (.answer (.duplicate false)) rfl
    ⟨_, rfl, by decide⟩
  exact ⟨_, rfl, ⟨_, rfl, by decide⟩, rests.2⟩

end FloatingIp.Convergence
