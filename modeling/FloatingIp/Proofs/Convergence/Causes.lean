import FloatingIp.Proofs.Convergence.Passes
import FloatingIp.Proofs.Convergence.Shutdown
import FloatingIp.Proofs.Convergence.Sight

/-!
# Why passes begin

A reconciler does not keep the host busy.  Every pass that it begins has a cause of its own: the
beginning of its life, a write of the desired state that it has not seen, or a change that it has
made in the pass before, and there is no fourth (`Turn.cause`).  So there are at most as many passes
as causes.  A pass that had a setback is no cause for another one: the next pass waits for a write
that comes after the look of the one that failed (`passes_have_causes`).

Writes are charged by the count that the reconciler has seen.  That count grows when it wakes and
when a pass looks, and several writes may pass at once, so it is a bound from above that each pass
begun by a write uses up a part of (`Solo.Charged`).
-/

namespace FloatingIp.Convergence

/-! ### What a turn has for a cause -/

/-- **A pass begins for one of three causes**: the reconciler begins, it has found a write that it
had not seen, or a change that it was in has been made. -/
lemma Turn.cause {s : Convergence} {m : Move} {r : Reconciler} (turn : Turn s m r)
    (begins : r.phase = .querying) :
    s.reconciler.phase = .starting ∨
      s.reconciler.phase = .resting ∧ s.cell.changedSince s.reconciler.seen = true ∧
        r.seen = s.cell.writes ∨
      ∃ call outcome, s.reconciler.phase.call? = some call ∧ m = .answer (.changed outcome) := by
  cases turn with
  | begin starting => exact .inl starting
  | again resting _ news => exact .inr (.inl ⟨resting, news, rfl⟩)
  | claimed claiming outcome => exact .inr (.inr ⟨_, outcome, by rw [claiming]; rfl, rfl⟩)
  | withdrawn withdrawing outcome =>
      exact .inr (.inr ⟨_, outcome, by rw [withdrawing]; rfl, rfl⟩)
  | _ => cases begins

/-- The writes that a reconciler has seen are those that it had seen or those that there are. -/
lemma Turn.seen {s : Convergence} {m : Move} {r : Reconciler} (turn : Turn s m r) :
    r.seen = s.reconciler.seen ∨ r.seen = s.cell.writes := by
  have next (r : Reconciler) : (r.nextPass s.cancelled).seen = r.seen := by
    cases s.cancelled <;> rfl
  cases turn with
  | begin _ => exact .inl (next _)
  | claimed _ _ => exact .inl (next _)
  | withdrawn _ _ => exact .inl (next _)
  | again _ _ _ => exact .inr rfl
  | agree _ _ _ => exact .inr rfl
  | probe _ _ => exact .inr rfl
  | withdraw _ _ => exact .inr rfl
  | unknown _ _ => exact .inr rfl
  | _ => exact .inl rfl

/-- No reconciler begins twice. -/
lemma Turn.not_starting {s : Convergence} {m : Move} {r : Reconciler} (turn : Turn s m r) :
    r.phase ≠ .starting := by
  cases turn with
  | begin _ => exact Reconciler.phase_nextPass_ne nofun nofun
  | claimed _ _ => exact Reconciler.phase_nextPass_ne nofun nofun
  | withdrawn _ _ => exact Reconciler.phase_nextPass_ne nofun nofun
  | _ => nofun

/-- After a setback a reconciler rests, or it begins no pass any more. -/
lemma Turn.rests_of_setback {s : Convergence} {a : Answer} {r : Reconciler}
    (turn : Turn s (.answer a) r) (setback : a.isSetback = true) :
    r.phase = .resting ∨ r.phase.isOver = true := by
  cases turn with
  | unknown _ _ => exact .inl rfl
  | defer _ => exact .inl rfl
  | claimFailed _ _ => exact .inl rfl
  | withdrawFailed _ _ => exact .inl rfl
  | releaseFailed _ _ => exact .inr rfl
  | broke _ _ => exact .inr rfl
  | _ => cases setback

/-- A turn into the end answers one call. -/
lemma Turn.answered_of_stopped {s : Convergence} {m : Move} {r : Reconciler} (turn : Turn s m r)
    (stopped : r.phase = .stopped) : ∃ e, s.answeredBy m = [e] := by
  cases turn with
  | begin _ => exact absurd stopped (Reconciler.phase_nextPass_ne nofun nofun)
  | claimed _ _ => exact absurd stopped (Reconciler.phase_nextPass_ne nofun nofun)
  | withdrawn _ _ => exact absurd stopped (Reconciler.phase_nextPass_ne nofun nofun)
  | released releasing _ => exact ⟨_, answeredBy_answer releasing rfl _⟩
  | releaseFailed releasing _ => exact ⟨_, answeredBy_answer releasing rfl _⟩
  | _ => cases stopped

/-! ### Passes and changes of a life -/

/-- Whether a call was a change that was made. -/
def Answered.isMade (e : Answered) : Bool :=
  match e.answer with
  | .changed _ => true
  | _ => false

namespace Solo

/-- How many passes have been begun: one for each question, answered by now or not. -/
def passes (s : Solo) : Nat :=
  s.answered.countP (·.call = .query) + if s.reconciler.phase = .querying then 1 else 0

/-- The calls that were answered within passes: all but the final release. -/
def withinPasses (s : Solo) : List Answered :=
  if s.reconciler.phase = .stopped then s.answered.dropLast else s.answered

/-- How many changes were made within passes. -/
def changes (s : Solo) : Nat :=
  s.withinPasses.countP Answered.isMade

/-- A turn begins one more pass if it leads to a question, and else none. -/
lemma passes_of_turn? {s t : Solo} {turn : Convergence × Move} (h : s.turn? turn = some t) :
    t.passes = s.passes + if t.reconciler.phase = .querying then 1 else 0 := by
  obtain ⟨r, taken, rfl⟩ := cases_of_turn? h
  have answered : ((s.inside turn.1).answeredBy turn.2).countP (·.call = .query) =
      if s.reconciler.phase = .querying then 1 else 0 := by
    rcases taken.free_or_answered with ⟨free, none⟩ | ⟨call, a, busy, same⟩
    · have idle : s.reconciler.phase ≠ .querying := fun asks => by
        rw [inside, asks] at free
        cases free
      rw [answeredBy, none, if_neg idle]
      rfl
    · have asks : call = .query ↔ s.reconciler.phase = .querying := by
        constructor
        · rintro rfl
          exact Phase.querying_of_query busy
        · intro querying
          rw [inside, querying] at busy
          exact (Option.some.inj busy).symm
      rw [same, answeredBy_answer rfl busy, List.countP_singleton]
      simp [asks]
  show (s.answered ++ _).countP _ + _ = _
  rw [List.countP_append, answered]
  rfl

/-- The calls within passes grow by the call that a turn answers, unless that is the release. -/
lemma withinPasses_of_turn? {s t : Solo} {turn : Convergence × Move} (h : s.turn? turn = some t) :
    t.withinPasses = s.withinPasses ++
      if t.reconciler.phase = .stopped then [] else (s.inside turn.1).answeredBy turn.2 := by
  obtain ⟨r, taken, rfl⟩ := cases_of_turn? h
  have going : s.reconciler.phase ≠ .stopped := fun stopped => by
    have ended := taken.not_over
    rw [inside, stopped] at ended
    cases ended
  rw [withinPasses, withinPasses, if_neg going]
  by_cases stopped : r.phase = .stopped
  · obtain ⟨e, answered⟩ := taken.answered_of_stopped stopped
    rw [if_pos stopped, if_pos stopped, answered, List.dropLast_concat, List.append_nil]
  · rw [if_neg stopped, if_neg stopped]

/-- A turn takes back no change. -/
lemma changes_le_of_turn? {s t : Solo} {turn : Convergence × Move} (h : s.turn? turn = some t) :
    s.changes ≤ t.changes := by
  rw [changes, changes, withinPasses_of_turn? h, List.countP_append]
  exact Nat.le_add_right _ _

/-- A change that is followed by a pass was made within the pass before. -/
lemma changes_of_made {s t : Solo} {turn : Convergence × Move} {call : Call}
    {outcome : Host.ChangeOutcome} (h : s.turn? turn = some t)
    (busy : s.reconciler.phase.call? = some call) (made : turn.2 = .answer (.changed outcome))
    (further : t.reconciler.phase = .querying) : t.changes = s.changes + 1 := by
  have going : t.reconciler.phase ≠ .stopped := by rw [further]; nofun
  have answered := answeredBy_answer (s := s.inside turn.1) rfl busy (.changed outcome)
  rw [changes, changes, withinPasses_of_turn? h, if_neg going, made, answered, List.countP_append]
  rfl

/-- **A pass of a life begins for one of three causes**: it is the first one, the reconciler has
found a write that it had not seen, or there is one more change. -/
lemma cause_of_turn? {s t : Solo} {turn : Convergence × Move} (h : s.turn? turn = some t)
    (begins : t.reconciler.phase = .querying) :
    s.reconciler.phase = .starting ∨
      turn.1.cell.changedSince s.reconciler.seen = true ∧
        t.reconciler.seen = turn.1.cell.writes ∨
      t.changes = s.changes + 1 := by
  have moved := h
  obtain ⟨r, taken, rfl⟩ := cases_of_turn? h
  rcases taken.cause begins with starting | ⟨-, news, all⟩ | ⟨call, outcome, busy, made⟩
  · exact .inl starting
  · exact .inr (.inl ⟨news, all⟩)
  · exact .inr (.inr (changes_of_made moved busy made begins))

/-- A reconciler that rests begins a pass only on a write that it had not seen. -/
lemma news_of_turn? {s t : Solo} {turn : Convergence × Move} (h : s.turn? turn = some t)
    (resting : s.reconciler.phase = .resting) (begins : t.reconciler.phase = .querying) :
    turn.1.cell.writes ≠ s.reconciler.seen := by
  obtain ⟨r, taken, rfl⟩ := cases_of_turn? h
  have place : (s.inside turn.1).reconciler.phase = .resting := resting
  rcases taken.cause begins with starting | ⟨-, news, -⟩ | ⟨call, outcome, busy, -⟩
  · rw [place] at starting
    cases starting
  · have news : turn.1.cell.changedSince s.reconciler.seen = true := news
    simpa [Cell.changedSince] using news
  · rw [place] at busy
    cases busy

/-- After a setback that is not the end, a reconciler rests. -/
lemma resting_of_setback {s t u : Solo} {w : Convergence} {a : Answer} {next : Convergence × Move}
    (failed : s.turn? (w, .answer a) = some t) (setback : a.isSetback = true)
    (h : t.turn? next = some u) : t.reconciler.phase = .resting := by
  obtain ⟨r, taken, rfl⟩ := cases_of_turn? failed
  obtain ⟨q, further, -⟩ := cases_of_turn? h
  rcases taken.rests_of_setback setback with resting | ended
  · exact resting
  · exact absurd (further.not_over.symm.trans ended) nofun

/-- After a turn the writes seen are those seen before or those that there are. -/
lemma seen_of_turn? {s t : Solo} {turn : Convergence × Move} (h : s.turn? turn = some t) :
    t.reconciler.seen = s.reconciler.seen ∨ t.reconciler.seen = turn.1.cell.writes := by
  obtain ⟨r, taken, rfl⟩ := cases_of_turn? h
  exact taken.seen

end Solo

/-! ### Every pass is charged -/

/-- Passes are charged to causes: each pass is paid for by the beginning, by one of the writes that
were seen since there were `first`, or by a change. -/
structure Solo.Charged (first : Nat) (s : Solo) : Prop where
  /-- There are at most as many passes as causes, and one cause to spare before the beginning. -/
  passes : s.passes + first + (if s.reconciler.phase = .starting then 1 else 0) ≤
    1 + s.reconciler.seen + s.changes

/-- **A turn charges the pass that it begins.** -/
lemma Solo.Charged.of_turn {first : Nat} {s t : Solo} {turn : Convergence × Move}
    (charged : s.Charged first) (known : s.reconciler.seen ≤ turn.1.cell.writes)
    (h : s.turn? turn = some t) : t.Charged first := by
  have paid := charged.passes
  have passes := passes_of_turn? h
  have changes := changes_le_of_turn? h
  have begun : t.reconciler.phase ≠ .starting := by
    obtain ⟨r, taken, rfl⟩ := cases_of_turn? h
    exact taken.not_starting
  have seen : s.reconciler.seen ≤ t.reconciler.seen := by
    rcases seen_of_turn? h with same | all <;> omega
  constructor
  rw [if_neg begun]
  by_cases begins : t.reconciler.phase = .querying
  · rw [if_pos begins] at passes
    rcases cause_of_turn? h begins with first | ⟨news, all⟩ | more
    · rw [if_pos first] at paid
      omega
    · have unseen : turn.1.cell.writes ≠ s.reconciler.seen := by
        simpa [Cell.changedSince] using news
      omega
    · omega
  · rw [if_neg begins] at passes
    omega

/-- In every life on one cell, passes are charged, and no writes are seen that were not made. -/
theorem Solo.charged_of_run {cell : Cell Bool} {turns : List (Convergence × Move)} {s : Solo}
    (run : (Solo.new cell).run? turns = some s) {now : Cell Bool}
    (one : Cell.Chronicle (cellsOf cell turns now)) :
    s.Charged cell.writes ∧ s.reconciler.seen ≤ now.writes := by
  revert now
  refine run_induction (P := fun turns s => ∀ {now}, Cell.Chronicle (cellsOf cell turns now) →
    s.Charged cell.writes ∧ s.reconciler.seen ≤ now.writes) ?_ ?_ run
  · intro now one
    refine ⟨⟨?_⟩, Cell.Earlier.writes_le ?_⟩
    · show 0 + cell.writes + 1 ≤ 1 + cell.writes + 0
      omega
    · exact List.pairwise_pair.mp one
  · intro turns s turn t run earlier h now one
    rw [cellsOf_concat] at one
    obtain ⟨before, last⟩ := one.of_concat
    obtain ⟨charged, known⟩ := earlier before
    refine ⟨charged.of_turn known h, Nat.le_trans ?_ last.writes_le⟩
    rcases seen_of_turn? h with same | all
    · exact same ▸ known
    · exact Nat.le_of_eq all

/-! ### What a pass has looked at -/

/-- The turn in which the last pass has looked at the desired state. -/
def lastLook (turns : List (Convergence × Move)) : Option (Convergence × Move) :=
  (turns.filter (·.2.isLook)).getLast?

/-- A look is the last one, and another turn leaves the last one. -/
lemma lastLook_concat (turns : List (Convergence × Move)) (turn : Convergence × Move) :
    lastLook (turns ++ [turn]) = if turn.2.isLook then some turn else lastLook turns := by
  by_cases look : turn.2.isLook = true <;> simp [lastLook, look]

/-- The last look is one of the turns. -/
lemma mem_of_lastLook {turns : List (Convergence × Move)} {look : Convergence × Move}
    (last : lastLook turns = some look) : look ∈ turns :=
  (List.mem_filter.mp (List.mem_of_getLast? last)).1

/-- Once its pass has looked, the reconciler has in sight the cell as it was at the last look. -/
theorem Solo.sight_eq_lastLook {cell : Cell Bool} {turns : List (Convergence × Move)} {s : Solo}
    (run : (Solo.new cell).run? turns = some s) (looked : s.reconciler.phase.hasLooked = true) :
    ∃ look, lastLook turns = some look ∧ s.reconciler.sight = look.1.cell := by
  revert looked
  refine run_induction (P := fun turns s => s.reconciler.phase.hasLooked = true →
    ∃ look, lastLook turns = some look ∧ s.reconciler.sight = look.1.cell) ?_ ?_ run
  · intro looked
    cases looked
  · intro turns s turn t run earlier h looked
    obtain ⟨r, taken, rfl⟩ := cases_of_turn? h
    rw [lastLook_concat]
    cases look : turn.2.isLook with
    | true => exact ⟨turn, if_pos rfl, taken.sight_of_look look⟩
    | false =>
        obtain ⟨before, same⟩ := taken.sight_of_no_look look looked
        obtain ⟨last, isLast, saw⟩ := earlier before
        exact ⟨last, (if_neg nofun).trans isLast, same.trans saw⟩

/-- What is found in one turn of a life on one cell is earlier than what a later one finds. -/
lemma earlier_of_mem {cell now : Cell Bool} {before after : List (Convergence × Move)}
    {turn next : Convergence × Move}
    (one : Cell.Chronicle (cellsOf cell (before ++ next :: after) now)) (mem : turn ∈ before) :
    turn.1.cell.Earlier next.1.cell := by
  have split : cellsOf cell (before ++ next :: after) now =
      (cell :: before.map (·.1.cell)) ++ (next.1.cell :: (after.map (·.1.cell) ++ [now])) := by
    simp [cellsOf]
  rw [split] at one
  exact (List.pairwise_append.mp one).2.2 _ (List.mem_cons_of_mem _ (List.mem_map_of_mem mem)) _
    List.mem_cons_self

/-- After a setback a pass begins only where other writes are found than at the last look. -/
theorem Solo.writes_ne_of_setback {cell : Cell Bool} {turns : List (Convergence × Move)}
    {w : Convergence} {a : Answer} {next : Convergence × Move} {t : Solo}
    (run : (Solo.new cell).run? (turns ++ [(w, .answer a), next]) = some t)
    (setback : a.isSetback = true) (begins : t.reconciler.phase = .querying) :
    ∃ look, lastLook (turns ++ [(w, .answer a)]) = some look ∧
      next.1.cell.writes ≠ look.1.cell.writes := by
  obtain ⟨u, hu, h⟩ := run_concat.mp (show (Solo.new cell).run?
    ((turns ++ [(w, .answer a)]) ++ [next]) = some t by simpa using run)
  obtain ⟨v, -, failed⟩ := run_concat.mp hu
  have resting := resting_of_setback failed setback h
  obtain ⟨look, isLast, saw⟩ := sight_eq_lastLook hu (by rw [resting]; rfl)
  have seen : u.reconciler.seen = look.1.cell.writes := congrArg Cell.writes saw
  exact ⟨look, isLast, seen ▸ news_of_turn? h resting begins⟩

/-! ### No pass without a cause -/

/-- **Every pass has a cause of its own.**  At any moment of a life on one cell, whatever the
answers, there were at most as many passes as one for the beginning, one for each write of the
desired state so far, and one for each change made within a pass.  After a pass with a setback, that
is a question or a change that failed or a claim that was put off, the next pass begins only when
there is a write that came after the look of the one before. -/
theorem passes_have_causes {cell now : Cell Bool} {turns : List (Convergence × Move)} {s : Solo}
    (run : (Solo.new cell).run? turns = some s) (one : Cell.Chronicle (cellsOf cell turns now)) :
    s.passes ≤ 1 + (now.writes - cell.writes) + s.changes ∧
      ∀ before w a next after t, turns = before ++ (w, .answer a) :: next :: after →
        a.isSetback = true → (Solo.new cell).run? (before ++ [(w, .answer a), next]) = some t →
        t.reconciler.phase = .querying →
        ∃ look, lastLook (before ++ [(w, .answer a)]) = some look ∧
          look.1.cell.writes < next.1.cell.writes := by
  constructor
  · obtain ⟨charged, known⟩ := Solo.charged_of_run run one
    have paid := charged.passes
    omega
  · intro before w a next after t split setback run begins
    obtain ⟨look, isLast, other⟩ := Solo.writes_ne_of_setback run setback begins
    refine ⟨look, isLast, Nat.lt_of_le_of_ne ?_ (Ne.symm other)⟩
    have split : turns = (before ++ [(w, .answer a)]) ++ next :: after := by simp [split]
    rw [split] at one
    exact (earlier_of_mem one (mem_of_lastLook isLast)).writes_le

/-- A life in which a first question fails, and the address is claimed on the only write. -/
def failsThenClaims : List (Convergence × Move) :=
  [(finds false false 0, .begin), (finds false false 0, .answer (.queryFailed .injected)),
    (finds false true 1, .wake), (finds false true 1, .answer (.present false)),
    (finds false true 1, .answer (.duplicate false)),
    (finds false true 1, .answer (.changed .applied)), (finds false true 1, .answer (.present true))]

/-- This life has three passes: one for its beginning, one for the write, and one for the change. -/
theorem passes_have_causes_failsThenClaims :
    ∃ s t, (Solo.new (Cell.new false)).run? failsThenClaims = some s ∧
      Cell.Chronicle (cellsOf (Cell.new false) failsThenClaims ⟨true, 1⟩) ∧
      s.passes = 3 ∧ s.changes = 1 ∧ s.passes ≤ 1 + (1 - 0) + s.changes ∧
      (Solo.new (Cell.new false)).run? (failsThenClaims.take 3) = some t ∧
      t.reconciler.phase = .querying ∧
      ∃ look, lastLook (failsThenClaims.take 2) = some look ∧ look.1.cell.writes < 1 := by
  have one : Cell.Chronicle (cellsOf (Cell.new false) failsThenClaims ⟨true, 1⟩) := by
    simp [Cell.Chronicle, cellsOf, failsThenClaims, Cell.Earlier, finds, Cell.new]
  have causes := @passes_have_causes (Cell.new false) ⟨true, 1⟩ failsThenClaims _ rfl one
  have next := causes.2 (failsThenClaims.take 1) _ _ _ (failsThenClaims.drop 3) _ rfl rfl rfl rfl
  exact ⟨_, _, rfl, one, rfl, rfl, causes.1, rfl, rfl, next⟩

end FloatingIp.Convergence
