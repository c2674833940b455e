import FloatingIp.Proofs.Convergence.Closing
import FloatingIp.Proofs.Convergence.Sight

/-!
# The calls of a reconciler from its beginning to its end

The calls that a reconciler makes in all its life are passes one after another and then one release.
A pass begins with the question whether the address is there, and what else it may call is decided by
the answer and by the desired state at that moment: `Pass` lists the five kinds of them.  So nothing
is changed on an answer from an earlier pass, nothing after a question that failed, and the address
is added only right after it was found absent and free (`calls_are_passes`).

The law is about the reconciler alone.  `Solo` lets it take its turns in surroundings that may have
become anything in between: the desired state may have been written by anybody, the work called off
or not, the coordinator gone.  Every run with a coordinator is one of these lives
(`exists_solo_run`).

The loop has several ways out of a pass, back to the next one at once or to a rest, and the law has to
survive them all.  `UnderWay` says what a pass has called so far by the phase alone, and a turn
either takes the pass one call further or completes it (`Turn.advances`).
-/

namespace FloatingIp.Convergence

/-! ### A reconciler alone -/

/-- A call that has been answered, with the desired state as it was at that moment. -/
structure Answered where
  /-- Which call. -/
  call : Call
  /-- Its answer. -/
  answer : Answer
  /-- The desired state when the answer came. -/
  desired : Bool
  deriving DecidableEq

/-- The calls that a move answers: one for an answer, none else. -/
def answeredBy (s : Convergence) (m : Move) : List Answered :=
  (s.endedBy m).map fun c => ⟨c.call, c.answer, s.cell.value⟩

/-- A reconciler, and the calls that have been answered to it, in order. -/
structure Solo where
  /-- The reconciler. -/
  reconciler : Reconciler
  /-- The calls that have been answered, in order. -/
  answered : List Answered
  deriving DecidableEq

namespace Solo

/-- A reconciler that has not begun and knows the desired state as it is. -/
def new (cell : Cell Bool) : Solo :=
  ⟨Reconciler.new cell, []⟩

/-- What a reconciler takes its turns in: a state with any other reconciler in its place. -/
def inside (s : Solo) (surroundings : Convergence) : Convergence :=
  { surroundings with reconciler := s.reconciler }

/-- Takes a turn in the surroundings as they are by then, if it can be taken. -/
def turn? (s : Solo) (turn : Convergence × Move) : Option Solo :=
  if turn.2.isTurn then
    ((s.inside turn.1).move? turn.2).map fun t =>
      ⟨t.reconciler, s.answered ++ (s.inside turn.1).answeredBy turn.2⟩
  else none

/-- Takes turns one after another, if they can all be taken. -/
def run? (s : Solo) (turns : List (Convergence × Move)) : Option Solo :=
  turns.foldlM turn? s

/-- A turn of a reconciler alone is one of the turns that a reconciler can take. -/
lemma cases_of_turn? {s t : Solo} {turn : Convergence × Move} (h : s.turn? turn = some t) :
    ∃ r, Turn (s.inside turn.1) turn.2 r ∧
      t = ⟨r, s.answered ++ (s.inside turn.1).answeredBy turn.2⟩ := by
  rw [turn?, Option.ite_none_right_eq_some] at h
  obtain ⟨isTurn, h⟩ := h
  obtain ⟨u, moved, rfl⟩ := Option.map_eq_some_iff.mp h
  rcases move?_cases moved with ⟨r, taken, rfl⟩ | aside
  · exact ⟨r, taken, rfl⟩
  · rw [aside.isTurn] at isTurn
    cases isTurn

end Solo

/-! ### Passes -/

/-- The calls of a pass.  The desired state when the question is answered is the snapshot of the
pass; what is desired when later calls are answered makes no difference. -/
inductive Pass : List Answered → Prop where
  /-- The question could not be answered. -/
  | unknown (fault : AddressFault) (snapshot : Bool) :
      Pass [⟨.query, .queryFailed fault, snapshot⟩]
  /-- The address is as desired. -/
  | agreed (snapshot : Bool) : Pass [⟨.query, .present snapshot, snapshot⟩]
  /-- The address is there and not desired. -/
  | withdrawn (a : Answer) (change : a.isOfChange = true) (later : Bool) :
      Pass [⟨.query, .present true, false⟩, ⟨.deconfigure, a, later⟩]
  /-- The address is desired and not there, and another host has it. -/
  | deferred (later : Bool) :
      Pass [⟨.query, .present false, true⟩, ⟨.probe, .duplicate true, later⟩]
  /-- The address is desired, not there and free. -/
  | claimed (probed : Bool) (a : Answer) (change : a.isOfChange = true) (later : Bool) :
      Pass [⟨.query, .present false, true⟩, ⟨.probe, .duplicate false, probed⟩,
        ⟨.configure, a, later⟩]

/-- What has been called since the last pass was complete. -/
inductive UnderWay : Phase → List Answered → Prop where
  | starting : UnderWay .starting []
  | resting : UnderWay .resting []
  | querying : UnderWay .querying []
  | withdrawing : UnderWay .withdrawing [⟨.query, .present true, false⟩]
  | probing : UnderWay .probing [⟨.query, .present false, true⟩]
  | claiming (probed : Bool) :
      UnderWay .claiming [⟨.query, .present false, true⟩, ⟨.probe, .duplicate false, probed⟩]
  | releasing : UnderWay .releasing []
  | stopped (a : Answer) (change : a.isOfChange = true) (later : Bool) :
      UnderWay .stopped [⟨.deconfigure, a, later⟩]

/-- A reconciler that goes on to its next pass, or to the release, has called nothing for it yet. -/
lemma UnderWay.nextPass (r : Reconciler) (cancelled : Bool) :
    UnderWay (r.nextPass cancelled).phase [] := by
  cases cancelled with
  | false => exact .querying
  | true => exact .releasing

/-- An answer adds the call of the phase that the reconciler is in. -/
lemma answeredBy_answer {s : Convergence} {p : Phase} {call : Call}
    (phase : s.reconciler.phase = p) (busy : p.call? = some call) (a : Answer) :
    s.answeredBy (.answer a) = [⟨call, a, s.cell.value⟩] := by
  rw [answeredBy, endedBy_answer (by rw [phase, busy])]
  rfl

/-- **A turn takes the pass one call further or completes it.** -/
lemma Turn.advances {s : Convergence} {m : Move} {r : Reconciler} (turn : Turn s m r)
    (whole : m ≠ .answer .broke) {current : List Answered}
    (underWay : UnderWay s.reconciler.phase current) :
    UnderWay r.phase (current ++ s.answeredBy m) ∨
      Pass (current ++ s.answeredBy m) ∧ UnderWay r.phase [] := by
  have within {p : Phase} (phase : s.reconciler.phase = p) : UnderWay p current :=
    phase ▸ underWay
  cases turn with
  | begin starting =>
      cases within starting
      exact .inl (.nextPass _ _)
  | release resting _ =>
      cases within resting
      exact .inl .releasing
  | again resting _ _ =>
      cases within resting
      exact .inl .querying
  | agree querying actual same =>
      cases within querying
      rw [answeredBy_answer querying rfl, same]
      exact .inr ⟨.agreed _, .resting⟩
  | probe querying desired =>
      cases within querying
      rw [answeredBy_answer querying rfl, desired]
      exact .inl .probing
  | withdraw querying undesired =>
      cases within querying
      rw [answeredBy_answer querying rfl, undesired]
      exact .inl .withdrawing
  | unknown querying fault =>
      cases within querying
      rw [answeredBy_answer querying rfl]
      exact .inr ⟨.unknown fault _, .resting⟩
  | defer probing =>
      cases within probing
      rw [answeredBy_answer probing rfl]
      exact .inr ⟨.deferred _, .resting⟩
  | claim probing =>
      cases within probing
      rw [answeredBy_answer probing rfl]
      exact .inl (.claiming _)
  | claimed claiming outcome =>
      cases within claiming
      rw [answeredBy_answer claiming rfl]
      exact .inr ⟨.claimed _ _ rfl _, .nextPass _ _⟩
  | claimFailed claiming fault =>
      cases within claiming
      rw [answeredBy_answer claiming rfl]
      exact .inr ⟨.claimed _ _ rfl _, .resting⟩
  | withdrawn withdrawing outcome =>
      cases within withdrawing
      rw [answeredBy_answer withdrawing rfl]
      exact .inr ⟨.withdrawn _ rfl _, .nextPass _ _⟩
  | withdrawFailed withdrawing fault =>
      cases within withdrawing
      rw [answeredBy_answer withdrawing rfl]
      exact .inr ⟨.withdrawn _ rfl _, .resting⟩
  | released releasing outcome =>
      cases within releasing
      rw [answeredBy_answer releasing rfl]
      exact .inl (.stopped _ rfl _)
  | releaseFailed releasing fault =>
      cases within releasing
      rw [answeredBy_answer releasing rfl]
      exact .inl (.stopped _ rfl _)
  | broke _ _ => exact absurd rfl whole

/-! ### From the beginning to the end -/

/-- The calls answered so far are complete passes and what is under way. -/
def Solo.Orderly (s : Solo) : Prop :=
  ∃ (passes : List (List Answered)) (current : List Answered), (∀ p ∈ passes, Pass p) ∧
    UnderWay s.reconciler.phase current ∧ s.answered = passes.flatten ++ current

/-- A turn keeps the calls in order. -/
lemma Solo.Orderly.of_turn {s t : Solo} {turn : Convergence × Move} (orderly : s.Orderly)
    (whole : turn.2 ≠ .answer .broke) (h : s.turn? turn = some t) : t.Orderly := by
  obtain ⟨r, taken, rfl⟩ := cases_of_turn? h
  obtain ⟨passes, current, complete, underWay, same⟩ := orderly
  rcases taken.advances whole underWay with further | ⟨pass, next⟩
  · exact ⟨passes, _, complete, further, by rw [same, List.append_assoc]⟩
  · refine ⟨passes ++ [current ++ (s.inside turn.1).answeredBy turn.2], [], ?_, next, ?_⟩
    · exact List.forall_mem_append.mpr ⟨complete, List.forall_mem_singleton.mpr pass⟩
    · show s.answered ++ _ = _
      rw [same]
      simp

/-- In every life without a breakdown the calls are in order. -/
theorem orderly_of_run {cell : Cell Bool} {turns : List (Convergence × Move)} {s : Solo}
    (run : (Solo.new cell).run? turns = some s) (whole : ∀ turn ∈ turns, turn.2 ≠ .answer .broke) :
    s.Orderly :=
  of_run_among (P := Solo.Orderly) (K := fun turn => turn.2 ≠ .answer .broke)
    (fun orderly whole h => orderly.of_turn whole h)
    ⟨[], [], List.forall_mem_nil _, .starting, rfl⟩ run whole

/-! ### What comes before a change -/

/-- What comes directly before a change within a pass: the address was found absent where it was
desired, and then free, before it is added, and found present where it was not desired before it is
removed. -/
def Justified (before : List Answered) : Call → Prop
  | .configure => ∃ earlier probed,
      before = earlier ++ [⟨.query, .present false, true⟩, ⟨.probe, .duplicate false, probed⟩]
  | .deconfigure => ∃ earlier, before = earlier ++ [⟨.query, .present true, false⟩]
  | _ => True

/-- What justifies a change justifies it after anything. -/
lemma Justified.append {before : List Answered} {call : Call} (justified : Justified before call)
    (earlier : List Answered) : Justified (earlier ++ before) call := by
  cases call with
  | configure =>
      obtain ⟨between, probed, rfl⟩ := justified
      exact ⟨earlier ++ between, probed, by simp⟩
  | deconfigure =>
      obtain ⟨between, rfl⟩ := justified
      exact ⟨earlier ++ between, by simp⟩
  | _ => trivial

/-- Every change of a pass is justified. -/
lemma Pass.justified {p before after : List Answered} {e : Answered} (pass : Pass p)
    (split : p = before ++ e :: after) : Justified before e.call := by
  have place : p[before.length]? = some e ∧ p.take before.length = before := by simp [split]
  obtain ⟨here, earlier⟩ := place
  rw [← earlier]
  generalize before.length = n at here
  cases pass with
  | unknown fault snapshot =>
      match n, here with
      | 0, rfl => trivial
  | agreed snapshot =>
      match n, here with
      | 0, rfl => trivial
  | withdrawn a change later =>
      match n, here with
      | 0, rfl => trivial
      | 1, rfl => exact ⟨[], rfl⟩
  | deferred later =>
      match n, here with
      | 0, rfl => trivial
      | 1, rfl => trivial
  | claimed probed a change later =>
      match n, here with
      | 0, rfl => trivial
      | 1, rfl => trivial
      | 2, rfl => exact ⟨[], probed, rfl⟩

/-- Every change of passes one after another is justified. -/
lemma justified_of_passes {passes : List (List Answered)} (complete : ∀ p ∈ passes, Pass p)
    {before after : List Answered} {e : Answered} (split : passes.flatten = before ++ e :: after) :
    Justified before e.call := by
  induction passes generalizing before with
  | nil => simp at split
  | cons p passes ih =>
      rw [List.forall_mem_cons] at complete
      obtain ⟨pass, others⟩ := complete
      rw [List.flatten_cons, List.append_eq_append_iff] at split
      rcases split with ⟨between, rfl, later⟩ | ⟨rest, whole, later⟩
      · exact (ih others later).append p
      · cases rest with
        | nil =>
            have next : passes.flatten = [] ++ e :: after := by simpa using later.symm
            simpa [whole] using (ih others next).append p
        | cons first rest =>
            cases later
            exact pass.justified whole

/-! ### Every life is passes and a release -/

/-- **Every change rests on a question of its own pass.**  In a life that ends, in any surroundings
and with any answers but a breakdown, the calls are passes one after another and then one removal of
the address.  Every change before that last one comes directly after the answers that justify it:
the address is added only after it was found absent and free in the same pass, and removed only after
it was found present, with the snapshot of the pass to match. -/
theorem calls_are_passes {cell : Cell Bool} {turns : List (Convergence × Move)} {s : Solo}
    (run : (Solo.new cell).run? turns = some s) (whole : ∀ turn ∈ turns, turn.2 ≠ .answer .broke)
    (ended : s.reconciler.phase = .stopped) :
    (∃ (passes : List (List Answered)) (a : Answer) (later : Bool), (∀ p ∈ passes, Pass p) ∧
        a.isOfChange = true ∧ s.answered = passes.flatten ++ [⟨.deconfigure, a, later⟩]) ∧
      ∀ before e after, s.answered = before ++ e :: after → after ≠ [] →
        Justified before e.call := by
  obtain ⟨passes, current, complete, underWay, same⟩ := orderly_of_run run whole
  rw [ended] at underWay
  cases underWay with
  | stopped a change later =>
      refine ⟨⟨passes, a, later, complete, change, same⟩, fun before e after split more => ?_⟩
      rw [← List.dropLast_concat_getLast more] at split
      rw [same, ← List.cons_append, ← List.append_assoc] at split
      exact justified_of_passes complete (List.append_inj' split rfl).1

/-- What a reconciler finds around it: whether the work is called off, and the desired state after
so many writes. -/
def finds (cancelled desired : Bool) (writes : Nat) : Convergence :=
  { Convergence.new 10000 with cancelled, cell := ⟨desired, writes⟩ }

/-- A life in which the address is claimed after a failed question and a deferral, and the desire for
it is lost during the addition. -/
def claimsAtLast : List (Convergence × Move) :=
  [(finds false true 1, .begin), (finds false true 1, .answer (.queryFailed .injected)),
    (finds false true 2, .wake), (finds false true 2, .answer (.present false)),
    (finds false true 2, .answer (.duplicate true)),
    (finds false true 3, .wake), (finds false true 3, .answer (.present false)),
    (finds false true 3, .answer (.duplicate false)),
    (finds false false 4, .answer (.changed .applied)),
    (finds false false 4, .answer (.present true)), (finds true false 5, .answer (.changed .applied)),
    (finds true false 5, .answer (.changeFailed .injected))]

/-- The calls of this life are four passes and a release. -/
theorem calls_are_passes_claimsAtLast :
    ∃ s, (Solo.new (Cell.new false)).run? claimsAtLast = some s ∧
      s.reconciler.phase = .stopped ∧ s.answered.length = 9 ∧
      (∃ (passes : List (List Answered)) (a : Answer) (later : Bool), (∀ p ∈ passes, Pass p) ∧
        a.isOfChange = true ∧ s.answered = passes.flatten ++ [⟨.deconfigure, a, later⟩]) ∧
      ∀ before e after, s.answered = before ++ e :: after → after ≠ [] →
        Justified before e.call := by
  have passes := @calls_are_passes (Cell.new false) claimsAtLast _ rfl (by decide) rfl
  exact ⟨_, rfl, rfl, rfl, passes⟩

/-! ### Runs with a coordinator -/

/-- The cell in a life: at its beginning, in each of its turns, and at the moment `now`. -/
def cellsOf (cell : Cell Bool) (turns : List (Convergence × Move)) (now : Cell Bool) :
    List (Cell Bool) :=
  cell :: turns.map (·.1.cell) ++ [now]

/-- A further turn finds the cell at the time up to which the life was followed. -/
lemma cellsOf_concat (cell now : Cell Bool) (turns : List (Convergence × Move))
    (turn : Convergence × Move) :
    cellsOf cell (turns ++ [turn]) now = cellsOf cell turns turn.1.cell ++ [now] := by
  simp [cellsOf]

/-- **Every run with a coordinator shows such a life**, with the same calls and answers, and with one
cell that the coordinator writes. -/
theorem exists_solo_run {recheck : Nat} {moves : List Move} {s : Convergence}
    (run : (Convergence.new recheck).run? moves = some s) :
    ∃ turns t, (Solo.new (Cell.new false)).run? turns = some t ∧ t.reconciler = s.reconciler ∧
      t.answered.map (fun e => (e.call, e.answer)) =
        s.calls.reverse.map (fun c => (c.call, c.answer)) ∧
      Cell.Chronicle (cellsOf (Cell.new false) turns s.cell) := by
  refine run_induction (P := fun _ s => ∃ turns t,
    (Solo.new (Cell.new false)).run? turns = some t ∧ t.reconciler = s.reconciler ∧
      t.answered.map (fun e => (e.call, e.answer)) =
        s.calls.reverse.map (fun c => (c.call, c.answer)) ∧
      Cell.Chronicle (cellsOf (Cell.new false) turns s.cell)) ⟨[], _, rfl, rfl, rfl, ?_⟩ ?_ run
  · exact List.pairwise_pair.mpr (.refl _)
  rintro - s m u - ⟨turns, t, life, same, calls, one⟩ h
  rcases move?_cases h with ⟨r, turn, rfl⟩ | aside
  · have inside : t.inside s = s := by
      rw [Solo.inside, same]
    have taken : t.turn? (s, m) = some ⟨r, t.answered ++ s.answeredBy m⟩ := by
      rw [Solo.turn?, inside, if_pos turn.isTurn, h]
      rfl
    refine ⟨turns ++ [(s, m)], _, run_concat.mpr ⟨t, life, taken⟩, rfl, ?_, ?_⟩
    · have ended : (s.answeredBy m).map (fun e => (e.call, e.answer)) =
          (s.endedBy m).reverse.map fun c => (c.call, c.answer) := by
        unfold answeredBy
        rcases turn.free_or_answered with ⟨-, none⟩ | ⟨call, a, busy, rfl⟩
        · rw [none]
          rfl
        · rw [endedBy_answer busy]
          rfl
      rw [List.map_append, calls, ended, ← List.map_append, ← List.reverse_append]
      rfl
    · rw [cellsOf_concat]
      exact one.concat (.refl _)
  · refine ⟨turns, t, life, ?_, ?_, one.later aside.cell_earlier⟩
    · rw [same, aside.reconciler]
    · rw [calls, aside.calls]

end FloatingIp.Convergence
