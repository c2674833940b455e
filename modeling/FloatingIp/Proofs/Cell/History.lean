import FloatingIp.Cell.Session
import Mathlib.Data.List.Basic
import Mathlib.Data.List.Induction
import Mathlib.Data.List.TakeWhile
import Mathlib.Tactic.Lemma

/-!
# Answers and the history of a session

A session keeps a count of writes, and for each subscriber the count that it has seen.  What it
answers can be told without them, from the steps that were made (`answers_tell_history`): the desired
state is what was published last, and a subscriber is due to look again if a recheck or a change came
after its last look, even if the value is again the one that it saw.  Rechecks wake subscribers and
have no other effect, so they can be moved or left out.

`Agrees` ties a session to its history, and every step keeps it.  The counts are compared in one
place only: a count that was seen is behind exactly if there was something to wake for since.
-/

namespace FloatingIp.Cell.Session

/-! ### What a history tells -/

/-- The session after some steps. -/
def after (s : Session) (steps : List Step) : Session :=
  steps.foldl (fun s op => (s.step op).1) s

/-- What a step publishes. -/
def published? : Step → Option Bool
  | .publish leader => some leader
  | _ => none

/-- The steps that were made while the cell was held. -/
def owned (history : List Step) : List Step :=
  history.takeWhile (· ≠ .drop)

/-- What was published last while the cell was held; nobody leads before. -/
def lastPublished (history : List Step) : Bool :=
  ((owned history).filterMap published?).getLast?.getD false

/-- A step that wakes subscribers: a recheck, or the publishing of a change. -/
inductive Wakes (history : List Step) : Step → Prop where
  | recheck : Wakes history .recheck
  | publish {leader : Bool} (change : leader ≠ lastPublished history) :
      Wakes history (.publish leader)

/-- There was something to wake for after a part of the history. -/
def Stirred (past since : List Step) : Prop :=
  ∃ early op late, since = early ++ op :: late ∧ Wakes (past ++ early) op

/-- The part of a history up to a subscriber's last look, by which it subscribed or took the value,
and the part since. -/
structure Looked (id : String) (history past since : List Step) : Prop where
  /-- These are the parts. -/
  split : history = past ++ since
  /-- The first one ends with a look. -/
  look : past.getLast? = some (.subscribe id) ∨
    past.getLast? = some (.take id) ∧ .subscribe id ∈ past
  /-- It is the last look. -/
  last : .subscribe id ∉ since ∧ .take id ∉ since

/-- The answer to a step, as the history before it tells. -/
inductive Told (history : List Step) : Step → Answer → Prop where
  /-- Publishing says whether it changes what was published last. -/
  | publish (held : .drop ∉ history) (leader : Bool) :
      Told history (.publish leader) (.flag (leader != lastPublished history))
  | recheck (held : .drop ∉ history) : Told history .recheck .nothing
  /-- The desired state is what was published last. -/
  | desired (held : .drop ∉ history) : Told history .desired (.flag (lastPublished history))
  | subscribe (held : .drop ∉ history) (id : String) : Told history (.subscribe id) .nothing
  /-- A subscriber is due to look again if there was something to wake for since its last look. -/
  | changed (held : .drop ∉ history) {id : String} {past since : List Step} {due : Bool}
      (looked : Looked id history past since) (stirred : due = true ↔ Stirred past since) :
      Told history (.changed id) (.flag due)
  /-- A subscriber sees what was published last, also after the drop. -/
  | peek {id : String} (subscribed : .subscribe id ∈ owned history) :
      Told history (.peek id) (.flag (lastPublished history))
  | take {id : String} (subscribed : .subscribe id ∈ owned history) :
      Told history (.take id) (.flag (lastPublished history))
  /-- After the drop a subscriber learns that the cell is closed. -/
  | closed (dropped : .drop ∈ history) {id : String} (subscribed : .subscribe id ∈ owned history) :
      Told history (.changed id) .closed
  | unsubscribed {id : String} (stranger : .subscribe id ∉ owned history) :
      Told history (.changed id) .unknown
  | peekNothing {id : String} (stranger : .subscribe id ∉ owned history) :
      Told history (.peek id) .nothing
  | takeNothing {id : String} (stranger : .subscribe id ∉ owned history) :
      Told history (.take id) .nothing
  | drop : Told history .drop .nothing
  /-- After the drop the owner can do nothing more. -/
  | dropped (dropped : .drop ∈ history) {op : Step}
      (owner : op = .recheck ∨ op = .desired ∨ (∃ leader, op = .publish leader) ∨
        ∃ id, op = .subscribe id) : Told history op .unknown

/-! ### Longer histories -/

/-- The last step is made after the others. -/
lemma after_concat (s : Session) (steps : List Step) (op : Step) :
    s.after (steps ++ [op]) = ((s.after steps).step op).1 := by
  unfold after
  rw [List.foldl_append]
  rfl

/-- While the cell is held all steps count. -/
lemma owned_eq_self {history : List Step} (held : .drop ∉ history) : owned history = history := by
  apply List.takeWhile_eq_self_iff.mpr
  intro op mem
  simpa using fun same : op = .drop => held (same ▸ mem)

/-- From the drop on no step counts. -/
lemma owned_append_drop (history more : List Step) :
    owned (history ++ .drop :: more) = owned history := by
  induction history with
  | nil => rfl
  | cons op history ih =>
      unfold owned at ih ⊢
      rw [List.cons_append, List.takeWhile_cons, List.takeWhile_cons, ih]

/-- A further step after the drop does not count, nor does the drop itself. -/
lemma owned_concat {history : List Step} {op : Step} (dropped : .drop ∈ history ∨ op = .drop) :
    owned (history ++ [op]) = owned history := by
  rcases dropped with before | rfl
  · obtain ⟨early, late, rfl⟩ := List.append_of_mem before
    rw [List.append_assoc, List.cons_append, owned_append_drop, owned_append_drop]
  · exact owned_append_drop history []

/-- While the cell is held a further step counts. -/
lemma owned_concat_of_held {history : List Step} {op : Step} (held : .drop ∉ history)
    (other : op ≠ .drop) : owned (history ++ [op]) = history ++ [op] := by
  apply owned_eq_self
  simp [held, other.symm]

/-- What is published is published last. -/
lemma lastPublished_publish {history : List Step} (held : .drop ∉ history) (leader : Bool) :
    lastPublished (history ++ [.publish leader]) = leader := by
  unfold lastPublished
  rw [owned_concat_of_held held (nofun : Step.publish leader ≠ .drop), List.filterMap_append]
  simp [published?]

/-- A further step that publishes nothing leaves what was published last. -/
lemma lastPublished_concat {history : List Step} {op : Step}
    (quiet : .drop ∈ history ∨ published? op = none) :
    lastPublished (history ++ [op]) = lastPublished history := by
  unfold lastPublished
  by_cases dropped : .drop ∈ history ∨ op = .drop
  · rw [owned_concat dropped]
  · rw [not_or] at dropped
    rw [owned_concat_of_held dropped.1 dropped.2, owned_eq_self dropped.1, List.filterMap_append]
    simp [quiet.resolve_left dropped.1]

/-- Nothing stirs where nothing happens. -/
lemma not_stirred_nil (past : List Step) : ¬Stirred past [] := by
  rintro ⟨early, op, late, split, -⟩
  cases early <;> cases split

/-- A further step stirs if it wakes. -/
lemma stirred_concat {past since : List Step} {op : Step} :
    Stirred past (since ++ [op]) ↔ Stirred past since ∨ Wakes (past ++ since) op := by
  constructor
  · rintro ⟨early, waker, late, split, wakes⟩
    rcases List.eq_nil_or_concat' late with rfl | ⟨late, last, rfl⟩
    · obtain ⟨rfl, same⟩ := List.append_inj' split rfl
      cases same
      exact .inr wakes
    · rw [← List.cons_append, ← List.append_assoc] at split
      obtain ⟨rfl, -⟩ := List.append_inj' split rfl
      exact .inl ⟨early, waker, late, rfl, wakes⟩
  · rintro (⟨early, waker, late, rfl, wakes⟩ | wakes)
    · exact ⟨early, waker, late ++ [op], by simp, wakes⟩
    · exact ⟨since, op, [], rfl, wakes⟩

/-- A look is the last one when it is made. -/
lemma looked_of_look {id : String} {history : List Step} {op : Step}
    (look : op = .subscribe id ∨ op = .take id ∧ .subscribe id ∈ history) :
    Looked id (history ++ [op]) (history ++ [op]) [] := by
  refine ⟨(List.append_nil _).symm, ?_, List.not_mem_nil, List.not_mem_nil⟩
  rw [List.getLast?_concat]
  rcases look with rfl | ⟨rfl, subscribed⟩
  · exact .inl rfl
  · exact .inr ⟨rfl, List.mem_append_left _ subscribed⟩

/-- A look stays the last one as long as there is no other. -/
lemma Looked.concat {id : String} {history past since : List Step} {op : Step}
    (looked : Looked id history past since) (other : op ≠ .subscribe id ∧ op ≠ .take id) :
    Looked id (history ++ [op]) past (since ++ [op]) := by
  refine ⟨by rw [looked.split, List.append_assoc], looked.look, ?_, ?_⟩
  · simp [looked.last.1, other.1.symm]
  · simp [looked.last.2, other.2.symm]

/-- There is one last look. -/
lemma Looked.unique {id : String} {history past since past' since' : List Step}
    (looked : Looked id history past since) (other : Looked id history past' since') :
    past = past' ∧ since = since' := by
  -- a longer past would end with a look that is none of what came since
  have longer {p s p' s' m : List Step} (first : Looked id history p s)
      (second : Looked id history p' s') (more : p' = p ++ m) (rest : s = m ++ s') : m = [] := by
    rcases List.eq_nil_or_concat' m with none | ⟨m, op, rfl⟩
    · exact none
    · have look := second.look
      have last := first.last
      rw [more, ← List.append_assoc, List.getLast?_concat] at look
      rw [rest] at last
      rcases look with same | ⟨same, -⟩
      · cases same
        exact absurd last.1 (by simp)
      · cases same
        exact absurd last.2 (by simp)
  rcases List.append_eq_append_iff.mp (looked.split.symm.trans other.split) with
    ⟨m, more, rest⟩ | ⟨m, more, rest⟩
  · have none := longer looked other more rest
    subst none
    exact ⟨by rw [more, List.append_nil], rest⟩
  · have none := longer other looked more rest
    subst none
    exact ⟨by rw [more, List.append_nil], rest.symm⟩

/-- Who has looked has subscribed. -/
lemma Looked.subscribed {id : String} {history past since : List Step}
    (looked : Looked id history past since) : .subscribe id ∈ history := by
  rw [looked.split]
  apply List.mem_append_left
  rcases looked.look with last | ⟨-, before⟩
  · exact List.mem_of_getLast? last
  · exact before

/-- A history tells one answer. -/
lemma Told.unique {history : List Step} {op : Step} {answer answer' : Answer}
    (told : Told history op answer) (other : Told history op answer') : answer = answer' := by
  cases told with
  | publish held leader =>
      cases other with
      | publish => rfl
      | dropped gone _ => exact absurd gone held
  | recheck held =>
      cases other with
      | recheck => rfl
      | dropped gone _ => exact absurd gone held
  | desired held =>
      cases other with
      | desired => rfl
      | dropped gone _ => exact absurd gone held
  | subscribe held id =>
      cases other with
      | subscribe => rfl
      | dropped gone _ => exact absurd gone held
  | changed held looked stirred =>
      cases other with
      | changed _ looked' stirred' =>
          obtain ⟨rfl, rfl⟩ := looked.unique looked'
          rw [Bool.eq_iff_iff.mpr (stirred.trans stirred'.symm)]
      | closed gone _ => exact absurd gone held
      | unsubscribed stranger =>
          rw [owned_eq_self held] at stranger
          exact absurd looked.subscribed stranger
      | dropped gone _ => exact absurd gone held
  | closed gone subscribed =>
      cases other with
      | changed held _ _ => exact absurd gone held
      | closed => rfl
      | unsubscribed stranger => exact absurd subscribed stranger
      | dropped _ owner => simp at owner
  | unsubscribed stranger =>
      cases other with
      | changed held looked _ =>
          rw [owned_eq_self held] at stranger
          exact absurd looked.subscribed stranger
      | closed _ subscribed => exact absurd subscribed stranger
      | unsubscribed => rfl
      | dropped => rfl
  | peek subscribed =>
      cases other with
      | peek => rfl
      | peekNothing stranger => exact absurd subscribed stranger
      | dropped _ owner => simp at owner
  | take subscribed =>
      cases other with
      | take => rfl
      | takeNothing stranger => exact absurd subscribed stranger
      | dropped _ owner => simp at owner
  | peekNothing stranger =>
      cases other with
      | peek subscribed => exact absurd subscribed stranger
      | peekNothing => rfl
      | dropped _ owner => simp at owner
  | takeNothing stranger =>
      cases other with
      | take subscribed => exact absurd subscribed stranger
      | takeNothing => rfl
      | dropped _ owner => simp at owner
  | drop =>
      cases other with
      | drop => rfl
      | dropped _ owner => simp at owner
  | dropped gone owner =>
      cases other with
      | publish held _ => exact absurd gone held
      | recheck held => exact absurd gone held
      | desired held => exact absurd gone held
      | subscribe held _ => exact absurd gone held
      | unsubscribed => rfl
      | dropped => rfl
      | _ => simp at owner

/-! ### What a step does -/

/-- All that a step can do to a session. -/
inductive Effect (s : Session) : Step → Session → Prop where
  /-- A change is published. -/
  | change {leader : Bool} (held : s.held = true) (other : s.cell.value ≠ leader) :
      Effect s (.publish leader) { s with cell := s.cell.write leader }
  /-- What was published before is published again. -/
  | same (held : s.held = true) : Effect s (.publish s.cell.value) s
  /-- Subscribers are woken. -/
  | wake (held : s.held = true) : Effect s .recheck { s with cell := s.cell.touch }
  /-- A subscriber comes. -/
  | join (held : s.held = true) (id : String) : Effect s (.subscribe id) (s.mark id)
  /-- A subscriber takes the value. -/
  | look {id : String} (known : s.subscribed id = true) : Effect s (.take id) (s.mark id)
  /-- Somebody looks and leaves no mark. -/
  | peek {op : Step} (quiet : op = .desired ∨ (∃ id, op = .changed id) ∨ (∃ id, op = .peek id) ∨
      ∃ id, op = .take id ∧ s.subscribed id = false) : Effect s op s
  /-- The owner, who has dropped the cell, does nothing. -/
  | late (dropped : s.held = false) {op : Step} (owner : op = .recheck ∨
      (∃ leader, op = .publish leader) ∨ ∃ id, op = .subscribe id) : Effect s op s
  /-- The cell is dropped. -/
  | drop : Effect s .drop { s with held := false }

/-- Asking whether there is anything new changes nothing. -/
lemma step_changed (s : Session) (id : String) : (s.step (.changed id)).1 = s := by
  unfold step
  dsimp only
  split <;> rfl

/-- **Every step does one of these things.** -/
theorem effect_step (s : Session) (op : Step) : Effect s op (s.step op).1 := by
  cases op with
  | publish leader =>
      have done : (s.step (.publish leader)).1 =
          if s.held then { s with cell := (s.cell.publish leader).2 } else s := by
        unfold step
        dsimp only
        split <;> rfl
      rw [done]
      split
      · rename_i held
        by_cases same : s.cell.value = leader
        · subst same
          rw [publish, if_pos rfl]
          exact .same held
        · rw [publish, if_neg same]
          exact .change held same
      · rename_i dropped
        exact .late (by simpa using dropped) (.inr (.inl ⟨leader, rfl⟩))
  | recheck =>
      have done : (s.step .recheck).1 = if s.held then { s with cell := s.cell.touch } else s := by
        unfold step
        dsimp only
        split <;> rfl
      rw [done]
      split
      · rename_i held
        exact .wake held
      · rename_i dropped
        exact .late (by simpa using dropped) (.inl rfl)
  | subscribe id =>
      have done : (s.step (.subscribe id)).1 = if s.held then s.mark id else s := by
        unfold step
        dsimp only
        split <;> rfl
      rw [done]
      split
      · rename_i held
        exact .join held id
      · rename_i dropped
        exact .late (by simpa using dropped) (.inr (.inr ⟨id, rfl⟩))
  | take id =>
      cases known : s.subscribed id with
      | false =>
          simp only [step, known]
          exact .peek (.inr (.inr (.inr ⟨id, rfl, known⟩)))
      | true =>
          simp only [step, known, if_true]
          exact .look known
  | desired =>
      have still : (s.step .desired).1 = s := by
        unfold step
        dsimp only
        split <;> rfl
      rw [still]
      exact .peek (.inl rfl)
  | changed id =>
      rw [step_changed]
      exact .peek (.inr (.inl ⟨id, rfl⟩))
  | peek id => exact .peek (.inr (.inr (.inl ⟨id, rfl⟩)))
  | drop => exact .drop

/-- The mark of a subscriber that looks is the count of writes. -/
lemma lookup_mark_self (s : Session) (id : String) :
    (s.mark id).seen.lookup id = some s.cell.writes := by
  unfold mark
  rw [List.lookup_cons, beq_self_eq_true]

/-- The marks of other subscribers stay. -/
lemma lookup_mark_of_ne (s : Session) {id other : String} (differ : other ≠ id) :
    (s.mark id).seen.lookup other = s.seen.lookup other := by
  unfold mark
  rw [List.lookup_cons, beq_false_of_ne differ]

/-- A subscriber that looks is known, as are those known before. -/
lemma subscribed_mark (s : Session) (id other : String) :
    (s.mark id).subscribed other = true ↔ other = id ∨ s.subscribed other = true := by
  unfold subscribed
  by_cases same : other = id
  · subst same
    rw [lookup_mark_self]
    exact iff_of_true rfl (.inl rfl)
  · rw [lookup_mark_of_ne s same]
    exact (or_iff_right same).symm

/-! ### A session agrees with its history -/

/-- What a session keeps agrees with the steps that have led to it. -/
structure Agrees (history : List Step) (s : Session) : Prop where
  /-- The value is what was published last. -/
  value : s.cell.value = lastPublished history
  /-- The cell is held until it is dropped. -/
  held : s.held = true ↔ .drop ∉ history
  /-- Those who have subscribed are known. -/
  subscribed : ∀ id, s.subscribed id = true ↔ .subscribe id ∈ owned history
  /-- What a subscriber has seen is behind exactly if there was something to wake for since. -/
  seen : .drop ∉ history → ∀ id n, s.seen.lookup id = some n →
    ∃ past since, Looked id history past since ∧ n ≤ s.cell.writes ∧
      (n < s.cell.writes ↔ Stirred past since)

/-- A session without steps agrees with the empty history. -/
lemma agrees_nil : Agrees [] Session.new := by
  refine ⟨rfl, iff_of_true rfl List.not_mem_nil, fun id => ?_, fun _ id n known => ?_⟩
  · exact iff_of_false nofun List.not_mem_nil
  · cases known

section Effect

variable {history : List Step} {s t : Session} {op : Step}

/-- The subscribers of a longer history. -/
lemma Agrees.subscribed_concat (agrees : Agrees history s) (other : op ≠ .drop) (id : String) :
    .subscribe id ∈ owned (history ++ [op]) ↔
      s.subscribed id = true ∨ s.held = true ∧ op = .subscribe id := by
  rw [agrees.subscribed, agrees.held]
  by_cases dropped : .drop ∈ history
  · rw [owned_concat (.inl dropped)]
    simp [dropped]
  · rw [owned_concat_of_held dropped other, owned_eq_self dropped]
    simp [dropped, eq_comm]

/-- A step that marks nothing keeps the agreement if it writes exactly where it wakes. -/
lemma Agrees.of_write (agrees : Agrees history s) (marks : t.seen = s.seen) (owner : t.held = s.held)
    (here : op ≠ .drop) (joins : s.held = true → ∀ id, op ≠ .subscribe id)
    (looks : ∀ id, op = .take id → s.subscribed id = false)
    (value : t.cell.value = lastPublished (history ++ [op]))
    (writes : .drop ∉ history → s.cell.writes ≤ t.cell.writes ∧
      (s.cell.writes < t.cell.writes ↔ Wakes history op)) : Agrees (history ++ [op]) t := by
  refine ⟨value, ?_, ?_, ?_⟩
  · rw [owner, agrees.held]
    simp [here.symm]
  · intro id
    rw [agrees.subscribed_concat here]
    show (t.seen.lookup id).isSome = true ↔ _
    rw [marks]
    exact (or_iff_left fun joined => joins joined.1 id joined.2).symm
  · intro held id n known
    rw [marks] at known
    rw [List.mem_append, not_or] at held
    obtain ⟨past, since, looked, bound, stirred⟩ := agrees.seen held.1 id n known
    obtain ⟨kept, wakes⟩ := writes held.1
    refine ⟨past, since ++ [op], looked.concat ⟨joins (agrees.held.mpr held.1) id, ?_⟩,
      Nat.le_trans bound kept, ?_⟩
    · intro takes
      have stranger := looks id takes
      rw [Session.subscribed, known] at stranger
      cases stranger
    · rw [stirred_concat, ← looked.split, ← stirred, ← wakes]
      omega

/-- A look keeps the agreement. -/
lemma Agrees.of_mark (agrees : Agrees history s) {id : String}
    (look : op = .subscribe id ∧ s.held = true ∨ op = .take id ∧ s.subscribed id = true) :
    Agrees (history ++ [op]) (s.mark id) := by
  have here : op ≠ .drop := by
    rcases look with ⟨rfl, -⟩ | ⟨rfl, -⟩ <;> nofun
  have quiet : published? op = none := by
    rcases look with ⟨rfl, -⟩ | ⟨rfl, -⟩ <;> rfl
  have asleep : ¬Wakes history op := by
    rcases look with ⟨rfl, -⟩ | ⟨rfl, -⟩ <;> nofun
  refine ⟨?_, ?_, ?_, ?_⟩
  · rw [lastPublished_concat (.inr quiet), ← agrees.value]
    rfl
  · show s.held = true ↔ _
    rw [agrees.held]
    simp [here.symm]
  · intro other
    rw [agrees.subscribed_concat here, subscribed_mark]
    rcases look with ⟨rfl, held⟩ | ⟨rfl, known⟩
    · rw [or_comm, Step.subscribe.injEq, @eq_comm _ id]
      exact (or_congr_right (and_iff_right held)).symm
    · constructor
      · rintro (rfl | before)
        · exact .inl known
        · exact .inl before
      · rintro (before | ⟨-, no⟩)
        · exact .inr before
        · cases no
  · intro held other n known
    rw [List.mem_append, not_or] at held
    by_cases same : other = id
    · subst same
      rw [lookup_mark_self] at known
      cases known
      refine ⟨_, [], looked_of_look ?_, Nat.le_refl _, ?_⟩
      · rcases look with ⟨same, -⟩ | ⟨same, known⟩
        · exact .inl same
        · rw [agrees.subscribed, owned_eq_self held.1] at known
          exact .inr ⟨same, known⟩
      · exact iff_of_false (Nat.lt_irrefl _) (not_stirred_nil _)
    · rw [lookup_mark_of_ne s same] at known
      obtain ⟨past, since, looked, bound, stirred⟩ := agrees.seen held.1 other n known
      refine ⟨past, since ++ [op], looked.concat ?_, bound, ?_⟩
      · rcases look with ⟨rfl, -⟩ | ⟨rfl, -⟩ <;> simp [Ne.symm same]
      · rw [stirred_concat, ← looked.split, or_iff_left asleep]
        exact stirred

/-- **Every step keeps the agreement.** -/
theorem Agrees.of_effect (agrees : Agrees history s) (effect : Effect s op t) :
    Agrees (history ++ [op]) t := by
  have still : s.cell.writes ≤ s.cell.writes := Nat.le_refl _
  cases effect with
  | @change leader held other =>
      have open' := agrees.held.mp held
      refine agrees.of_write rfl rfl nofun nofun nofun ?_ ?_
      · exact (lastPublished_publish open' leader).symm
      · intro _
        have change : leader ≠ lastPublished history := by
          rw [← agrees.value]
          exact other.symm
        exact ⟨Nat.le_succ _, iff_of_true (Nat.lt_succ_self _) (.publish change)⟩
  | same held =>
      have open' := agrees.held.mp held
      refine agrees.of_write rfl rfl nofun nofun nofun ?_ ?_
      · exact (lastPublished_publish open' _).symm
      · intro _
        refine ⟨still, iff_of_false (Nat.lt_irrefl _) ?_⟩
        intro wakes
        cases wakes with
        | publish change => exact change agrees.value
  | wake held =>
      refine agrees.of_write rfl rfl nofun nofun nofun ?_ ?_
      · rw [lastPublished_concat (.inr rfl)]
        exact agrees.value
      · exact fun _ => ⟨Nat.le_succ _, iff_of_true (Nat.lt_succ_self _) .recheck⟩
  | join held id => exact agrees.of_mark (.inl ⟨rfl, held⟩)
  | look known => exact agrees.of_mark (.inr ⟨rfl, known⟩)
  | peek quiet =>
      have asleep : ¬Wakes history op := by
        rcases quiet with rfl | ⟨id, rfl⟩ | ⟨id, rfl⟩ | ⟨id, rfl, -⟩ <;> nofun
      refine agrees.of_write rfl rfl ?_ ?_ ?_ ?_ ?_
      · rcases quiet with rfl | ⟨id, rfl⟩ | ⟨id, rfl⟩ | ⟨id, rfl, -⟩ <;> nofun
      · rcases quiet with rfl | ⟨id, rfl⟩ | ⟨id, rfl⟩ | ⟨id, rfl, -⟩ <;> nofun
      · rcases quiet with rfl | ⟨id, rfl⟩ | ⟨id, rfl⟩ | ⟨id, rfl, stranger⟩
        iterate 3 nofun
        intro other same
        cases same
        exact stranger
      · rw [lastPublished_concat, agrees.value]
        right
        rcases quiet with rfl | ⟨id, rfl⟩ | ⟨id, rfl⟩ | ⟨id, rfl, -⟩ <;> rfl
      · exact fun _ => ⟨still, iff_of_false (Nat.lt_irrefl _) asleep⟩
  | late dropped owner =>
      have gone : .drop ∈ history := by
        by_contra held
        rw [agrees.held.mpr held] at dropped
        cases dropped
      refine agrees.of_write rfl rfl ?_ ?_ ?_ ?_ ?_
      · rcases owner with rfl | ⟨leader, rfl⟩ | ⟨id, rfl⟩ <;> nofun
      · intro held
        rw [dropped] at held
        cases held
      · rcases owner with rfl | ⟨leader, rfl⟩ | ⟨id, rfl⟩ <;> nofun
      · rw [lastPublished_concat (.inl gone), agrees.value]
      · exact fun held => absurd gone held
  | drop =>
      refine ⟨?_, ?_, ?_, ?_⟩
      · rw [lastPublished, owned_concat (.inr rfl)]
        exact agrees.value
      · simp
      · intro id
        rw [owned_concat (.inr rfl)]
        exact agrees.subscribed id
      · intro held
        simp at held

end Effect

/-- **After every history the session agrees with it.** -/
theorem agrees_after (history : List Step) : Agrees history (Session.new.after history) := by
  induction history using List.reverseRecOn with
  | nil => exact agrees_nil
  | append_singleton history op ih =>
      rw [after_concat]
      exact ih.of_effect (effect_step _ op)

/-! ### What is answered -/

/-- A session that agrees with its history answers as the history tells. -/
lemma Agrees.told {history : List Step} {s : Session} (agrees : Agrees history s) (op : Step) :
    Told history op (s.step op).2 := by
  have gone (dropped : ¬s.held = true) : .drop ∈ history :=
    Decidable.not_not.mp fun held => dropped (agrees.held.mpr held)
  cases op with
  | publish leader =>
      by_cases held : s.held = true
      · have answer : (s.step (.publish leader)).2 = .flag (leader != lastPublished history) := by
          rw [← agrees.value]
          by_cases same : s.cell.value = leader
          · simp [step, held, publish, same]
          · simp [step, held, publish, same, bne_iff_ne.mpr (Ne.symm same)]
        rw [answer]
        exact .publish (agrees.held.mp held) leader
      · simp only [step, held]
        exact .dropped (gone held) (.inr (.inr (.inl ⟨leader, rfl⟩)))
  | recheck =>
      by_cases held : s.held = true
      · simp only [step, held, if_true]
        exact .recheck (agrees.held.mp held)
      · simp only [step, held]
        exact .dropped (gone held) (.inl rfl)
  | desired =>
      by_cases held : s.held = true
      · simp only [step, held, if_true, agrees.value]
        exact .desired (agrees.held.mp held)
      · simp only [step, held]
        exact .dropped (gone held) (.inr (.inl rfl))
  | subscribe id =>
      by_cases held : s.held = true
      · simp only [step, held, if_true]
        exact .subscribe (agrees.held.mp held) id
      · simp only [step, held]
        exact .dropped (gone held) (.inr (.inr (.inr ⟨id, rfl⟩)))
  | changed id =>
      cases mark : s.seen.lookup id with
      | none =>
          have stranger : .subscribe id ∉ owned history := by
            rw [← agrees.subscribed, Session.subscribed, mark]
            nofun
          simp only [step, mark]
          exact .unsubscribed stranger
      | some n =>
          have known : .subscribe id ∈ owned history := by
            rw [← agrees.subscribed, Session.subscribed, mark]
            rfl
          simp only [step, mark]
          split
          · rename_i held
            have open' := agrees.held.mp held
            obtain ⟨past, since, looked, bound, stirred⟩ := agrees.seen open' id n mark
            apply Told.changed open' looked
            rw [← stirred, changedSince, bne_iff_ne]
            omega
          · rename_i dropped
            exact .closed (gone dropped) known
  | peek id =>
      by_cases known : s.subscribed id = true
      · simp only [step, known, if_true, agrees.value]
        exact .peek ((agrees.subscribed id).mp known)
      · simp only [step, known]
        exact .peekNothing fun mem => known ((agrees.subscribed id).mpr mem)
  | take id =>
      by_cases known : s.subscribed id = true
      · simp only [step, known, if_true, agrees.value]
        exact .take ((agrees.subscribed id).mp known)
      · simp only [step, known]
        exact .takeNothing fun mem => known ((agrees.subscribed id).mpr mem)
  | drop => exact .drop

/-- The desired state is what was published last, until the cell is dropped. -/
lemma Agrees.desired? {history : List Step} {s : Session} (agrees : Agrees history s) :
    s.desired? = if .drop ∈ history then none else some (lastPublished history) := by
  unfold Session.desired?
  by_cases held : s.held = true
  · rw [if_pos held, if_neg (agrees.held.mp held), agrees.value]
  · rw [if_neg held, if_pos (Decidable.not_not.mp fun absent => held (agrees.held.mpr absent))]

/-- A run lists the answer to each step, made after the steps before it. -/
lemma run_getElem? (s : Session) (steps : List Step) (k : Nat) :
    (s.run steps)[k]? = steps[k]?.map fun op =>
      (((s.after (steps.take k)).step op).2, (s.after (steps.take (k + 1))).desired?) := by
  induction steps generalizing s k with
  | nil => rfl
  | cons op steps ih =>
      cases k with
      | zero => rfl
      | succ k => exact ih (s.step op).1 k

/-! ### Rechecks -/

/-- Whether a step wakes, or asks whether there was something to wake for. -/
def isOfWaking : Step → Bool
  | .recheck => true
  | .changed _ => true
  | _ => false

/-- The steps that have nothing to do with waking, with their answers and the desired state after
each. -/
def settled (s : Session) (steps : List Step) : List (Step × Answer × Option Bool) :=
  (steps.zip (s.run steps)).filter fun told => !isOfWaking told.1

/-- Two sessions differ in nothing but whom they have to wake. -/
structure Alike (s t : Session) : Prop where
  /-- The value is the same. -/
  value : s.cell.value = t.cell.value
  /-- Both are held, or neither. -/
  held : s.held = t.held
  /-- The subscribers are the same. -/
  subscribed : ∀ id, s.subscribed id = true ↔ t.subscribed id = true

/-- A recheck makes no other difference. -/
lemma alike_recheck (s : Session) : Alike (s.step .recheck).1 s := by
  unfold step
  dsimp only
  split
  · exact ⟨rfl, rfl, fun _ => Iff.rfl⟩
  · exact ⟨rfl, rfl, fun _ => Iff.rfl⟩

/-- A step leaves such sessions alike, and they answer it alike if it has nothing to do with
waking. -/
lemma Alike.step {s t : Session} (alike : Alike s t) (op : Step) :
    Alike (s.step op).1 (t.step op).1 ∧
      (isOfWaking op = false → (s.step op).2 = (t.step op).2) := by
  obtain ⟨value, held, subscribed⟩ := alike
  have marked (id : String) : Alike (s.mark id) (t.mark id) := by
    refine ⟨value, held, fun other => ?_⟩
    rw [subscribed_mark, subscribed_mark, subscribed]
  cases op with
  | publish leader =>
      simp only [Session.step, held]
      split
      · refine ⟨⟨?_, rfl, subscribed⟩, fun _ => ?_⟩
        · rw [value_publish, value_publish]
        · rw [publish, publish, value]
          split <;> rfl
      · exact ⟨⟨value, held, subscribed⟩, fun _ => rfl⟩
  | recheck =>
      simp only [Session.step, held]
      split
      · exact ⟨⟨value, rfl, subscribed⟩, fun _ => rfl⟩
      · exact ⟨⟨value, held, subscribed⟩, fun _ => rfl⟩
  | desired =>
      simp only [Session.step, held, value]
      split
      · exact ⟨⟨value, held, subscribed⟩, fun _ => rfl⟩
      · exact ⟨⟨value, held, subscribed⟩, fun _ => rfl⟩
  | subscribe id =>
      simp only [Session.step, held]
      split
      · exact ⟨marked id, fun _ => rfl⟩
      · exact ⟨⟨value, held, subscribed⟩, fun _ => rfl⟩
  | changed id =>
      rw [step_changed, step_changed]
      exact ⟨⟨value, held, subscribed⟩, nofun⟩
  | peek id =>
      refine ⟨⟨value, held, subscribed⟩, fun _ => ?_⟩
      simp only [Session.step, subscribed, value]
  | take id =>
      simp only [Session.step, subscribed, value]
      split
      · exact ⟨marked id, fun _ => rfl⟩
      · exact ⟨⟨value, held, subscribed⟩, fun _ => rfl⟩
  | drop => exact ⟨⟨value, rfl, subscribed⟩, fun _ => rfl⟩

/-- What has nothing to do with waking is told alike without the rechecks. -/
lemma Alike.settled {s t : Session} (alike : Alike s t) (steps : List Step) :
    s.settled steps = t.settled (steps.filter (· ≠ .recheck)) := by
  induction steps generalizing s t with
  | nil => rfl
  | cons op steps ih =>
      obtain ⟨next, answer⟩ := alike.step op
      by_cases recheck : op = .recheck
      · subst recheck
        have back : Alike (s.step .recheck).1 t := by
          obtain ⟨value, held, subscribed⟩ := alike_recheck s
          exact ⟨value.trans alike.value, held.trans alike.held,
            fun id => (subscribed id).trans (alike.subscribed id)⟩
        exact ih back
      · have kept : (op :: steps).filter (· ≠ .recheck) = op :: steps.filter (· ≠ .recheck) := by
          simp [recheck]
        have desired : (s.step op).1.desired? = (t.step op).1.desired? := by
          rw [desired?, desired?, next.value, next.held]
        have later := ih next
        unfold Session.settled at later ⊢
        rw [kept, Session.run, Session.run, List.zip_cons_cons, List.zip_cons_cons,
          List.filter_cons, List.filter_cons, later, desired]
        cases calm : isOfWaking op with
        | true => rfl
        | false => rw [answer calm]

/-! ### The history tells the answers -/

/-- **The history tells the answers.**  In every session each step is answered as the steps before
it tell, and the desired state after it is what was published last, until the cell is dropped.
Taking the value settles the subscriber who takes it and nobody else.  Whatever has nothing to do
with waking is the same for any two sessions that differ only in their rechecks. -/
theorem answers_tell_history :
    (∀ steps k op, steps[k]? = some op → ∃ answer,
      (Session.new.run steps)[k]? = some (answer,
        if .drop ∈ steps.take (k + 1) then none else some (lastPublished (steps.take (k + 1)))) ∧
      ∀ other, Told (steps.take k) op other ↔ other = answer) ∧
    (∀ history id, .drop ∉ history → .subscribe id ∈ history →
      ((Session.new.after (history ++ [.take id])).step (.changed id)).2 = .flag false) ∧
    (∀ history id other, other ≠ id →
      ((Session.new.after (history ++ [.take id])).step (.changed other)).2 =
        ((Session.new.after history).step (.changed other)).2) ∧
    ∀ steps others, steps.filter (· ≠ .recheck) = others.filter (· ≠ .recheck) →
      Session.new.settled steps = Session.new.settled others := by
  have alike : Alike Session.new Session.new := ⟨rfl, rfl, fun _ => Iff.rfl⟩
  refine ⟨?_, ?_, ?_, ?_⟩
  · intro steps k op here
    have told := (agrees_after (steps.take k)).told op
    refine ⟨_, ?_, fun other => ⟨fun other => other.unique told, fun same => same ▸ told⟩⟩
    rw [run_getElem?, here, ← (agrees_after (steps.take (k + 1))).desired?]
    rfl
  · intro history id held subscribed
    have agrees := agrees_after history
    have known : (Session.new.after history).subscribed id = true := by
      rw [agrees.subscribed, owned_eq_self held]
      exact subscribed
    have taken : Session.new.after (history ++ [.take id]) =
        (Session.new.after history).mark id := by
      rw [after_concat]
      simp [step, known]
    rw [taken]
    have owner : ((Session.new.after history).mark id).held = true := agrees.held.mpr held
    simp only [step, lookup_mark_self, owner, if_true]
    simp [changedSince, mark]
  · intro history id other differ
    rw [after_concat]
    generalize Session.new.after history = s
    have taken : (s.step (.take id)).1 = s.mark id ∨ (s.step (.take id)).1 = s := by
      unfold step
      dsimp only
      split
      · exact .inl rfl
      · exact .inr rfl
    rcases taken with marked | still
    · rw [marked]
      simp only [step, lookup_mark_of_ne s differ]
      split <;> rfl
    · rw [still]
  · intro steps others same
    rw [alike.settled steps, alike.settled others, same]

/-- Two subscribers, one of whom takes the value; leadership comes and goes, and the owner goes. -/
def comesAndGoes : List Step :=
  [.subscribe "a", .publish true, .subscribe "b", .recheck, .take "b", .publish false,
    .changed "a", .changed "b", .take "a", .changed "a", .changed "b", .recheck, .changed "a",
    .publish false, .peek "b", .drop, .changed "b", .take "b", .publish true]

/-- The first subscriber is due to look again although nobody leads, as when it subscribed. -/
theorem answers_tell_history_comesAndGoes :
    comesAndGoes[6]? = some (.changed "a") ∧
      (Session.new.run comesAndGoes)[6]? = some (.flag true, some false) ∧
      Told (comesAndGoes.take 6) (.changed "a") (.flag true) := by
  obtain ⟨answer, listed, told⟩ := answers_tell_history.1 comesAndGoes 6 (.changed "a") rfl
  have flag : (Session.new.run comesAndGoes)[6]? = some (.flag true, some false) := by decide
  rw [flag] at listed
  cases listed
  exact ⟨rfl, flag, (told _).mpr rfl⟩

end FloatingIp.Cell.Session
