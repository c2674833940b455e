import FloatingIp.Proofs.Convergence.Sight
import FloatingIp.Proofs.Manager.Agreement

/-!
# A manager on its host

Whether the address is present on the host is a matter of the host: the manager asks and changes it
by calls, and others may change it too.  A `Site` joins a manager and the presence of the address.
A change shows at any time during its call, or never; a question sees the presence at one time
during its call, and its answer is honest if it says what was seen.

At an honest site where nobody else has changed the address since a question last looked, a
reconciler that rests after a pass without setback leaves the address present exactly if it is
desired.  With `desired_of_run`, presence and marker agree end to end (`present_iff_names`).
-/

namespace FloatingIp

open Convergence (Answer Reconciler Turn lastPass)

/-- The turn of the reconciler in a move of the manager, if it is one. -/
def Manager.Move.turn? : Manager.Move → Option Convergence.Move
  | .begin => some .begin
  | .wake => some .wake
  | .answer a => some (.answer a)
  | _ => none

namespace Site

/-- Something that may happen at a site. -/
inductive Move where
  /-- The manager makes a move. -/
  | act (m : Manager.Move)
  /-- The change that is under way shows. -/
  | effect (present : Bool)
  /-- The question that is under way looks whether the address is present. -/
  | observe
  /-- Somebody else adds or removes the address. -/
  | meddle (present : Bool)
  deriving DecidableEq

end Site

open Site (Move)

/-- A manager and the host that it runs on. -/
structure Site where
  /-- The manager. -/
  manager : Manager
  /-- Whether the address is present. -/
  present : Bool
  /-- What the question that is under way has seen. -/
  looked : Option Bool
  /-- Whether every answer to a question was what the question had seen. -/
  honest : Bool
  /-- Whether somebody else has changed the address since a question last looked. -/
  disturbed : Bool
  deriving DecidableEq

namespace Site

/-- The beginning. -/
def new (manager : Manager) (present : Bool) : Site :=
  ⟨manager, present, none, true, false⟩

/-- The call that the reconciler is in. -/
def call? (s : Site) : Option Convergence.Call :=
  s.manager.convergence.reconciler.phase.call?

/-- Whether a move of the manager agrees with what the question that is under way has seen. -/
def agrees (s : Site) : Manager.Move → Bool
  | .answer (.present actual) => s.looked = some actual
  | _ => true

/-- Makes a move, if it can be made. -/
def move? (s : Site) : Move → Option Site
  | .act m =>
    (s.manager.move? m).map fun manager =>
      { s with
        manager, looked := if m.turn?.isSome then none else s.looked,
        honest := s.honest && s.agrees m }
  | .effect present =>
    if s.call? = some .configure ∨ s.call? = some .deconfigure then some { s with present }
    else none
  | .observe =>
    if s.call? = some .query then some { s with looked := some s.present, disturbed := false }
    else none
  | .meddle present => some { s with present, disturbed := true }

/-- Makes moves one after another, if they can all be made. -/
def run? (s : Site) (moves : List Move) : Option Site :=
  moves.foldlM move? s

/-! ### The manager at its site -/

/-- The move of the manager in a move at its site. -/
def managerMove? : Move → Option Manager.Move
  | .act m => some m
  | _ => none

/-- The manager makes its part of a move. -/
lemma follows_of_move {s t : Site} {m : Move} (h : s.move? m = some t) :
    Follows Manager.move? (managerMove? m) s.manager t.manager := by
  cases m with
  | act m =>
      obtain ⟨manager, acted, rfl⟩ := Option.map_eq_some_iff.mp h
      exact acted
  | effect present =>
      obtain ⟨-, rfl⟩ := of_guard h
      rfl
  | observe =>
      obtain ⟨-, rfl⟩ := of_guard h
      rfl
  | meddle present =>
      cases h
      rfl

/-- A run at a site shows a run of the manager. -/
theorem exists_manager_run {s t : Site} {moves : List Move} (run : s.run? moves = some t) :
    ∃ own, s.manager.run? own = some t.manager :=
  ⟨_, run_of_follows (fun _ => managerMove?) follows_of_move run⟩

end Site

/-! ### Turns of the reconciler -/

namespace Manager

/-- A part of coordinator and reconciler that is a turn is the one that the move is named for. -/
lemma turn?_of_convergenceMove? {s : Manager} {m : Manager.Move} {n : Convergence.Move}
    (own : s.convergenceMove? m = some n) :
    m.turn? = if n.isTurn then some n else none := by
  cases m with
  | receive =>
      obtain ⟨⟨leader, channel⟩, -, rfl⟩ := Option.map_eq_some_iff.mp own
      rfl
  | _ => cases own <;> rfl

/-- A move of the manager without a part of coordinator and reconciler is no turn. -/
lemma turn?_of_none {s : Manager} {m : Manager.Move} (own : s.convergenceMove? m = none) :
    m.turn? = none := by
  cases m with
  | begin => cases own
  | wake => cases own
  | answer _ => cases own
  | _ => rfl

/-- A move of the manager is the turn of the reconciler that it is named for, or leaves reconciler
and calls alone. -/
lemma Parts.turn {s t : Manager} {m : Manager.Move} (parts : Parts s m t) :
    (∃ n r, m.turn? = some n ∧ Turn s.convergence n r ∧
        t.convergence = s.convergence.turned n r) ∨
      m.turn? = none ∧ t.convergence.reconciler = s.convergence.reconciler ∧
        t.convergence.calls = s.convergence.calls := by
  rcases parts.convergence.cases with ⟨none, same⟩ | ⟨n, own, h⟩
  · exact .inr ⟨turn?_of_none none, by rw [same], by rw [same]⟩
  · rcases Convergence.move?_cases h with ⟨r, turn, after⟩ | aside
    · refine .inl ⟨n, r, ?_, turn, after⟩
      rw [turn?_of_convergenceMove? own, turn.isTurn]
      rfl
    · refine .inr ⟨?_, aside.reconciler, aside.calls⟩
      rw [turn?_of_convergenceMove? own, aside.isTurn]
      rfl

end Manager

/-! ### What the reconciler knows of the host -/

namespace Site

/-- What the reconciler knows of the presence of the address. -/
structure Knows (s : Site) : Prop where
  /-- What a question has seen is so. -/
  asking : s.manager.convergence.reconciler.phase = .querying →
    ∀ b, s.looked = some b → s.present = b
  /-- A reconciler that rests after a pass without setback has the address as desired. -/
  resting : s.manager.convergence.reconciler.phase = .resting →
    (∀ c ∈ lastPass s.manager.convergence.calls, c.answer.isSetback = false) →
    s.present = s.manager.convergence.reconciler.desired

/-- At an honest site that nobody else disturbs, the reconciler knows the host. -/
def KnowsHost (s : Site) : Prop :=
  s.honest = true → s.disturbed = false → s.Knows

/-- A move of the manager keeps what the reconciler knows. -/
lemma Knows.of_act {s : Site} {m : Manager.Move} {manager : Manager} (knows : s.Knows)
    (acted : s.manager.move? m = some manager) (agrees : s.agrees m = true) :
    Knows { s with
      manager, looked := if m.turn?.isSome then none else s.looked,
      honest := s.honest && s.agrees m } := by
  rcases (Manager.parts_of_move? acted).turn with ⟨n, r, named, turn, after⟩ | ⟨none, same, calls⟩
  · constructor
    · intro _ b looked
      simp [named] at looked
    · intro resting smooth
      rw [after] at resting smooth ⊢
      show s.present = r.desired
      obtain ⟨call, a, busy, rfl, reason⟩ := turn.reason_to_rest resting
      rcases reason with setback | ⟨rfl, rfl⟩
      · rw [Convergence.calls_turned busy] at smooth
        rw [smooth _ (Convergence.mem_lastPass _ _)] at setback
        cases setback
      · have answered : m = .answer (.present r.desired) := by
          cases m <;> cases named
          rfl
        subst answered
        have saw : s.looked = some r.desired := by simpa [Site.agrees] using agrees
        exact knows.asking (Convergence.Phase.querying_of_query busy) _ saw
  · constructor
    · intro asking b looked
      rw [same] at asking
      rw [none] at looked
      exact knows.asking asking b looked
    · intro resting smooth
      rw [same] at resting
      rw [calls] at smooth
      show s.present = manager.convergence.reconciler.desired
      rw [same]
      exact knows.resting resting smooth

/-- Every move keeps what the reconciler knows of the host. -/
lemma KnowsHost.of_move {s t : Site} {m : Move} (knows : s.KnowsHost) (h : s.move? m = some t) :
    t.KnowsHost := by
  intro honest calm
  cases m with
  | act m =>
      obtain ⟨manager, acted, rfl⟩ := Option.map_eq_some_iff.mp h
      rw [Bool.and_eq_true] at honest
      exact (knows honest.1 calm).of_act acted honest.2
  | effect present =>
      obtain ⟨changing, rfl⟩ := of_guard h
      have busy : s.call? ≠ some .query ∧ s.call? ≠ none := by
        rcases changing with same | same <;> rw [same] <;> exact ⟨nofun, nofun⟩
      constructor
      · intro asking
        exact absurd (congrArg Convergence.Phase.call? asking) busy.1
      · intro resting
        exact absurd (congrArg Convergence.Phase.call? resting) busy.2
  | observe =>
      obtain ⟨asking, rfl⟩ := of_guard h
      constructor
      · intro _ b looked
        exact Option.some.inj looked
      · intro resting
        rw [call?, resting] at asking
        cases asking
  | meddle present =>
      cases h
      cases calm

/-- In every run the reconciler knows the host, if the site is honest and not disturbed. -/
theorem knowsHost_of_run {manager : Manager} {present : Bool} {moves : List Move} {s : Site}
    (fresh : manager.convergence.reconciler.phase = .starting)
    (run : (Site.new manager present).run? moves = some s) : s.KnowsHost := by
  refine of_run (P := KnowsHost) KnowsHost.of_move ?_ run
  intro _ _
  constructor
  · intro asking
    rw [Site.new, fresh] at asking
    cases asking
  · intro resting
    rw [Site.new, fresh] at resting
    cases resting

/-! ### Presence and marker agree -/

/-- **The address is present exactly if the marker names the node.**  In every settled state, with
a store of any past and whatever happened to store, channel, reconciler and host before, the
coordinator desires the address exactly if the marker names the node.  If moreover questions were
answered honestly, the last pass had no setback, and nobody else has changed the address since a
question last looked, then the address is present exactly if the marker names the node. -/
theorem present_iff_names {window capacity recheck : Nat} {past : List MemoryStore.Move}
    {store : MemoryStore} {plan : Watch.Plan} {channel : Channel Bool} {present : Bool}
    {moves : List Move} {s : Site}
    (stored : (MemoryStore.new window).run? past = some store)
    (opened : Channel.new? capacity = some channel)
    (run : (Site.new (Manager.new store plan channel recheck) present).run? moves = some s)
    (settled : s.manager.Settled) :
    (s.manager.convergence.cell.value = true ↔ s.manager.store.Names plan.node) ∧
      (s.honest = true → s.disturbed = false →
        (∀ c ∈ lastPass s.manager.convergence.calls, c.answer.isSetback = false) →
        (s.present = true ↔ s.manager.store.Names plan.node)) := by
  obtain ⟨own, managing⟩ := exists_manager_run run
  have desired := Manager.desired_of_run (MemoryStore.written_of_run stored) opened managing settled
  refine ⟨desired, fun honest calm smooth => ?_⟩
  obtain ⟨others, converging⟩ := Manager.exists_convergence_run managing
  have sight := Convergence.sight_eq_of_seen converging (by rw [settled.resting]; rfl) settled.seen
  have known := (knowsHost_of_run rfl run honest calm).resting settled.resting smooth
  have same : s.manager.convergence.reconciler.desired = s.manager.convergence.cell.value :=
    congrArg Cell.value sight
  rw [known, same]
  exact desired

/-- A node that is named in the marker, asks, probes and adds the address, and finds it present. -/
def electedAndAdded : List Move :=
  [.act .begin, .observe, .act (.answer (.present false)), .act .arrive, .act .hear,
    .act .deliver, .act .receive, .act .wake, .observe, .act (.answer (.present false)),
    .act (.answer (.duplicate false)), .effect true, .act (.answer (.changed .applied)),
    .observe, .act (.answer (.present true))]

/-- After this election the address is present and the marker names the node. -/
theorem present_iff_names_electedAndAdded :
    ∃ store channel s, (MemoryStore.new 1000).run? [.set "n2", .set "n1"] = some store ∧
      Channel.new? 1 = some channel ∧
      (Site.new (Manager.new store ⟨"memory", "leader", "n1", 1000⟩ channel 10000) false).run?
        electedAndAdded = some s ∧
      s.manager.Settled ∧ s.manager.convergence.cell.value = true ∧ s.present = true ∧
      (s.manager.convergence.cell.value = true ↔ s.manager.store.Names "n1") ∧
      (s.present = true ↔ s.manager.store.Names "n1") := by
  have settled := @present_iff_names 1000 1 10000 [.set "n2", .set "n1"] _
    ⟨"memory", "leader", "n1", 1000⟩ _ false electedAndAdded _ rfl rfl rfl
    ⟨rfl, rfl, ⟨_, _, rfl, by decide, rfl⟩, rfl, rfl, rfl⟩
  exact ⟨_, _, _, rfl, rfl, rfl, ⟨rfl, rfl, ⟨_, _, rfl, by decide, rfl⟩, rfl, rfl, rfl⟩, rfl, rfl,
    settled.1, settled.2 rfl rfl (by decide)⟩

end Site
end FloatingIp
