import FloatingIp.Proofs.Run
import FloatingIp.Rehearsal.Clockwork

/-!
# What a clockwork plays

A clockwork prefers some moves to others and decides when time passes, but it has no other way to
change a system than its moves.  What is played is therefore a run (`Clockwork.Drives.playUpTo`), and
what holds in every run holds of it.

A play has more to its state than the system, so `view` takes the system out of it.  A step of a play
is an optional state; `Plays` says that the system comes by moves to what the step leaves of it, and
is proved along the way in which steps are put together.
-/

namespace FloatingIp.Rehearsal

variable {σ μ τ : Type} {move? : σ → μ → Option σ} {view : τ → σ}

/-! ### Steps -/

/-- A system comes from one state to another by moves. -/
def Leads (move? : σ → μ → Option σ) (s t : σ) : Prop :=
  ∃ moves : List μ, moves.foldlM move? s = some t

/-- A system stays by making no move. -/
lemma Leads.refl (s : σ) : Leads move? s s :=
  ⟨[], rfl⟩

/-- A system comes on from where it has come to. -/
lemma Leads.trans {s t u : σ} (first : Leads move? s t) (second : Leads move? t u) :
    Leads move? s u := by
  obtain ⟨moves, run⟩ := first
  obtain ⟨more, rest⟩ := second
  exact ⟨moves ++ more, run_append.mpr ⟨t, run, rest⟩⟩

/-- A step of a play from `s` moves the system, or leaves it alone. -/
def Plays (move? : σ → μ → Option σ) (view : τ → σ) (s : τ) (step : Option τ) : Prop :=
  ∀ t, step = some t → Leads move? (view s) (view t)

/-- A move of the system is a step. -/
lemma plays_move (put : τ → σ → τ) (puts : ∀ s x, view (put s x) = x) (s : τ) (m : μ) :
    Plays move? view s ((move? (view s) m).map (put s)) := by
  intro t made
  obtain ⟨x, moved, rfl⟩ := Option.map_eq_some_iff.mp made
  rw [puts]
  exact ⟨[m], run_cons.mpr ⟨x, moved, rfl⟩⟩

namespace Plays

variable {s : τ} {step other : Option τ}

/-- Where there is no step nothing happens. -/
lemma nothing (s : τ) : Plays move? view s none :=
  nofun

/-- A step may leave the system alone. -/
lemma same {t : τ} (alone : view t = view s) : Plays move? view s (some t) := by
  rintro _ ⟨⟩
  rw [alone]
  exact Leads.refl _

/-- The first of two steps that can be made is a step. -/
lemma orElse (first : Plays move? view s step) (second : Plays move? view s other) :
    Plays move? view s (step <|> other) := by
  cases step with
  | none => exact second
  | some t => exact first

/-- A step may be made under a guard. -/
lemma guarded {p : Prop} [Decidable p] (inner : p → Plays move? view s step) :
    Plays move? view s (if p then step else none) := by
  split
  · exact inner ‹p›
  · exact nothing s

/-- A step may look something up before. -/
lemma lookup {α : Type} (x : Option α) {f : α → Option τ}
    (inner : ∀ a, Plays move? view s (f a)) : Plays move? view s (x >>= f) := by
  cases x with
  | none => exact nothing s
  | some a => exact inner a

/-- A step may note something after. -/
lemma noting {note : τ → τ} (inner : Plays move? view s step)
    (alone : ∀ t, view (note t) = view t) : Plays move? view s (step.map note) := by
  intro u made
  obtain ⟨t, before, rfl⟩ := Option.map_eq_some_iff.mp made
  rw [alone]
  exact inner t before

/-- One step may follow another. -/
lemma andThen {f : τ → Option τ} (first : Plays move? view s step)
    (second : ∀ t, Plays move? view t (f t)) : Plays move? view s (step >>= f) := by
  intro u made
  obtain ⟨t, before, after⟩ := Option.bind_eq_some_iff.mp made
  exact (first t before).trans (second t u after)

/-- Where no step can be made the system stays. -/
lemma leads (plays : Plays move? view s step) : Leads move? (view s) (view (step.getD s)) := by
  cases step with
  | none => exact Leads.refl _
  | some t => exact plays t rfl

end Plays

/-! ### Clockworks -/

namespace Clockwork

/-- A clockwork changes a system only by its moves. -/
structure Drives (c : Clockwork τ) (move? : σ → μ → Option σ) (view : τ → σ) : Prop where
  /-- What happens next. -/
  next : ∀ s, Plays move? view s (c.next? s)
  /-- Letting time pass. -/
  wait : ∀ s millis, Leads move? (view s) (view (c.wait s millis))

namespace Drives

variable {c : Clockwork τ}

/-- Everything that happens at one time is made of moves. -/
lemma settleUpTo (drives : c.Drives move? view) (most : Nat) (s : τ) :
    Leads move? (view s) (view (c.settleUpTo most s)) := by
  induction most generalizing s with
  | zero => exact Leads.refl _
  | succ most ih =>
      rw [Clockwork.settleUpTo]
      cases next : c.next? s with
      | none => exact Leads.refl _
      | some t => exact (drives.next s t next).trans (ih t)

/-- Everything that can happen at one time is made of moves. -/
lemma settle (drives : c.Drives move? view) (s : τ) :
    Leads move? (view s) (view (c.settle s)) :=
  drives.settleUpTo bound s

/-- A step, if it can be made, with everything that happens then is made of moves. -/
lemma settle_getD (drives : c.Drives move? view) {s : τ} {step : Option τ}
    (plays : Plays move? view s step) :
    Leads move? (view s) (view (c.settle (step.getD s))) :=
  plays.leads.trans (drives.settle _)

/-- **What a clockwork plays is a run**, whatever it plays up to and however long. -/
theorem playUpTo (drives : c.Drives move? view) (isEnd : τ → Bool) (time most : Nat) (s : τ) :
    Leads move? (view s) (view (c.playUpTo isEnd time most s)) := by
  induction most generalizing s with
  | zero => exact Leads.refl _
  | succ most ih =>
      have settled := drives.settle s
      rw [Clockwork.playUpTo]
      split
      · exact settled
      · cases c.dueBy? time (c.settle s) with
        | none => exact (settled.trans (drives.wait _ _)).trans (drives.settle _)
        | some t => exact (settled.trans (drives.wait _ _)).trans (ih _)

end Drives
end Clockwork
end FloatingIp.Rehearsal
