import Mathlib.Tactic.Lemma

/-!
# Runs

Every system of this library has moves, and a run of it is a list of moves that can be made one
after another.  What holds in every state that a run reaches is proved from the front: it holds at
the beginning, and each further move keeps it.  The forms below differ in what the property may
speak of, the state alone (`of_run`, and `of_run_among` where only some moves are made) or also the
moves that led to it (`run_induction`).

Where several systems are joined, each move of the whole is a move of a party or leaves that party
alone (`Follows`), and so a run of the whole shows a run of the party (`run_of_follows`).
-/

namespace FloatingIp

/-! ### Guarded moves -/

/-- A move under a guard is made only where the guard holds. -/
lemma of_guard {α : Type} {p : Prop} [Decidable p] {a b : α}
    (h : (if p then some a else none) = some b) : p ∧ a = b := by
  rw [Option.ite_none_right_eq_some] at h
  exact ⟨h.1, Option.some.inj h.2⟩

/-- A move under a bar is made only where the bar does not hold. -/
lemma of_bar {α : Type} {p : Prop} [Decidable p] {a b : α}
    (h : (if p then none else some a) = some b) : ¬p ∧ a = b := by
  rw [Option.ite_none_left_eq_some] at h
  exact ⟨h.1, Option.some.inj h.2⟩

/-! ### Runs and what they keep -/

variable {σ μ : Type} {move? : σ → μ → Option σ}

/-- A run of some moves and then some more goes through a state in between. -/
lemma run_append {s u : σ} {moves more : List μ} :
    (moves ++ more).foldlM move? s = some u ↔
      ∃ t, moves.foldlM move? s = some t ∧ more.foldlM move? t = some u := by
  rw [List.foldlM_append]
  exact Option.bind_eq_some_iff

/-- A run begins with its first move. -/
lemma run_cons {s u : σ} {m : μ} {moves : List μ} :
    (m :: moves).foldlM move? s = some u ↔
      ∃ t, move? s m = some t ∧ moves.foldlM move? t = some u := by
  rw [List.foldlM_cons]
  exact Option.bind_eq_some_iff

/-- A run ends with its last move. -/
lemma run_concat {s u : σ} {moves : List μ} {m : μ} :
    (moves ++ [m]).foldlM move? s = some u ↔
      ∃ t, moves.foldlM move? s = some t ∧ move? t m = some u := by
  rw [run_append]
  constructor
  · rintro ⟨t, ht, hu⟩
    obtain ⟨v, hv, hvu⟩ := run_cons.mp hu
    cases hvu
    exact ⟨t, ht, hv⟩
  · rintro ⟨t, ht, hu⟩
    exact ⟨t, ht, run_cons.mpr ⟨u, hu, rfl⟩⟩

/-- What holds of a state and is kept by each move holds wherever a run leads. -/
theorem of_run {P : σ → Prop} (keep : ∀ {s t m}, P s → move? s m = some t → P t) {s t : σ}
    {moves : List μ} (start : P s) (run : moves.foldlM move? s = some t) : P t := by
  induction moves generalizing s with
  | nil =>
      cases run
      exact start
  | cons m moves ih =>
      obtain ⟨u, hu, hrun⟩ := run_cons.mp run
      exact ih (keep start hu) hrun

/-- What is kept by each move of a kind holds wherever a run of such moves leads. -/
theorem of_run_among {P : σ → Prop} {K : μ → Prop}
    (keep : ∀ {s t m}, P s → K m → move? s m = some t → P t) {s t : σ} {moves : List μ}
    (start : P s) (run : moves.foldlM move? s = some t) (among : ∀ m ∈ moves, K m) : P t := by
  induction moves generalizing s with
  | nil =>
      cases run
      exact start
  | cons m moves ih =>
      obtain ⟨u, hu, hrun⟩ := run_cons.mp run
      rw [List.forall_mem_cons] at among
      exact ih (keep start among.1 hu) hrun among.2

/-- What is kept by each move but one holds wherever a run without that move leads. -/
theorem of_run_without {P : σ → Prop} {bad : μ}
    (keep : ∀ {s t m}, P s → m ≠ bad → move? s m = some t → P t) {s t : σ} {moves : List μ}
    (start : P s) (run : moves.foldlM move? s = some t) (without : bad ∉ moves) : P t :=
  of_run_among (K := (· ≠ bad)) keep start run fun _ hm same => without (same ▸ hm)

/-- What holds of the empty run and is kept by each further move holds of every run. -/
theorem run_induction {s₀ : σ} {P : List μ → σ → Prop} (empty : P [] s₀)
    (further : ∀ {moves s m t}, moves.foldlM move? s₀ = some s → P moves s → move? s m = some t →
      P (moves ++ [m]) t)
    {moves : List μ} {s : σ} (run : moves.foldlM move? s₀ = some s) : P moves s := by
  -- the moves made so far grow while those to come shrink
  suffices h : ∀ (more made : List μ) (t : σ), made.foldlM move? s₀ = some t → P made t →
      ∀ u, more.foldlM move? t = some u → P (made ++ more) u by
    simpa using h moves [] s₀ rfl empty s run
  intro more
  induction more with
  | nil =>
      intro made t _ hP u hu
      cases hu
      simpa using hP
  | cons m more ih =>
      intro made t ht hP u hu
      obtain ⟨v, hv, hrun⟩ := run_cons.mp hu
      have hmade : (made ++ [m]).foldlM move? s₀ = some v := run_concat.mpr ⟨t, ht, hv⟩
      have := ih (made ++ [m]) v hmade (further ht hP hv) u hrun
      simpa using this

/-- What one kind of move brings about, and no other move changes, holds where it held at the
beginning or such a move was made. -/
theorem mark_of_run {P : σ → Prop} {mark : μ}
    (each : ∀ {s t m}, move? s m = some t → (P t ↔ P s ∨ m = mark)) {s t : σ} {moves : List μ}
    (run : moves.foldlM move? s = some t) : P t ↔ P s ∨ mark ∈ moves := by
  induction moves generalizing s with
  | nil =>
      cases run
      simp
  | cons m moves ih =>
      obtain ⟨u, hu, hrun⟩ := run_cons.mp run
      rw [ih hrun, each hu, List.mem_cons, or_assoc, @eq_comm _ m]

/-! ### Moments of a run -/

/-- A run comes to a state by some of its moves, and makes another move there. -/
structure ComesTo (move? : σ → μ → Option σ) (start : σ) (moves before : List μ) (s : σ) (m : μ) :
    Prop where
  /-- The moves before lead to the state. -/
  reached : before.foldlM move? start = some s
  /-- The move is the next one. -/
  next : ∃ after, moves = before ++ m :: after

/-- The last move of a run is made in the state before it. -/
lemma comesTo_last {start s : σ} {moves : List μ} (run : moves.foldlM move? start = some s) (m : μ) :
    ComesTo move? start (moves ++ [m]) moves s m :=
  ⟨run, [], rfl⟩

/-- A longer run comes to the same states. -/
lemma ComesTo.further {start s : σ} {moves before : List μ} {m : μ}
    (comes : ComesTo move? start moves before s m) (more : List μ) :
    ComesTo move? start (moves ++ more) before s m := by
  obtain ⟨after, split⟩ := comes.next
  exact ⟨comes.reached, after ++ more, by rw [split, List.append_assoc, List.cons_append]⟩

/-! ### What a run shows -/

/-- What the moves of a run show, in order: each shows something in the state in which it is made,
or nothing. -/
def along {β : Type} (move? : σ → μ → Option σ) (look : σ → μ → Option β) : σ → List μ → List β
  | _, [] => []
  | s, m :: moves =>
    match move? s m with
    | some t => (look s m).toList ++ along move? look t moves
    | none => []

section Along

variable {β : Type} {look : σ → μ → Option β}

/-- The last move of a run shows something last. -/
lemma along_concat {s t u : σ} {moves : List μ} {m : μ} (run : moves.foldlM move? s = some t)
    (h : move? t m = some u) :
    along move? look s (moves ++ [m]) = along move? look s moves ++ (look t m).toList := by
  induction moves generalizing s with
  | nil =>
      cases run
      simp [along, h]
  | cons n moves ih =>
      obtain ⟨v, hv, hrun⟩ := run_cons.mp run
      simp only [List.cons_append, along, hv]
      rw [ih hrun, List.append_assoc]

/-- What a run shows is shown by a move that it makes. -/
lemma comesTo_of_mem_along {s t : σ} {moves : List μ} (run : moves.foldlM move? s = some t)
    {b : β} (shown : b ∈ along move? look s moves) :
    ∃ before u m, ComesTo move? s moves before u m ∧ look u m = some b := by
  revert shown
  refine run_induction (P := fun moves _ => b ∈ along move? look s moves →
    ∃ before u m, ComesTo move? s moves before u m ∧ look u m = some b) nofun ?_ run
  intro moves t m u made earlier h shown
  rw [along_concat made h, List.mem_append] at shown
  rcases shown with before | last
  · obtain ⟨before, v, n, comes, look⟩ := earlier before
    exact ⟨before, v, n, comes.further [m], look⟩
  · exact ⟨moves, t, m, comesTo_last made m, Option.mem_toList.mp last⟩

end Along

/-! ### Parties of a whole -/

/-- A party makes a move, or none. -/
def Follows (move? : σ → μ → Option σ) (m : Option μ) (s t : σ) : Prop :=
  match m with
  | some m => move? s m = some t
  | none => t = s

/-- A party that follows makes its move or stays. -/
lemma Follows.cases {m : Option μ} {s t : σ} (h : Follows move? m s t) :
    m = none ∧ t = s ∨ ∃ n, m = some n ∧ move? s n = some t := by
  cases m with
  | none => exact .inl ⟨rfl, h⟩
  | some n => exact .inr ⟨n, rfl, h⟩

/-- A whole whose moves are moves of a party or leave it alone shows a run of that party. -/
theorem run_of_follows {τ ν : Type} {party? : τ → ν → Option τ} {view : σ → τ}
    (part : σ → μ → Option ν)
    (each : ∀ {s m t}, move? s m = some t → Follows party? (part s m) (view s) (view t))
    {s t : σ} {moves : List μ} (run : moves.foldlM move? s = some t) :
    (along move? part s moves).foldlM party? (view s) = some (view t) := by
  refine run_induction (P := fun moves t =>
    (along move? part s moves).foldlM party? (view s) = some (view t)) rfl ?_ run
  intro moves t m u made own h
  rw [along_concat made h]
  rcases (each h).cases with ⟨none, same⟩ | ⟨n, own', next⟩
  · rw [none, Option.toList_none, List.append_nil, same]
    exact own
  · rw [own', Option.toList_some]
    exact run_concat.mpr ⟨view t, own, next⟩

end FloatingIp
