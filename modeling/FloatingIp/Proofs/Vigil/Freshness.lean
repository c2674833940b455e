import FloatingIp.Proofs.Vigil.Step
import Mathlib.Data.List.Sort

/-!
# Nothing stale, nothing invented

Between the record of a store and what a watch says of it lie reads that wait, run out of time,
fail, or find the record changed again since it woke them.  None of this lets the watch say
anything that the record does not: the markers that it takes as new are records that were written,
each the record as it was when its read ended, and in the order of the writes (`nothing_stale`).

Two lists tell the history, the `records` that a run has written and the markers that it has
`taken`.  `Accounts` ties store and watch to them, and every move keeps it.  Against a record that
is gone, or that the watch knows already, nothing new is said before the next write of a value
(`silent_of_run`).
-/

namespace FloatingIp.Vigil

/-! ### What is written and what is taken -/

/-- The record that a move writes. -/
def record? (s : Vigil) : Move → Option Marker
  | .set value => some ⟨value, s.store.version + 1⟩
  | _ => none

/-- The marker that the watch takes as a new one in a move. -/
def taken? (s : Vigil) : Move → Option Marker
  | .hear =>
    match s.heard? with
    | some (.marker m) =>
      if (s.watch.remembered.judge s.watch.plan.node m).1 = .known then none else some m
    | _ => none
  | _ => none

/-- The records that a run writes, in order. -/
def records (s : Vigil) (moves : List Move) : List Marker :=
  along move? record? s moves

/-- The markers that the watch takes as new ones in a run, in order. -/
def taken (s : Vigil) (moves : List Move) : List Marker :=
  along move? taken? s moves

/-- A marker is known by its version. -/
lemma judge_eq_known {c : Recall} {node : String} {m : Marker} :
    (c.judge node m).1 = .known ↔ c.version = some m.version := by
  unfold Recall.judge
  split
  · rename_i same
    exact iff_of_true rfl same
  · rename_i other
    refine iff_of_false ?_ other
    dsimp only
    split <;> nofun

/-- A marker that is taken is heard, and of another version than the last one. -/
lemma taken?_eq_some {s : Vigil} {m : Move} {marker : Marker} :
    s.taken? m = some marker ↔ m = .hear ∧ s.heard? = some (.marker marker) ∧
      s.watch.remembered.version ≠ some marker.version := by
  unfold taken?
  split
  · split
    · rename_i found heard
      rw [heard, Option.ite_none_left_eq_some, judge_eq_known]
      constructor
      · rintro ⟨other, same⟩
        cases same
        exact ⟨rfl, rfl, other⟩
      · rintro ⟨-, same, other⟩
        cases same
        exact ⟨other, rfl⟩
    · rename_i none
      exact iff_of_false nofun fun taken => none marker taken.2.1
  · rename_i other
    exact iff_of_false nofun fun taken => other taken.1

/-- A move that sets no value writes no record with one. -/
lemma record?_eq_none {s : Vigil} {m : Move} (other : ∀ value, m ≠ .set value) :
    s.record? m = none := by
  cases m with
  | set value => exact absurd rfl (other value)
  | _ => rfl

/-- The watch takes markers only where it hears. -/
lemma taken?_eq_none {s : Vigil} {m : Move} (other : m ≠ .hear) : s.taken? m = none := by
  rw [Option.eq_none_iff_forall_ne_some]
  exact fun marker taken => other (taken?_eq_some.mp taken).1

/-! ### The store agrees with the records -/

/-- What a store is after these records have been written. -/
structure Ledger (records : List Marker) (s : MemoryStore) : Prop where
  /-- Their versions rise. -/
  rising : records.Pairwise (·.version < ·.version)
  /-- They have come up to that of the record as it is. -/
  past : ∀ m ∈ records, m.version ≤ s.version
  /-- A marker that is there was written. -/
  there : ∀ m, s.current = .marker m → m ∈ records

/-- A store with the same record has the same ledger. -/
lemma Ledger.of_same {records : List Marker} {s t : MemoryStore} (ledger : Ledger records s)
    (same : s.SameRecord t) : Ledger records t := by
  refine ⟨ledger.rising, same.version ▸ ledger.past, ?_⟩
  rw [same.current]
  exact ledger.there

/-- A value that is written is the last record. -/
lemma Ledger.set {records : List Marker} {s : MemoryStore} (ledger : Ledger records s)
    (value : String) : Ledger (records ++ [⟨value, s.version + 1⟩]) (s.write (some value)) := by
  refine ⟨List.pairwise_append.mpr ⟨ledger.rising, List.pairwise_singleton _ _, ?_⟩, ?_, ?_⟩
  · intro m before last mem
    cases List.mem_singleton.mp mem
    exact Nat.lt_succ_of_le (ledger.past m before)
  · intro m mem
    rcases List.mem_append.mp mem with before | last
    · exact Nat.le_succ_of_le (ledger.past m before)
    · cases List.mem_singleton.mp last
      exact Nat.le_refl _
  · intro m current
    cases current
    exact List.mem_append_right _ (List.mem_singleton_self _)

/-- Taking the marker away writes no record with a value. -/
lemma Ledger.clear {records : List Marker} {s : MemoryStore} (ledger : Ledger records s) :
    Ledger records (s.write none) :=
  ⟨ledger.rising, fun m mem => Nat.le_succ_of_le (ledger.past m mem), nofun⟩

/-! ### The watch agrees with the markers taken -/

/-- What a watch is after it has taken these markers as new ones. -/
structure Took (taken : List Marker) (w : Watch) : Prop where
  /-- Their versions rise. -/
  forwards : taken.IsChain (·.version < ·.version)
  /-- The last of them is remembered. -/
  last : w.remembered.version = taken.getLast?.map Marker.version
  /-- Going backwards has never been told of. -/
  told : ∀ last index, .wentBackwards last index ∉ w.told
  /-- What has been voiced are answers to them. -/
  voiced : w.voiced.Sublist (taken.map (·.names w.plan.node))

/-- A watch that hears no new marker takes none. -/
lemma Took.of_known {taken : List Marker} {w v : Watch} {m : Watch.Move} (took : Took taken w)
    (step : Watch.Step w m v)
    (known : ∀ marker, m = .hear (.marker marker) →
      w.remembered.version = some marker.version) : Took taken v := by
  refine ⟨took.forwards, ?_, ?_, ?_⟩
  · rcases step.version with still | ⟨marker, heard, learned⟩
    · rw [still, took.last]
    · rw [learned, ← known marker heard, took.last]
  · intro last index told
    rcases step.wentBackwards told with before | ⟨marker, heard, remembered, below⟩
    · exact took.told last index before
    · rw [known marker heard] at remembered
      cases remembered
      exact Nat.lt_irrefl _ below
  · rw [step.plan]
    rcases step.voiced with less | ⟨marker, heard, other, -⟩
    · exact less.sublist.trans took.voiced
    · exact absurd (known marker heard) other

/-- A watch that hears a marker above the last one takes it. -/
lemma Took.of_new {taken : List Marker} {w v : Watch} {m : Marker} (took : Took taken w)
    (step : Watch.Step w (.hear (.marker m)) v)
    (above : ∀ last, w.remembered.version = some last → last < m.version) :
    Took (taken ++ [m]) v := by
  refine ⟨?_, ?_, ?_, ?_⟩
  · refine List.isChain_append.mpr ⟨took.forwards, .singleton m, ?_⟩
    intro last there next first
    cases first
    refine above _ ?_
    rw [took.last, Option.mem_def.mp there]
    rfl
  · rw [step.learns, List.getLast?_concat]
    rfl
  · intro last index told
    rcases step.wentBackwards told with before | ⟨marker, heard, remembered, below⟩
    · exact took.told last index before
    · cases heard
      exact Nat.lt_asymm below (above last remembered)
  · rw [step.plan, List.map_append]
    rcases step.voiced with less | ⟨marker, heard, -, more⟩
    · exact (less.sublist.trans took.voiced).trans (List.sublist_append_left _ _)
    · cases heard
      rw [more]
      exact took.voiced.append (.refl _)

/-! ### Both agree with each other -/

/-- What store and watch are after these records have been written and these markers taken. -/
structure Accounts (records taken : List Marker) (s : Vigil) : Prop where
  /-- The store agrees with the records. -/
  ledger : Ledger records s.store
  /-- The watch agrees with the markers. -/
  took : Took taken s.watch
  /-- The markers were written. -/
  written : ∀ m ∈ taken, m ∈ records

/-- A marker that is there and not known is above the last one taken. -/
lemma Accounts.above {records taken : List Marker} {s : Vigil} {m : Marker}
    (accounts : Accounts records taken s) (current : s.store.current = .marker m)
    (other : s.watch.remembered.version ≠ some m.version) {last : Nat}
    (remembered : s.watch.remembered.version = some last) : last < m.version := by
  rw [← (MemoryStore.record_of_current current).2]
  refine Nat.lt_of_le_of_ne ?_ ?_
  · rw [accounts.took.last, Option.map_eq_some_iff] at remembered
    obtain ⟨n, there, rfl⟩ := remembered
    exact accounts.ledger.past n (accounts.written n (List.mem_of_getLast? there))
  · rintro rfl
    rw [(MemoryStore.record_of_current current).2] at remembered
    exact other remembered

/-- The markers taken are among the records, in order. -/
lemma Accounts.sublist {records taken : List Marker} {s : Vigil}
    (accounts : Accounts records taken s) : taken.Sublist records := by
  have rising := accounts.took.forwards
  rw [List.isChain_iff_pairwise] at rising
  have distinct : taken.Nodup := rising.imp fun less same => absurd (same ▸ less) (Nat.lt_irrefl _)
  have antisymm : Std.Antisymm fun a b : Marker => a.version < b.version :=
    ⟨fun _ _ less more => absurd more (Nat.lt_asymm less)⟩
  exact List.sublist_of_subperm_of_pairwise
    (List.subperm_of_subset distinct accounts.written) rising accounts.ledger.rising

/-- **Every move keeps the accounts.** -/
lemma Accounts.of_step {records taken : List Marker} {s t : Vigil} {m : Move}
    (accounts : Accounts records taken s) (step : Step s m t) :
    Accounts (records ++ (s.record? m).toList) (taken ++ (s.taken? m).toList) t := by
  cases step with
  | set value =>
      show Accounts (records ++ [⟨value, s.store.version + 1⟩]) (taken ++ []) _
      rw [List.append_nil]
      exact ⟨accounts.ledger.set value, accounts.took,
        fun m mem => List.mem_append_left _ (accounts.written m mem)⟩
  | clear =>
      show Accounts (records ++ []) (taken ++ []) _
      rw [List.append_nil, List.append_nil]
      exact ⟨accounts.ledger.clear, accounts.took, accounts.written⟩
  | hear result heard honest same step =>
      show Accounts (records ++ []) _ t
      rw [List.append_nil]
      have ledger := accounts.ledger.of_same same
      cases new : s.taken? .hear with
      | some m =>
          obtain ⟨-, found, other⟩ := taken?_eq_some.mp new
          rw [heard] at found
          cases found
          have current := current_of_heard heard
          refine ⟨ledger, accounts.took.of_new step fun _ => accounts.above current other, ?_⟩
          rw [Option.toList_some, List.forall_mem_append, List.forall_mem_singleton]
          exact ⟨accounts.written, accounts.ledger.there m current⟩
      | none =>
          rw [Option.toList_none, List.append_nil]
          refine ⟨ledger, accounts.took.of_known step fun m marker => ?_, accounts.written⟩
          by_contra other
          cases marker
          rw [taken?_eq_some.mpr ⟨rfl, heard, other⟩] at new
          cases new
  | aside read other same watch =>
      have unset (value : String) : m ≠ .set value := by
        rintro rfl
        cases read
      rw [record?_eq_none unset, taken?_eq_none other, Option.toList_none, List.append_nil,
        List.append_nil]
      refine ⟨accounts.ledger.of_same same, ?_, accounts.written⟩
      rcases watch with idle | ⟨n, silent, step⟩
      · rw [idle]
        exact accounts.took
      · refine accounts.took.of_known step fun m heard => ?_
        rw [heard] at silent
        cases silent

section

variable {window capacity : Nat} {plan : Watch.Plan} {channel : Channel Bool}
  {moves : List Move} {s : Vigil}

/-- **In every run store and watch agree with the records written and the markers taken.** -/
theorem accounts_of_run (opened : Channel.new? capacity = some channel)
    (run : (Vigil.new (.new window) plan channel).run? moves = some s) :
    Accounts (records (.new (.new window) plan channel) moves)
      (taken (.new (.new window) plan channel) moves) s := by
  obtain ⟨-, rfl⟩ := Channel.eq_of_new? opened
  refine run_induction (P := fun moves => Accounts (records _ moves) (taken _ moves)) ?_ ?_ run
  · refine ⟨⟨.nil, nofun, nofun⟩, ⟨.nil, rfl, ?_, .slnil⟩, nofun⟩
    intro last index told
    cases List.mem_singleton.mp told
  · intro moves s m t run accounts h
    rw [records, taken, along_concat run h, along_concat run h]
    exact accounts.of_step (step_of_move? h)

end

/-! ### Silence -/

/-- There is nothing new to hear: the marker is gone, or the watch knows it. -/
def Quiet (s : Vigil) : Prop :=
  s.store.value = none ∨ s.watch.remembered.version = some s.store.version

/-- Where there is nothing new to hear, a move that sets no value brings nothing new to hear, and
nothing new is voiced. -/
lemma Quiet.of_step {s t : Vigil} {m : Move} (quiet : s.Quiet) (other : ∀ value, m ≠ .set value)
    (step : Step s m t) : t.Quiet ∧ t.watch.voiced <+: s.watch.voiced := by
  cases step with
  | set value => exact absurd rfl (other value)
  | clear => exact ⟨.inl rfl, List.prefix_refl _⟩
  | hear result heard honest same step =>
      -- a marker is heard only if the record is there, and then it is known
      have known (m : Marker) (marker : Watch.Move.hear result = .hear (.marker m)) :
          s.watch.remembered.version = some m.version := by
        cases marker
        obtain ⟨value, version⟩ := MemoryStore.record_of_current (current_of_heard heard)
        rw [← version]
        refine quiet.resolve_left ?_
        rw [value]
        nofun
      refine ⟨?_, ?_⟩
      · unfold Quiet
        rw [same.value, same.version]
        refine quiet.imp_right fun remembered => ?_
        rcases step.version with still | ⟨m, marker, learned⟩
        · rw [still, remembered]
        · rw [learned, ← known m marker, remembered]
      · rcases step.voiced with less | ⟨m, marker, other, -⟩
        · exact less
        · exact absurd (known m marker) other
  | aside read other same watch =>
      unfold Quiet
      rw [same.value, same.version]
      rcases watch with idle | ⟨n, silent, step⟩
      · rw [idle]
        exact ⟨quiet, List.prefix_refl _⟩
      · refine ⟨quiet.imp_right fun remembered => ?_, ?_⟩
        · rcases step.version with still | ⟨m, rfl, -⟩
          · rw [still, remembered]
          · cases silent
        · rcases step.voiced with less | ⟨m, rfl, -, -⟩
          · exact less
          · cases silent

/-- **Where there is nothing new to hear, nothing new is voiced before the next value is set.** -/
theorem silent_of_run {s t : Vigil} {moves : List Move} (quiet : s.Quiet)
    (run : s.run? moves = some t) (unset : ∀ value, .set value ∉ moves) :
    t.watch.voiced <+: s.watch.voiced := by
  refine (of_run_among (P := fun u : Vigil => u.Quiet ∧ u.watch.voiced <+: s.watch.voiced)
    (K := fun m => ∀ value, m ≠ .set value) ?_ ⟨quiet, List.prefix_refl _⟩ run ?_).2
  · rintro u v m ⟨quiet, less⟩ other h
    obtain ⟨quiet, fewer⟩ := quiet.of_step other (step_of_move? h)
    exact ⟨quiet, fewer.trans less⟩
  · rintro m mem value rfl
    exact unset value mem

/-! ### Nothing stale, nothing invented -/

/-- What a run has said has a basis in the records. -/
structure NothingStale (start : Vigil) (moves : List Move) (s : Vigil) : Prop where
  /-- The markers taken as new ones are records that were written, in the order of the writes. -/
  written : (taken start moves).Sublist (records start moves)
  /-- Their versions rise. -/
  rising : (taken start moves).Pairwise (·.version < ·.version)
  /-- The watch has never told that the version went backwards. -/
  forwards : ∀ last index, .wentBackwards last index ∉ s.watch.told
  /-- Each of them was the record when its read ended. -/
  current : ∀ m ∈ taken start moves, ∃ before u, ComesTo move? start moves before u .hear ∧
    u.heard? = some (.marker m) ∧ u.store.current = .marker m
  /-- What is said, or being offered, are answers to them, in order. -/
  said : (s.watch.channel.accepted ++ s.watch.offered.toList).Sublist
    ((taken start moves).map (·.names start.watch.plan.node))
  /-- Once the marker is gone or known, nothing that may happen has the watch say anything more,
  unless a value is set. -/
  quiet : s.store.value = none ∨ s.watch.remembered.version = some s.store.version →
    ∀ more t, s.run? more = some t → (∀ value, .set value ∉ more) →
      t.watch.channel.accepted ++ t.watch.offered.toList <+:
        s.watch.channel.accepted ++ s.watch.offered.toList

/-- **A watch on a store in memory says nothing stale and nothing invented.**  Whatever is written,
taken away and made to fail, and however the receiver takes: the markers taken as new ones are among
the records written, in order, with rising versions; each was the record as it was when its read
ended; and only answers to them are said.  Taking the marker away and failing reads have nothing
said. -/
theorem nothing_stale {window capacity : Nat} {plan : Watch.Plan} {channel : Channel Bool}
    {moves : List Move} {s : Vigil} (opened : Channel.new? capacity = some channel)
    (run : (Vigil.new (.new window) plan channel).run? moves = some s) :
    NothingStale (.new (.new window) plan channel) moves s := by
  have accounts := accounts_of_run opened run
  have rising := accounts.took.forwards
  rw [List.isChain_iff_pairwise] at rising
  refine ⟨accounts.sublist, rising, accounts.took.told, ?_, ?_,
    fun quiet more t => silent_of_run quiet⟩
  · intro m mem
    obtain ⟨before, u, n, comes, taken⟩ := comesTo_of_mem_along run mem
    obtain ⟨rfl, heard, -⟩ := taken?_eq_some.mp taken
    exact ⟨before, u, comes, heard, current_of_heard heard⟩
  · have plan : s.watch.plan = plan := Watch.plan_of_run (watch_run run)
    rw [← Watch.voiced]
    have voiced := accounts.took.voiced
    rw [plan] at voiced
    exact voiced

/-- A record that is written again and again while the watch waits, fails to read it, and finds it
gone. -/
def rewrittenWhileWaiting : List Move :=
  [.arrive, .hear, .set "n2", .set "n1", .elapse 50, .retry, .arrive, .hear, .deliver, .arrive,
    .elapse 20, .hear, .arrive, .clear, .set "n2", .hear, .take, .failNext 1, .deliver, .arrive,
    .hear, .clear, .elapse 50, .retry, .arrive, .hear]

/-- Of these records two are taken, and both are answered. -/
theorem nothing_stale_rewrittenWhileWaiting :
    ∃ channel s, Channel.new? 1 = some channel ∧
      (Vigil.new (.new 20) ⟨"memory", "leader", "n1", 50⟩ channel).run? rewrittenWhileWaiting =
        some s ∧
      records (.new (.new 20) ⟨"memory", "leader", "n1", 50⟩ channel) rewrittenWhileWaiting =
        [⟨"n2", 1⟩, ⟨"n1", 2⟩, ⟨"n2", 4⟩] ∧
      taken (.new (.new 20) ⟨"memory", "leader", "n1", 50⟩ channel) rewrittenWhileWaiting =
        [⟨"n1", 2⟩, ⟨"n2", 4⟩] ∧
      s.watch.channel.accepted = [true, false] ∧ s.store.value = none ∧
      NothingStale (.new (.new 20) ⟨"memory", "leader", "n1", 50⟩ channel) rewrittenWhileWaiting s :=
  ⟨_, _, rfl, rfl, rfl, rfl, rfl, rfl, @nothing_stale _ 1 _ _ _ _ rfl rfl⟩

end FloatingIp.Vigil
