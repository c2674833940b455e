import FloatingIp.Proofs.Watch.Stream

/-!
# When a watch reads, and above which version

Each read of a watch follows from what the reads before it have brought (`reads_keep_pace`).  It asks
for a version above that of the last marker, whether or not there have been higher ones before, and
it waits for one as soon as there has been any marker.  It begins one delay after a read that has
found nothing, however many such reads there were in a row; after a marker it begins at once, or with
the acceptance of what the marker gave to say.

The results that are heard and the items that the channel accepts are listed with their times
(`hearings`, `acceptances`).  `Paced` says of the reads begun so far how they follow from these two
lists, and `Stands` what the watch waits for where the next one has not begun; every move keeps both.
-/

namespace FloatingIp.Watch

/-! ### What happens when -/

/-- The result of a read, with the time at which it is heard. -/
structure Hearing where
  /-- When it is heard. -/
  time : Nat
  /-- What the read results in. -/
  result : ReadResult
  deriving DecidableEq

/-- An item that the channel accepts, with the time at which it does. -/
structure Acceptance where
  /-- When it is accepted. -/
  time : Nat
  /-- What is accepted. -/
  leader : Bool
  deriving DecidableEq

/-- What is heard in a move. -/
def hearing? (w : Watch) : Move → Option Hearing
  | .hear result => some ⟨w.now, result⟩
  | _ => none

/-- What is accepted in a move. -/
def acceptance? (w : Watch) : Move → Option Acceptance
  | .deliver => w.offered.map fun leader => ⟨w.now, leader⟩
  | _ => none

/-- What is heard in a run, in order. -/
def hearings (w : Watch) (moves : List Move) : List Hearing :=
  along move? hearing? w moves

/-- What is accepted in a run, in order. -/
def acceptances (w : Watch) (moves : List Move) : List Acceptance :=
  along move? acceptance? w moves

/-- The results without their times. -/
def results (hs : List Hearing) : List ReadResult :=
  hs.map (·.result)

/-- The reads that have begun, in order. -/
def begun (w : Watch) : List ReadStart :=
  w.reads.reverse

/-- Results of some hearings and then one more. -/
lemma results_concat (hs : List Hearing) (h : Hearing) :
    results (hs ++ [h]) = results hs ++ [h.result] :=
  List.map_append

/-- The hearings of a run bring the results that its moves bring. -/
lemma results_hearings {w v : Watch} {moves : List Move} (run : w.run? moves = some v) :
    results (w.hearings moves) = heard moves := by
  refine run_induction (P := fun moves _ => results (w.hearings moves) = heard moves) rfl ?_ run
  intro moves u m t made before h
  rw [hearings, along_concat made h, heard_concat, ← before, results, List.map_append]
  congr 1
  cases m <;> rfl

/-! ### The wait index -/

/-- The wait index after some results: the version of the last marker, but at least one, or zero
where there is no marker among them. -/
def indexAfter (results : List ReadResult) : Nat :=
  match (markers results).getLast? with
  | some m => max 1 m.version
  | none => 0

/-- A further marker sets the index, to a higher or a lower one. -/
lemma indexAfter_concat_marker (results : List ReadResult) (m : Marker) :
    indexAfter (results ++ [.marker m]) = max 1 m.version := by
  have last : (markers (results ++ [.marker m])).getLast? = some m := by
    rw [markers_concat]
    exact List.getLast?_concat
  unfold indexAfter
  rw [last]

/-- A further result without a marker leaves the index. -/
lemma indexAfter_concat_of_none (results : List ReadResult) {r : ReadResult}
    (nothing : r.marker? = none) : indexAfter (results ++ [r]) = indexAfter results := by
  unfold indexAfter
  rw [markers_concat, nothing, Option.toList_none, List.append_nil]

/-- The index is zero only as long as there is no marker. -/
lemma indexAfter_eq_zero {results : List ReadResult} :
    indexAfter results = 0 ↔ markers results = [] := by
  unfold indexAfter
  split
  · rename_i m last
    apply iff_of_false
    · omega
    · intro none
      rw [none] at last
      cases last
  · rename_i none
    exact iff_of_true rfl (List.getLast?_eq_none_iff.mp none)

/-- In every run the version remembered is that of the last marker heard. -/
lemma version_of_run {plan : Plan} {channel : Channel Bool} {moves : List Move} {w : Watch}
    (run : (Watch.new plan channel).run? moves = some w) :
    w.remembered.version = (markers (heard moves)).getLast?.map Marker.version := by
  refine run_induction (P := fun moves w =>
    w.remembered.version = (markers (heard moves)).getLast?.map Marker.version) rfl ?_ run
  intro moves w m v _ before h
  have step := step_of_move? h
  rw [heard_concat]
  by_cases hears : ∃ marker, m = .hear (.marker marker)
  · obtain ⟨marker, rfl⟩ := hears
    show _ = (markers (heard moves ++ [.marker marker])).getLast?.map Marker.version
    rw [step.learns, markers_concat]
    simp [ReadResult.marker?]
  · have still : v.remembered.version = w.remembered.version :=
      step.version.resolve_right fun ⟨marker, same, _⟩ => hears ⟨marker, same⟩
    have nothing : markers (heard moves ++ m.result?.toList) = markers (heard moves) := by
      cases m with
      | hear result =>
          cases result with
          | marker marker => exact absurd ⟨marker, rfl⟩ hears
          | _ => simp [Move.result?, markers_concat, ReadResult.marker?]
      | _ => simp [Move.result?]
    rw [still, before, nothing]

/-- **In every run the wait index is that after the results heard.** -/
theorem waitIndex_of_run {plan : Plan} {channel : Channel Bool} {moves : List Move} {w : Watch}
    (empty : channel.accepted = []) (run : (Watch.new plan channel).run? moves = some w) :
    w.remembered.waitIndex = indexAfter (heard moves) := by
  rw [(keeps_of_run empty run).index, version_of_run run, indexAfter]
  cases (markers (heard moves)).getLast? with
  | none => rfl
  | some m => exact Nat.max_comm m.version 1

/-! ### How reads follow from what was heard and accepted -/

/-- When the read after the `k`-th one begins, by what the `k`-th one has brought. -/
inductive Resumes (plan : Plan) (hs : List Hearing) (as : List Acceptance) (k : Nat) : Nat → Prop where
  /-- Nothing was found: it begins after a pause. -/
  | pause {h : Hearing} (heard : hs[k]? = some h) (nothing : h.result.marker? = none) :
      Resumes plan hs as k (h.time + plan.retryDelay)
  /-- A marker gave nothing to say: it begins at once. -/
  | silent {h : Hearing} {m : Marker} (heard : hs[k]? = some h) (marker : h.result = .marker m)
      (same : sayings plan.node (results (hs.take (k + 1))) =
        sayings plan.node (results (hs.take k))) :
      Resumes plan hs as k h.time
  /-- A marker gave something to say: it begins as that is accepted. -/
  | said {h : Hearing} {m : Marker} {a : Acceptance} (heard : hs[k]? = some h)
      (marker : h.result = .marker m)
      (gives : sayings plan.node (results (hs.take (k + 1))) =
        sayings plan.node (results (hs.take k)) ++ [a.leader])
      (accepted : as[(sayings plan.node (results (hs.take k))).length]? = some a) :
      Resumes plan hs as k a.time

/-- What follows from the past follows from it later on. -/
lemma Resumes.further {plan : Plan} {hs : List Hearing} {as : List Acceptance} {k time : Nat}
    (resumes : Resumes plan hs as k time) (more : List Hearing) (others : List Acceptance) :
    Resumes plan (hs ++ more) (as ++ others) k time := by
  have later {α : Type} {l : List α} {i : Nat} {a : α} (there : l[i]? = some a) (l' : List α) :
      (l ++ l')[i]? = some a := by
    obtain ⟨inside, -⟩ := List.getElem?_eq_some_iff.mp there
    rw [List.getElem?_append_left inside, there]
  have early {h : Hearing} (heard : hs[k]? = some h) :
      (hs ++ more).take k = hs.take k ∧ (hs ++ more).take (k + 1) = hs.take (k + 1) := by
    obtain ⟨inside, -⟩ := List.getElem?_eq_some_iff.mp heard
    exact ⟨List.take_append_of_le_length (Nat.le_of_lt inside),
      List.take_append_of_le_length inside⟩
  cases resumes with
  | pause heard nothing => exact .pause (later heard more) nothing
  | silent heard marker same =>
      obtain ⟨before, after⟩ := early heard
      apply Resumes.silent (later heard more) marker
      rw [before, after, same]
  | said heard marker gives accepted =>
      obtain ⟨before, after⟩ := early heard
      apply Resumes.said (later heard more) marker
      · rw [before, after, gives]
      · rw [before]
        exact later accepted others

/-- Reads that have begun follow from what was heard and accepted. -/
structure Paced (plan : Plan) (hs : List Hearing) (as : List Acceptance) (rs : List ReadStart) :
    Prop where
  /-- Each is consistent, and asks for a version above the index after the results before it. -/
  options : ∀ (k : Nat) (r : ReadStart), rs[k]? = some r →
    r.options = ⟨true, indexAfter (results (hs.take k))⟩
  /-- Each but the first begins when the one before it lets it. -/
  resumes : ∀ (k : Nat) (r : ReadStart), rs[k + 1]? = some r → Resumes plan hs as k r.time
  /-- There is at most one read under way. -/
  bound : rs.length ≤ hs.length + 1

/-- What is heard and accepted later changes nothing about the reads before. -/
lemma Paced.further {plan : Plan} {hs : List Hearing} {as : List Acceptance} {rs : List ReadStart}
    (paced : Paced plan hs as rs) (more : List Hearing) (others : List Acceptance) :
    Paced plan (hs ++ more) (as ++ others) rs := by
  refine ⟨?_, ?_, ?_⟩
  · intro k r there
    have bound := paced.bound
    obtain ⟨inside, -⟩ := List.getElem?_eq_some_iff.mp there
    rw [paced.options k r there, List.take_append_of_le_length (by omega)]
  · intro k r there
    exact (paced.resumes k r there).further more others
  · have bound := paced.bound
    rw [List.length_append]
    omega

/-- A read that begins after a result, when that result lets it, follows as well. -/
lemma Paced.begin {plan : Plan} {hs : List Hearing} {h : Hearing} {as : List Acceptance}
    {rs : List ReadStart} {time : Nat} (paced : Paced plan (hs ++ [h]) as rs)
    (answered : rs.length = hs.length + 1) (resumes : Resumes plan (hs ++ [h]) as hs.length time) :
    Paced plan (hs ++ [h]) as (rs ++ [⟨time, true, indexAfter (results (hs ++ [h]))⟩]) := by
  have last {k : Nat} {r : ReadStart} {start : ReadStart} (there : (rs ++ [start])[k]? = some r) :
      rs[k]? = some r ∨ k = hs.length + 1 ∧ r = start := by
    by_cases inside : k < rs.length
    · rw [List.getElem?_append_left inside] at there
      exact .inl there
    · rw [List.getElem?_append_right (Nat.le_of_not_lt inside)] at there
      obtain ⟨first, same⟩ := List.getElem?_eq_some_iff.mp there
      rw [List.length_singleton] at first
      exact .inr ⟨by omega, by simpa using same.symm⟩
  refine ⟨?_, ?_, ?_⟩
  · intro k r there
    rcases last there with before | ⟨rfl, rfl⟩
    · exact paced.options k r before
    · rw [List.take_of_length_le (by simp)]
  · intro k r there
    rcases last there with before | ⟨same, rfl⟩
    · exact paced.resumes k r before
    · rw [Nat.succ_inj.mp same]
      exact resumes
  · simp [answered]

/-! ### What a watch waits for -/

/-- What a watch waits for, by its phase, at a time and after a number of reads. -/
inductive Stands (plan : Plan) (now reads : Nat) : List Hearing → List Acceptance → Phase → Prop where
  /-- The last read is under way. -/
  | reading {hs : List Hearing} {as : List Acceptance} (under : reads = hs.length + 1) :
      Stands plan now reads hs as .reading
  /-- The last read has found nothing, and its pause is not overslept. -/
  | pausing {hs : List Hearing} {as : List Acceptance} {h : Hearing} {wakeAt : Nat}
      (answered : reads = hs.length + 1) (nothing : h.result.marker? = none)
      (due : wakeAt = h.time + plan.retryDelay) (inTime : now ≤ wakeAt) :
      Stands plan now reads (hs ++ [h]) as (.pausing wakeAt)
  /-- The last read has found a marker that gives something to say, and only what was to say before
  has been accepted. -/
  | offering {hs : List Hearing} {as : List Acceptance} {h : Hearing} {m : Marker} {leader : Bool}
      (answered : reads = hs.length + 1) (marker : h.result = .marker m)
      (gives : sayings plan.node (results (hs ++ [h])) =
        sayings plan.node (results hs) ++ [leader])
      (waits : as.map (·.leader) = sayings plan.node (results hs)) :
      Stands plan now reads (hs ++ [h]) as (.offering leader)
  /-- The watch has ended. -/
  | ended {hs : List Hearing} {as : List Acceptance} {p : Phase} (ended : p.isRunning = false) :
      Stands plan now reads hs as p

/-- A watch that reads has its last read under way. -/
lemma Stands.under {plan : Plan} {now reads : Nat} {hs : List Hearing} {as : List Acceptance}
    {p : Phase} (stands : Stands plan now reads hs as p) (reading : p = .reading) :
    reads = hs.length + 1 := by
  cases stands with
  | reading under => exact under
  | pausing _ _ _ _ => cases reading
  | offering _ _ _ _ => cases reading
  | ended ended =>
      rw [reading] at ended
      cases ended

/-- A watch goes on waiting as time passes, unless it pauses and its pause is over. -/
lemma Stands.later {plan : Plan} {now later reads : Nat} {hs : List Hearing}
    {as : List Acceptance} {p : Phase} (stands : Stands plan now reads hs as p)
    (early : ∀ wakeAt, p = .pausing wakeAt → later ≤ wakeAt) :
    Stands plan later reads hs as p := by
  cases stands with
  | reading under => exact .reading under
  | pausing answered nothing due _ => exact .pausing answered nothing due (early _ rfl)
  | offering answered marker gives waits => exact .offering answered marker gives waits
  | ended ended => exact .ended ended

/-- Its reads follow from what a watch has heard and had accepted, and so does what it waits for. -/
structure Course (hs : List Hearing) (as : List Acceptance) (w : Watch) : Prop where
  /-- The reads follow. -/
  paced : Paced w.plan hs as w.begun
  /-- The watch waits. -/
  stands : Stands w.plan w.now w.begun.length hs as w.phase

/-- A read that is begun comes last. -/
lemma begun_read (w : Watch) :
    w.read.begun = w.begun ++ [⟨w.now, true, w.remembered.waitIndex⟩] :=
  List.reverse_cons

/-- Learning a marker takes no time. -/
@[simp] lemma now_learn (w : Watch) (m : Marker) : (w.learn m).now = w.now := by
  obtain ⟨told, same⟩ := w.learn_eq m
  rw [same]

/-- Learning a marker begins no read. -/
@[simp] lemma begun_learn (w : Watch) (m : Marker) : (w.learn m).begun = w.begun := by
  rw [begun, begun, reads_learn]

/-- A watch that begins a read when it may is on course. -/
lemma Course.begin {hs : List Hearing} {h : Hearing} {as : List Acceptance} {w v : Watch}
    {time : Nat} (paced : Paced w.plan (hs ++ [h]) as w.begun)
    (answered : w.begun.length = hs.length + 1) (plan : v.plan = w.plan) (reading : v.phase = .reading)
    (begun : v.begun = w.begun ++ [⟨time, true, v.remembered.waitIndex⟩])
    (index : v.remembered.waitIndex = indexAfter (results (hs ++ [h])))
    (resumes : Resumes w.plan (hs ++ [h]) as hs.length time) : Course (hs ++ [h]) as v := by
  rw [index] at begun
  constructor
  · rw [plan, begun]
    exact paced.begin answered resumes
  · rw [reading]
    apply Stands.reading
    rw [begun, List.length_append, answered, List.length_append]
    rfl

section Hearing

variable {hs : List Hearing} {as : List Acceptance} {w v : Watch} {r : ReadResult}

/-- A watch that has found nothing is on course with a pause. -/
lemma Course.of_nothing (course : Course hs as w) (reading : w.phase = .reading)
    (nothing : r.marker? = none) (plan : v.plan = w.plan) (now : v.now = w.now)
    (begun : v.begun = w.begun) (phase : v.phase = .pausing (w.now + w.plan.retryDelay)) :
    Course (hs ++ [⟨w.now, r⟩]) as v := by
  constructor
  · rw [plan, begun, ← List.append_nil as]
    exact course.paced.further _ []
  · rw [plan, now, begun, phase]
    exact .pausing (course.stands.under reading) nothing rfl (Nat.le_add_right _ _)

/-- What there was to say to a watch that reads has been accepted. -/
lemma Tells.sayings_of_step {m : Move} (tells : Tells (results hs) w) (keeps : w.Keeps)
    (reading : w.phase = .reading) (step : Step w m v) (running : v.phase.isRunning = true) :
    v.channel.accepted ++ v.offered.toList = sayings w.plan.node (results hs ++ m.result?.toList) ∧
      w.channel.accepted = sayings w.plan.node (results hs) := by
  obtain ⟨unsaid, said, offers⟩ := (tells.of_step keeps step).said
  rw [offers running, step.plan] at said
  exact ⟨said, (tells.said_of_reading keeps reading).1⟩

/-- A watch that has found a marker which gives nothing to say is on course with a new read. -/
lemma Course.of_silent {m : Marker} (course : Course hs as w) (tells : Tells (results hs) w)
    (keeps : w.Keeps) (reading : w.phase = .reading) (step : Step w (.hear (.marker m)) v)
    (reads : v.phase = .reading) (channel : v.channel = w.channel)
    (begun : v.begun = w.begun ++ [⟨w.now, true, v.remembered.waitIndex⟩])
    (index : v.remembered.waitIndex = indexAfter (results (hs ++ [⟨w.now, .marker m⟩]))) :
    Course (hs ++ [⟨w.now, .marker m⟩]) as v := by
  have answered := course.stands.under reading
  obtain ⟨after, before⟩ := tells.sayings_of_step keeps reading step (by rw [reads]; rfl)
  rw [offered_of_reading reads, Option.toList_none, List.append_nil, channel, before] at after
  have paced := course.paced.further [⟨w.now, .marker m⟩] []
  rw [List.append_nil] at paced
  refine Course.begin paced answered step.plan reads begun index ?_
  apply Resumes.silent (h := ⟨w.now, .marker m⟩) List.getElem?_concat_length rfl
  rw [List.take_left, List.take_of_length_le (by simp), results_concat]
  exact after.symm

end Hearing

/-- Every move keeps a watch on course. -/
lemma Course.of_step {hs : List Hearing} {as : List Acceptance} {w v : Watch} {m : Move}
    (course : Course hs as w) (tells : Tells (results hs) w) (keeps : w.Keeps)
    (said : as.map (·.leader) = w.channel.accepted) (step : Step w m v)
    (index : v.remembered.waitIndex = indexAfter (results (hs ++ (w.hearing? m).toList))) :
    Course (hs ++ (w.hearing? m).toList) (as ++ (w.acceptance? m).toList) v := by
  have idle (quiet : w.hearing? m = none) (silent : w.acceptance? m = none)
      (kept : Course hs as v) :
      Course (hs ++ (w.hearing? m).toList) (as ++ (w.acceptance? m).toList) v := by
    rw [quiet, silent, Option.toList_none, Option.toList_none, List.append_nil, List.append_nil]
    exact kept
  have heard {h : Hearing} (hears : w.hearing? m = some h) (silent : w.acceptance? m = none)
      (kept : Course (hs ++ [h]) as v) :
      Course (hs ++ (w.hearing? m).toList) (as ++ (w.acceptance? m).toList) v := by
    rw [hears, silent, Option.toList_none, List.append_nil]
    exact kept
  cases step with
  | absent reading => exact heard rfl rfl (course.of_nothing reading rfl rfl rfl rfl rfl)
  | failed reading fault => exact heard rfl rfl (course.of_nothing reading rfl rfl rfl rfl rfl)
  | known reading marker same =>
      have step := Step.known reading marker same
      exact heard rfl rfl
        (course.of_silent tells keeps reading step rfl rfl w.begun_read index)
  | repeated reading marker other still =>
      have step := Step.repeated reading marker other still
      have begun : (((w.learn marker).tell (.rewritten marker)).read).begun =
          w.begun ++ [⟨w.now, true, (w.remembered.learn marker).waitIndex⟩] := by
        rw [begun_read, ← begun_learn w marker, ← now_learn w marker]
        rfl
      exact heard rfl rfl
        (course.of_silent tells keeps reading step rfl (channel_learn w marker) begun index)
  | news reading marker other change =>
      have step := Step.news reading marker other change
      obtain ⟨after, before⟩ := tells.sayings_of_step keeps reading step rfl
      have accepted : (w.learn marker).channel.accepted = sayings w.plan.node (results hs) := by
        rw [channel_learn, before]
      refine heard rfl rfl ⟨?_, ?_⟩
      · show Paced (w.learn marker).plan _ _ (w.learn marker).begun
        rw [plan_learn, begun_learn, ← List.append_nil as]
        exact course.paced.further _ []
      · show Stands (w.learn marker).plan (w.learn marker).now (w.learn marker).begun.length _ _ _
        rw [plan_learn, begun_learn]
        apply Stands.offering (course.stands.under reading) rfl
        · rw [results_concat, ← accepted]
          exact after.symm
        · rw [said, before]
  | retry due =>
      have stands := course.stands
      rw [due] at stands
      cases stands with
      | ended ended => cases ended
      | @pausing hs as h wakeAt answered nothing wakes inTime =>
          refine idle rfl rfl (Course.begin course.paced answered rfl rfl w.begun_read ?_ ?_)
          · simpa [hearing?] using index
          · rw [wakes]
            exact .pause List.getElem?_concat_length nothing
  | deliver leader offering channel put =>
      have stands := course.stands
      rw [offering] at stands
      have accepts : w.acceptance? .deliver = some ⟨w.now, leader⟩ := by
        simp [acceptance?, offered, offering]
      cases stands with
      | ended ended => cases ended
      | @offering hs as h m leader answered marker gives waits =>
          have paced := course.paced.further [] [⟨w.now, leader⟩]
          rw [List.append_nil] at paced
          rw [accepts]
          simp only [hearing?, Option.toList_none, Option.toList_some, List.append_nil] at index ⊢
          refine Course.begin paced answered rfl rfl (begun_read _) index ?_
          apply Resumes.said List.getElem?_concat_length marker (a := ⟨w.now, leader⟩)
          · rw [List.take_left, List.take_of_length_le (by simp), gives]
          · rw [List.take_left, ← waits, List.length_map]
            exact List.getElem?_concat_length
  | refuse leader offering gone =>
      exact idle rfl rfl ⟨course.paced, .ended rfl⟩
  | stop off running => exact idle rfl rfl ⟨course.paced, .ended rfl⟩
  | crash reading => exact idle rfl rfl ⟨course.paced, .ended rfl⟩
  | take leader channel taken => exact idle rfl rfl ⟨course.paced, course.stands⟩
  | leave present => exact idle rfl rfl ⟨course.paced, course.stands⟩
  | cancel active => exact idle rfl rfl ⟨course.paced, course.stands⟩
  | elapse millis early =>
      refine idle rfl rfl ⟨course.paced, course.stands.later fun wakeAt pausing => ?_⟩
      simpa [mayElapse, pausing] using early

/-- The channel accepts something in the move that delivers it, and in no other. -/
lemma Step.accepted {w v : Watch} {m : Move} (step : Step w m v) :
    v.channel.accepted = w.channel.accepted ++ (w.acceptance? m).toList.map (·.leader) := by
  have still (silent : w.acceptance? m = none) (same : v.channel.accepted = w.channel.accepted) :
      v.channel.accepted = w.channel.accepted ++ (w.acceptance? m).toList.map (·.leader) := by
    rw [silent, same]
    exact (List.append_nil _).symm
  cases step with
  | repeated _ m _ _ => exact still rfl (congrArg Channel.accepted (w.channel_learn m))
  | news _ m _ _ => exact still rfl (congrArg Channel.accepted (w.channel_learn m))
  | deliver leader offering channel put =>
      have accepts : w.acceptance? .deliver = some ⟨w.now, leader⟩ := by
        simp [acceptance?, offered, offering]
      rw [accepts]
      exact Channel.accepted_of_put? put
  | take _ channel taken => exact still rfl (Channel.accepted_of_take? taken)
  | _ => exact still rfl rfl

/-- In a run the channel accepts what it is listed to accept. -/
lemma leaders_acceptances {start w : Watch} {moves : List Move}
    (empty : start.channel.accepted = []) (run : start.run? moves = some w) :
    (start.acceptances moves).map (·.leader) = w.channel.accepted := by
  refine run_induction (P := fun moves w =>
    (start.acceptances moves).map (·.leader) = w.channel.accepted) ?_ ?_ run
  · rw [empty]
    rfl
  · intro moves w m v made before h
    rw [acceptances, along_concat made h, List.map_append, (step_of_move? h).accepted, ← before]
    rfl

/-- **In every run a watch is on course.** -/
theorem course_of_run {plan : Plan} {channel : Channel Bool} {moves : List Move} {w : Watch}
    (empty : channel.accepted = []) (run : (Watch.new plan channel).run? moves = some w) :
    Course ((Watch.new plan channel).hearings moves) ((Watch.new plan channel).acceptances moves)
      w := by
  refine run_induction (P := fun moves w => Course ((Watch.new plan channel).hearings moves)
    ((Watch.new plan channel).acceptances moves) w) ?_ ?_ run
  · refine ⟨⟨?_, nofun, Nat.le_refl _⟩, .reading rfl⟩
    intro k r there
    cases k with
    | zero =>
        cases there
        rfl
    | succ k => cases there
  · intro moves w m v made course h
    have further : (Watch.new plan channel).run? (moves ++ [m]) = some v :=
      run_concat.mpr ⟨w, made, h⟩
    have tells := tells_of_run empty made
    have index := waitIndex_of_run empty further
    rw [← results_hearings made] at tells
    rw [← results_hearings further, hearings, along_concat made h] at index
    rw [hearings, acceptances, along_concat made h, along_concat made h]
    exact course.of_step tells (keeps_of_run empty made) (leaders_acceptances empty made)
      (step_of_move? h) index

/-! ### Reads keep pace with what they bring -/

/-- How the reads of a run follow from one another. -/
structure KeepsPace (plan : Plan) (hs : List Hearing) (as : List Acceptance) (w : Watch) : Prop where
  /-- The channel has accepted what is listed. -/
  accepted : as.map (·.leader) = w.channel.accepted
  /-- Every read is consistent, and waits for a version above the index after the results before
  it. -/
  options : ∀ (k : Nat) (r : ReadStart), w.begun[k]? = some r →
    r.options = ⟨true, indexAfter ((results hs).take k)⟩
  /-- It does not wait only as long as there has been no marker. -/
  waits : ∀ (k : Nat) (r : ReadStart), w.begun[k]? = some r →
    (r.options.waitIndex = 0 ↔ markers ((results hs).take k) = [])
  /-- A marker sets the index of the next read, be it lower than before; nothing else changes it. -/
  follows : ∀ (k : Nat) (r next : ReadStart), w.begun[k]? = some r → w.begun[k + 1]? = some next →
    ∃ h, hs[k]? = some h ∧ next.options.waitIndex =
      (h.result.marker?.map fun m => max 1 m.version).getD r.options.waitIndex
  /-- The next read begins when the one before it lets it. -/
  resumes : ∀ (k : Nat) (next : ReadStart), w.begun[k + 1]? = some next →
    Resumes plan hs as k next.time
  /-- Where it has not begun the watch waits. -/
  stands : Stands plan w.now w.begun.length hs as w.phase
  /-- A pause can be slept out, and then the next read begins. -/
  retries : ∀ wakeAt, w.phase = .pausing wakeAt →
    ∃ v, w.run? [.elapse (wakeAt - w.now), .retry] = some v ∧
      v.begun = w.begun ++ [⟨wakeAt, true, indexAfter (results hs)⟩]
  /-- What is offered can be accepted where there is room, and then the next read begins. -/
  delivers : ∀ leader, w.phase = .offering leader → w.channel.accepts = true →
    ∃ v, w.move? .deliver = some v ∧
      v.begun = w.begun ++ [⟨w.now, true, indexAfter (results hs)⟩]

/-- The index of a read follows from that of the read before it and from what that one found. -/
lemma Paced.follows {plan : Plan} {hs : List Hearing} {as : List Acceptance} {rs : List ReadStart}
    (paced : Paced plan hs as rs) {k : Nat} {r next : ReadStart} (there : rs[k]? = some r)
    (after : rs[k + 1]? = some next) :
    ∃ h, hs[k]? = some h ∧ next.options.waitIndex =
      (h.result.marker?.map fun m => max 1 m.version).getD r.options.waitIndex := by
  obtain ⟨inside, -⟩ := List.getElem?_eq_some_iff.mp after
  have heard : k < hs.length := by
    have bound := paced.bound
    omega
  refine ⟨hs[k], List.getElem?_eq_getElem heard, ?_⟩
  rw [paced.options _ _ after, paced.options _ _ there, List.take_add_one,
    List.getElem?_eq_getElem heard, Option.toList_some, results_concat]
  cases found : hs[k].result with
  | marker m => exact indexAfter_concat_marker _ m
  | absent => exact indexAfter_concat_of_none _ rfl
  | failed fault => exact indexAfter_concat_of_none _ rfl

/-- A pause can be slept out. -/
lemma exists_retry {w : Watch} {wakeAt : Nat} (pausing : w.phase = .pausing wakeAt)
    (inTime : w.now ≤ wakeAt) :
    w.run? [.elapse (wakeAt - w.now), .retry] = some ({ w with now := wakeAt } : Watch).read := by
  have wait : w.now + (wakeAt - w.now) = wakeAt := Nat.add_sub_cancel' inTime
  have elapse : w.move? (.elapse (wakeAt - w.now)) = some { w with now := wakeAt } := by
    simp [move?, mayElapse, pausing, wait]
  have retry : ({ w with now := wakeAt } : Watch).move? .retry =
      some ({ w with now := wakeAt } : Watch).read := if_pos pausing
  exact run_cons.mpr ⟨_, elapse, run_cons.mpr ⟨_, retry, rfl⟩⟩

/-- **Reads keep pace with what they bring.**  Whatever results a store gives, there is a run in
which the watch hears them all and reads on.  In every run every read is consistent; its wait index
is zero before the first marker and from then on the version of the last one, but at least one.
After a read that has found nothing the next one begins one delay later, neither before nor after;
after a marker it begins at once, or, where the marker gave something to say, as that is accepted. -/
theorem reads_keep_pace {plan : Plan} {capacity : Nat} {channel : Channel Bool}
    (opened : Channel.new? capacity = some channel) :
    (∀ results, ∃ moves w, Calmly (Watch.new plan channel) moves results w ∧
        w.phase = .reading) ∧
      ∀ moves w, (Watch.new plan channel).run? moves = some w →
        results ((Watch.new plan channel).hearings moves) = heard moves ∧
        KeepsPace plan ((Watch.new plan channel).hearings moves)
          ((Watch.new plan channel).acceptances moves) w := by
  constructor
  · intro results
    have undisturbed := undisturbed_new plan opened
    obtain ⟨-, rfl⟩ := Channel.eq_of_new? opened
    obtain ⟨moves, w, calmly, reading, -⟩ := exists_calm_run undisturbed rfl rfl results
    exact ⟨moves, w, calmly, reading⟩
  · intro moves w run
    obtain ⟨-, rfl⟩ := Channel.eq_of_new? opened
    have course := course_of_run rfl run
    have index := waitIndex_of_run rfl run
    rw [← results_hearings run] at index
    obtain ⟨paced, stands⟩ := course
    rw [plan_of_run run] at paced stands
    have options (k : Nat) (r : ReadStart) (there : w.begun[k]? = some r) := by
      have options := paced.options k r there
      rwa [results, List.map_take] at options
    refine ⟨results_hearings run, leaders_acceptances rfl run, options, ?_, ?_, paced.resumes,
      stands, ?_, ?_⟩
    · intro k r there
      rw [options k r there]
      exact indexAfter_eq_zero
    · intro k r next there after
      exact paced.follows there after
    · intro wakeAt pausing
      have inTime : w.now ≤ wakeAt := by
        rw [pausing] at stands
        generalize (Watch.new plan _).hearings moves = hs at stands
        cases stands with
        | pausing _ _ _ inTime => exact inTime
        | ended ended => cases ended
      refine ⟨_, exists_retry pausing inTime, ?_⟩
      rw [begun_read, ← index]
      rfl
    · intro leader offering room
      refine ⟨_, move?_deliver room offering, ?_⟩
      rw [begun_read, ← index]
      rfl

/-- A watch whose store has no marker, fails, has a marker of version zero, has it again, moves on
and is set back, while the receiver is slow. -/
def setBackWhileFull : List Move :=
  [.elapse 3, .hear .absent, .elapse 400, .elapse 600, .retry, .elapse 2,
    .hear (.failed (.store .injected)), .elapse 1000, .retry, .hear (.marker ⟨"n1", 0⟩), .elapse 4,
    .deliver, .elapse 7, .hear (.marker ⟨"n1", 0⟩), .hear (.marker ⟨"n1", 9⟩), .elapse 1,
    .hear (.marker ⟨"n2", 4⟩), .elapse 5, .take, .deliver, .elapse 6, .hear .absent]

/-- The reads of this watch, and the pause that it is in at last. -/
theorem reads_keep_pace_setBackWhileFull :
    ∃ channel w, Channel.new? 1 = some channel ∧
      (Watch.new ⟨"memory", "leader", "n1", 1000⟩ channel).run? setBackWhileFull = some w ∧
      w.begun = [⟨0, true, 0⟩, ⟨1003, true, 0⟩, ⟨2005, true, 0⟩, ⟨2009, true, 1⟩,
        ⟨2016, true, 1⟩, ⟨2016, true, 9⟩, ⟨2022, true, 4⟩] ∧
      w.phase = .pausing 3028 ∧
      KeepsPace ⟨"memory", "leader", "n1", 1000⟩
        ((Watch.new ⟨"memory", "leader", "n1", 1000⟩ channel).hearings setBackWhileFull)
        ((Watch.new ⟨"memory", "leader", "n1", 1000⟩ channel).acceptances setBackWhileFull) w :=
  ⟨_, _, rfl, rfl, rfl, rfl, ((@reads_keep_pace _ 1 _ rfl).2 setBackWhileFull _ rfl).2⟩

end FloatingIp.Watch
