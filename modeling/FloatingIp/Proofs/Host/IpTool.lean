import FloatingIp.Host.IpTool
import Mathlib.Tactic.Lemma

/-!
# What conversations come to

A conversation that is led with a machine is judged by the commands that it runs, its result and the
machine's state after it (`Does`).  Conversations that are put together are judged by their parts, a
command by what the machine answers to it.  With these rules each conversation about the address is
followed once, for every answer that its commands may get.

A change is then classified by what became of its commands, whatever that was (`change_is_judged`):
one command attempts the change, a listing follows only if it met the wrong state, and no failure
passes for a success unless that listing confirms the state that was wanted.
-/

namespace FloatingIp.Host

variable {ν α β σ : Type}

/-! ### Conversations -/

namespace Dialogue

/-- Led with a machine from a state, a conversation runs commands, has a result and leaves a state
for which `post` holds. -/
def Does (machine : σ → Command → Outcome × σ) (s : σ) (d : Dialogue ν α)
    (post : List (Command × Outcome) → α → σ → Prop) : Prop :=
  post (d.lead machine s).2.1.commands (d.lead machine s).1 (d.lead machine s).2.2

/-- Led with a machine from a state, a conversation has a result and leaves a state for which `post`
holds. -/
def Ends (machine : σ → Command → Outcome × σ) (s : σ) (d : Dialogue ν α) (post : α → σ → Prop) :
    Prop :=
  post (d.lead machine s).1 (d.lead machine s).2.2

variable {machine : σ → Command → Outcome × σ} {s : σ}

/-- A conversation that is over runs no command and has its result. -/
@[simp] lemma does_done {a : α} {post : List (Command × Outcome) → α → σ → Prop} :
    (done a : Dialogue ν α).Does machine s post ↔ post [] a s :=
  Iff.rfl

/-- A notice changes nothing. -/
@[simp] lemma does_note {n : ν} {d : Dialogue ν α}
    {post : List (Command × Outcome) → α → σ → Prop} :
    (note n d).Does machine s post ↔ d.Does machine s post :=
  Iff.rfl

/-- After a command the conversation goes on from its outcome. -/
lemma does_run {c : Command} {k : Outcome → Dialogue ν α}
    {post : List (Command × Outcome) → α → σ → Prop} {o : Outcome} {s' : σ}
    (answer : machine s c = (o, s')) :
    (run c k).Does machine s post ↔
      (k o).Does machine s' fun commands => post ((c, o) :: commands) := by
  unfold Does
  simp only [lead, answer]

/-- What holds of all that may be done holds if it follows from what is known. -/
lemma Does.mono {d : Dialogue ν α} {mid post : List (Command × Outcome) → α → σ → Prop}
    (does : d.Does machine s mid)
    (follows : ∀ commands a s', mid commands a s' → post commands a s') :
    d.Does machine s post :=
  follows _ _ _ does

/-- A conversation goes on from its result, with further commands. -/
lemma Does.bind {d : Dialogue ν α} {f : α → Dialogue ν β}
    {mid : List (Command × Outcome) → α → σ → Prop}
    {post : List (Command × Outcome) → β → σ → Prop} (does : d.Does machine s mid)
    (next : ∀ commands a s', mid commands a s' →
      (f a).Does machine s' fun more => post (commands ++ more)) :
    (d.bind f).Does machine s post := by
  induction d generalizing s mid post with
  | done a => exact next [] a s does
  | note n d ih => exact ih does next
  | run c k ih =>
      have answer : machine s c = ((machine s c).1, (machine s c).2) := rfl
      rw [Dialogue.bind, does_run answer]
      rw [does_run answer] at does
      exact ih _ does fun commands a s' holds => next _ a s' holds

/-- Where the commands do not matter, the result and the state are left. -/
lemma Does.ends {d : Dialogue ν α} {mid : List (Command × Outcome) → α → σ → Prop}
    {post : α → σ → Prop} (does : d.Does machine s mid)
    (follows : ∀ commands a s', mid commands a s' → post a s') : d.Ends machine s post :=
  follows _ _ _ does

/-- What is known of result and state alone is known whatever the commands are. -/
lemma Ends.does {d : Dialogue ν α} {post : α → σ → Prop} (ends : d.Ends machine s post) :
    d.Does machine s fun _ => post :=
  ends

/-- What holds of all results holds if it follows from what is known. -/
lemma Ends.mono {d : Dialogue ν α} {mid post : α → σ → Prop} (ends : d.Ends machine s mid)
    (follows : ∀ a s', mid a s' → post a s') : d.Ends machine s post :=
  follows _ _ ends

/-- A conversation goes on from its result. -/
lemma Ends.bind {d : Dialogue ν α} {f : α → Dialogue ν β} {mid : α → σ → Prop}
    {post : β → σ → Prop} (ends : d.Ends machine s mid)
    (next : ∀ a s', mid a s' → (f a).Ends machine s' post) : (d.bind f).Ends machine s post := by
  have does : (d.bind f).Does machine s fun _ => post :=
    ends.does.bind fun _ a s' holds => (next a s' holds).does
  exact does.ends fun _ _ _ holds => holds

/-- A result is turned into another. -/
lemma Ends.map {d : Dialogue ν α} {f : α → β} {post : β → σ → Prop}
    (ends : d.Ends machine s fun a s' => post (f a) s') : (d.map f).Ends machine s post :=
  ends.bind fun _ _ holds => holds

end Dialogue

/-! ### Outcomes -/

namespace Outcome

/-- The code that a command exited with, if it did. -/
def exitCode? : Outcome → Option Nat
  | ended (.code n) _ _ => some n
  | _ => none

/-- A command that ended exited with a code exactly if that is its status. -/
@[simp] lemma exitCode?_ended {status : ExitStatus} {stdout stderr : List UInt8} {n : Nat} :
    (ended status stdout stderr).exitCode? = some n ↔ status = .code n := by
  cases status <;> simp [exitCode?]

/-- What a command wrote to its first output. -/
def written : Outcome → List UInt8
  | ended _ stdout _ => stdout
  | _ => []

/-- A command that ends has written its output. -/
@[simp] lemma written_ended (status : ExitStatus) (stdout stderr : List UInt8) :
    (ended status stdout stderr).written = stdout :=
  rfl

/-- What a command wrote to its second output. -/
def complained : Outcome → List UInt8
  | ended _ _ stderr => stderr
  | _ => []

/-- A command that exited has written something. -/
lemma eq_ended_of_exitCode? {o : Outcome} {n : Nat} (exits : o.exitCode? = some n) :
    o = ended (.code n) o.written o.complained := by
  cases o with
  | unstarted fault => cases exits
  | expired => cases exits
  | ended status stdout stderr =>
      rw [exitCode?_ended.1 exits]
      rfl

end Outcome

/-! ### The commands -/

namespace IpTool

variable {machine : σ → Command → Outcome × σ} {s s' : σ} (t : IpTool)

/-- The command that asks for a listing. -/
def listing : Command :=
  ⟨.ip, ["addr", "show", t.vip.interface], none⟩

/-- The command that makes a change. -/
def changing (change : Change) : Command :=
  ⟨.ip, ["addr", change.verb, t.vip.cidr, "dev", t.vip.interface], none⟩

/-- What the question comes to where its command has this outcome. -/
def told (shown : Outcome) : Except AddressFault Bool :=
  (t.query.lead (fun (_ : Unit) _ => (shown, ())) ()).1

/-- The question runs one command and is answered from its outcome. -/
lemma query_does {shown : Outcome} (answer : machine s t.listing = (shown, s')) :
    t.query.Does machine s fun commands a after =>
      commands = [(t.listing, shown)] ∧ after = s' ∧ a = t.told shown := by
  rw [query, runIp]
  apply (Dialogue.does_run answer).2
  cases shown <;> exact ⟨rfl, rfl, rfl⟩

/-- A listing that was written is searched for the address. -/
lemma told_of_zero {shown : Outcome} (exits : shown.exitCode? = some 0) :
    t.told shown =
      .ok (Listing.carries (String.ofList (Text.Utf8.lenient shown.written)) t.vip.cidr) := by
  rw [shown.eq_ended_of_exitCode? exits]
  rfl

/-- Without a listing the question fails. -/
lemma told_of_failure {shown : Outcome} (failed : shown.exitCode? ≠ some 0) :
    ∃ fault, t.told shown = .error fault := by
  cases shown with
  | unstarted fault => exact ⟨_, rfl⟩
  | expired => exact ⟨_, rfl⟩
  | ended status stdout stderr =>
      exact ⟨_, if_neg (mt Outcome.exitCode?_ended.2 failed)⟩

/-- The fault of a change that was not made, by what became of its command. -/
def attemptFault (change : Change) : Outcome → AddressFault
  | .unstarted fault => .unstarted t.paths.ip (t.changing change).args fault
  | .ended status _ stderr => t.changeFault change status stderr
  | .expired => .told (t.paths.ip ++ " is still running")

/-- A change that is made is told so. -/
lemma change_does_of_zero {change : Change} {attempt : Outcome}
    (answer : machine s (t.changing change) = (attempt, s')) (made : attempt.exitCode? = some 0) :
    (t.change change).Does machine s fun commands a after =>
      commands = [(t.changing change, attempt)] ∧ after = s' ∧ a = .ok .applied := by
  rw [IpTool.change, Dialogue.does_note, runIp]
  apply (Dialogue.does_run answer).2
  rw [attempt.eq_ended_of_exitCode? made]
  exact ⟨rfl, rfl, rfl⟩

/-- What a change that met the wrong state comes to, by the answer to the question after it: the
state may be the one that was wanted. -/
def afterConflict (change : Change) (stderr : List UInt8) :
    Except AddressFault Bool → Except AddressFault ChangeOutcome
  | .error fault => .error fault
  | .ok present =>
    if present = change.leadsTo then .ok .already
    else .error (t.changeFault change (.code stateConflict) stderr)

/-- A change that meets the wrong state is decided by the question that is asked then. -/
lemma change_does_of_conflict {change : Change} {attempt : Outcome}
    (answer : machine s (t.changing change) = (attempt, s'))
    (met : attempt.exitCode? = some stateConflict)
    {mid : List (Command × Outcome) → Except AddressFault Bool → σ → Prop}
    (asked : t.query.Does machine s' mid) :
    (t.change change).Does machine s fun commands a after =>
      ∃ more told, mid more told after ∧ commands = (t.changing change, attempt) :: more ∧
        a = t.afterConflict change attempt.complained told := by
  rw [IpTool.change, Dialogue.does_note, runIp]
  apply (Dialogue.does_run answer).2
  rw [attempt.eq_ended_of_exitCode? met]
  apply asked.bind
  intro more told after holds
  -- nothing is run after the question
  have last := congrArg ((t.changing change, .ended (.code stateConflict) attempt.written
    attempt.complained) :: ·) (List.append_nil more)
  cases told with
  | error fault => exact ⟨_, _, holds, last, rfl⟩
  | ok present =>
      dsimp only
      by_cases wanted : present = change.leadsTo
      · rw [if_pos wanted]
        exact ⟨_, _, holds, last, (if_pos wanted).symm⟩
      · rw [if_neg wanted]
        exact ⟨_, _, holds, last, (if_neg wanted).symm⟩

/-- A change that fails in another way is told so. -/
lemma change_does_of_failure {change : Change} {attempt : Outcome}
    (answer : machine s (t.changing change) = (attempt, s'))
    (failed : attempt.exitCode? ≠ some 0) (other : attempt.exitCode? ≠ some stateConflict) :
    (t.change change).Does machine s fun commands a after =>
      commands = [(t.changing change, attempt)] ∧ after = s' ∧
        a = .error (t.attemptFault change attempt) := by
  rw [IpTool.change, Dialogue.does_note, runIp]
  apply (Dialogue.does_run answer).2
  cases attempt with
  | unstarted fault => exact ⟨rfl, rfl, rfl⟩
  | expired => exact ⟨rfl, rfl, rfl⟩
  | ended status stdout stderr =>
      dsimp only
      rw [if_neg (mt Outcome.exitCode?_ended.2 failed), if_neg (mt Outcome.exitCode?_ended.2 other)]
      exact ⟨rfl, rfl, rfl⟩

/-! ### How a change is judged -/

/-- The conversation that makes a change. -/
def making : Change → Talk (Except AddressFault ChangeOutcome)
  | .add => t.configure
  | .delete => t.deconfigure

/-- Whether a listing confirms that a change was not needed: it was written, and it carries the
address exactly if the change was to add it. -/
def Confirms (change : Change) (shown : Outcome) : Prop :=
  shown.exitCode? = some 0 ∧
    (Listing.carries (String.ofList (Text.Utf8.lenient shown.written)) t.vip.cidr = true ↔
      change = .add)

/-- How a change is judged.  `attempt` is what became of the command that makes it, `shown` what
becomes of a listing after that, and `asked` what the question about the address comes to then. -/
structure Judged (change : Change) (attempt shown : Outcome) (asked : Except AddressFault Bool)
    (commands : List (Command × Outcome)) (result : Except AddressFault ChangeOutcome) : Prop where
  /-- The change is attempted once, and a listing follows exactly if it met the wrong state. -/
  commands_eq : commands = (t.changing change, attempt) ::
    if attempt.exitCode? = some 2 then [(t.listing, shown)] else []
  /-- It is made exactly if the attempt exited with zero. -/
  applied_iff : result = .ok .applied ↔ attempt.exitCode? = some 0
  /-- It was not needed exactly if it met the wrong state and the listing confirms that. -/
  already_iff : result = .ok .already ↔ attempt.exitCode? = some 2 ∧ t.Confirms change shown
  /-- In every other case it failed. -/
  failed_iff : (∃ fault, result = .error fault) ↔
    attempt.exitCode? ≠ some 0 ∧ ¬(attempt.exitCode? = some 2 ∧ t.Confirms change shown)
  /-- Where there was no listing to be had, the fault is that of the question. -/
  asked_fault : attempt.exitCode? = some 2 → shown.exitCode? ≠ some 0 →
    ∃ fault, asked = .error fault ∧ result = .error fault
  /-- Otherwise it is that of the attempt. -/
  own_fault : ∀ fault, result = .error fault →
    ¬(attempt.exitCode? = some 2 ∧ shown.exitCode? ≠ some 0) →
      fault = t.attemptFault change attempt

variable {t} {change : Change} {attempt shown : Outcome} {asked : Except AddressFault Bool}

/-- A listing confirms that a change was not needed exactly if the question then finds the state
that the change leads to. -/
lemma confirms_iff : t.Confirms change shown ↔ t.told shown = .ok change.leadsTo := by
  unfold Confirms
  by_cases listed : shown.exitCode? = some 0
  · rw [t.told_of_zero listed, Except.ok.injEq, and_iff_right listed]
    cases change <;> simp [Change.leadsTo]
  · obtain ⟨fault, failed⟩ := t.told_of_failure listed
    simp [listed, failed]

/-- A change that was made is judged so. -/
lemma judged_of_zero (made : attempt.exitCode? = some 0) :
    t.Judged change attempt shown asked [(t.changing change, attempt)] (.ok .applied) where
  commands_eq := by simp [made]
  applied_iff := by simp [made]
  already_iff := by simp [made]
  failed_iff := by simp [made]
  asked_fault := by simp [made]
  own_fault := by simp

/-- A change that met the wrong state is judged by the listing. -/
lemma judged_of_conflict (met : attempt.exitCode? = some stateConflict) :
    t.Judged change attempt shown (t.told shown) [(t.changing change, attempt), (t.listing, shown)]
      (t.afterConflict change attempt.complained (t.told shown)) := by
  have two : attempt.exitCode? = some 2 := met
  by_cases wanted : t.Confirms change shown
  · have result : t.afterConflict change attempt.complained (t.told shown) = .ok .already := by
      rw [confirms_iff.1 wanted]
      exact if_pos rfl
    rw [result]
    have listed : shown.exitCode? = some 0 := wanted.1
    constructor <;> simp [two, wanted, listed]
  by_cases listed : shown.exitCode? = some 0
  · -- a listing that does not confirm leaves the fault of the attempt
    have result : t.afterConflict change attempt.complained (t.told shown) =
        .error (t.attemptFault change attempt) := by
      have found := t.told_of_zero listed
      have other := mt confirms_iff.2 wanted
      rw [found, Except.ok.injEq] at other
      rw [found, attempt.eq_ended_of_exitCode? met]
      exact if_neg other
    rw [result]
    constructor <;> simp [two, wanted, listed]
  · obtain ⟨fault, failed⟩ := t.told_of_failure listed
    rw [failed]
    have result : t.afterConflict change attempt.complained (.error fault) = .error fault := rfl
    rw [result]
    constructor <;> simp [two, wanted, listed]

/-- A change that failed in another way is judged so. -/
lemma judged_of_failure (failed : attempt.exitCode? ≠ some 0)
    (other : attempt.exitCode? ≠ some stateConflict) :
    t.Judged change attempt shown asked [(t.changing change, attempt)]
      (.error (t.attemptFault change attempt)) := by
  have two : attempt.exitCode? ≠ some 2 := other
  constructor <;> simp [failed, two]

variable (t) in
/-- **A change is judged by what became of its commands**, whatever that is. -/
theorem change_is_judged (machine : σ → Command → Outcome × σ) (s : σ) (change : Change) :
    let attempt := machine s (t.changing change)
    let shown := machine attempt.2 t.listing
    (t.making change).Does machine s fun commands result after =>
      after = (if attempt.1.exitCode? = some 2 then shown.2 else attempt.2) ∧
        t.Judged change attempt.1 shown.1 (t.query.lead machine attempt.2).1 commands result := by
  intro attempt shown
  have same : t.making change = t.change change := by cases change <;> rfl
  have asked : t.query.Does machine attempt.2 fun commands a after =>
      commands = [(t.listing, shown.1)] ∧ after = shown.2 ∧ a = t.told shown.1 := t.query_does rfl
  rw [same]
  by_cases made : attempt.1.exitCode? = some 0
  · refine (t.change_does_of_zero rfl made).mono ?_
    rintro commands result after ⟨rfl, rfl, rfl⟩
    refine ⟨?_, judged_of_zero made⟩
    rw [if_neg (by simp [made])]
  by_cases met : attempt.1.exitCode? = some stateConflict
  · refine (t.change_does_of_conflict rfl met asked).mono ?_
    rintro commands result after ⟨more, told, ⟨rfl, rfl, rfl⟩, rfl, rfl⟩
    refine ⟨(if_pos met).symm, ?_⟩
    rw [asked.2.2]
    exact judged_of_conflict met
  · refine (t.change_does_of_failure rfl made met).mono ?_
    rintro commands result after ⟨rfl, rfl, rfl⟩
    exact ⟨(if_neg met).symm, judged_of_failure made met⟩

end IpTool
end FloatingIp.Host
