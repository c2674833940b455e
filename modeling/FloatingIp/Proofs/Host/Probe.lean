import FloatingIp.Host.Script
import FloatingIp.Proofs.Digits
import FloatingIp.Proofs.Host.IpTool
import FloatingIp.Settings.Rule

/-!
# How long a probe is waited for

The command that asks the network for an address gets a deadline on its command line, in whole
seconds and at least one.  It is not waited for for ever: its limit is half a second more than the
time that the probe is set to take, as an allowance for a command that exits at its own deadline.

That is allowance enough exactly if the probe is set to take more than half a second
(`limit_spares_punctual_iff`): then whatever is replied by the deadline counts, and a duplicate is
reported exactly if the command exits with one.  A shorter time is raised to a second on the command
line and not in the limit.  Settings admit such times, and with them a duplicate is missed that
answers between the limit and the deadline (`duplicate_missed`).
-/

namespace FloatingIp.Host

variable {σ : Type}

/-! ### Commands that reply in time -/

/-- What may become of a command that replies so: it ends with its reply if that comes by the limit,
and is given up if it does not.  At the limit itself either may happen. -/
inductive Reply.Becomes (r : Reply) (limit : Option Duration) : Outcome → Prop where
  /-- It ends by itself. -/
  | ended (inTime : ∀ d ∈ limit, r.takes.nanos ≤ d.nanos) :
      r.Becomes limit (.ended r.status r.stdout r.stderr)
  /-- It is given up. -/
  | expired {d : Duration} (limited : limit = some d) (late : d.nanos ≤ r.takes.nanos) :
      r.Becomes limit .expired

/-- What becomes of a scripted command may become of it. -/
lemma Reply.becomes_outcome (r : Reply) (limit : Option Duration) :
    r.Becomes limit (r.outcome limit) := by
  unfold Reply.outcome
  cases limit with
  | none => exact .ended nofun
  | some d =>
      dsimp only
      by_cases late : d.nanos ≤ r.takes.nanos
      · rw [if_pos late]
        exact .expired rfl late
      · rw [if_neg late]
        apply Reply.Becomes.ended
        intro e same
        rw [← Option.some.inj same]
        omega

/-- What stands on a command line behind a word, where the word stands first. -/
def argumentOf (word : String) : List String → Option String
  | w :: value :: rest => if w = word then some value else argumentOf word (value :: rest)
  | _ => none

/-- The deadline that a probe finds on its command line, the seconds behind `-w`. -/
def Command.deadline? (c : Command) : Option Duration :=
  ((argumentOf "-w" c.args).bind fun s => Digits.read? 10 s.toList).map Duration.ofSeconds

/-- A reply by the deadline on the command line. -/
def Reply.Keeps (r : Reply) (c : Command) : Prop :=
  ∀ d ∈ c.deadline?, r.takes.nanos ≤ d.nanos

namespace IpTool

variable {t : IpTool}

/-! ### Deadline and limit -/

/-- A number is no word of the command line. -/
lemma decimal_ne_word (n : Nat) : Digits.decimal n ≠ "-w" := by
  intro same
  have mem : '-' ∈ Digits.text 10 n := by
    have chars := congrArg String.toList same
    rw [Digits.decimal, String.toList_ofList] at chars
    rw [chars]
    decide
  exact absurd (Digits.isDigit_of_mem_text (by decide) (by decide) mem) (by decide)

/-- The probe finds its deadline on the command line. -/
lemma deadline?_probeCommand (address : String) :
    (t.probeCommand address).deadline? = some (.ofSeconds t.probeDeadline) := by
  have found : argumentOf "-w" (t.probeCommand address).args =
      some (Digits.decimal t.probeDeadline) := by
    simp [probeCommand, argumentOf, decimal_ne_word]
  rw [Command.deadline?, found, Option.bind_some, Digits.decimal, String.toList_ofList,
    Digits.read?_text (by decide) (by decide)]
  rfl

/-- A probe keeps its deadline if it takes no more than the seconds that it is given. -/
lemma keeps_probeCommand_iff {r : Reply} {address : String} :
    r.Keeps (t.probeCommand address) ↔
      r.takes.nanos ≤ (Duration.ofSeconds t.probeDeadline).nanos := by
  unfold Reply.Keeps
  simp [deadline?_probeCommand]

/-- The limit lies behind the deadline exactly if the probe is set to take more than half a second.
-/
lemma deadline_lt_limit_iff :
    (Duration.ofSeconds t.probeDeadline).nanos < t.probeLimit.nanos ↔
      500000000 < t.probe.timeout.nanos := by
  have deadline : (Duration.ofSeconds t.probeDeadline).nanos =
      max (t.probe.timeout.nanos / 1000000000) 1 * 1000000000 := rfl
  have limit : t.probeLimit.nanos = t.probe.timeout.nanos + 500000000 := rfl
  rw [deadline, limit]
  rcases Nat.lt_or_ge t.probe.timeout.nanos 1000000000 with short | long
  · -- less than a second counts as a second on the command line
    have none : t.probe.timeout.nanos / 1000000000 = 0 := Nat.div_eq_of_lt short
    rw [none]
    omega
  · have some : 1 ≤ t.probe.timeout.nanos / 1000000000 := Nat.div_pos long (by decide)
    rw [Nat.max_eq_left some]
    omega

/-! ### What is believed -/

section
variable {machine : σ → Command → Outcome × σ} {s s' : σ} {octets : Vector UInt8 4}

/-- A probe runs one command and reports a duplicate exactly if that exits with one. -/
lemma probe_does (enabled : t.probe.enabled = true) (v4 : t.vip.address = .v4 octets) {o : Outcome}
    (answer : machine s (t.probeCommand t.vip.address.text) = (o, s')) :
    t.probeDuplicate.Does machine s fun commands found after =>
      commands = [(t.probeCommand t.vip.address.text, o)] ∧ after = s' ∧
        (found = true ↔ o.exitCode? = some duplicateFound) := by
  rw [probeDuplicate, if_pos enabled]
  split
  case h_1 groups v6 =>
    rw [v4] at v6
    cases v6
  case h_2 =>
    apply (Dialogue.does_run answer).2
    cases o with
    | unstarted fault => exact ⟨rfl, rfl, iff_of_false Bool.false_ne_true nofun⟩
    | expired => exact ⟨rfl, rfl, iff_of_false Bool.false_ne_true nofun⟩
    | ended status stdout stderr =>
        dsimp only
        by_cases duplicate : status = .code duplicateFound
        · rw [if_pos duplicate]
          exact ⟨rfl, rfl, iff_of_true rfl (Outcome.exitCode?_ended.2 duplicate)⟩
        · rw [if_neg duplicate]
          exact ⟨rfl, rfl, iff_of_false Bool.false_ne_true (mt Outcome.exitCode?_ended.1 duplicate)⟩

/-- A probe whose command is given up reports no duplicate. -/
lemma found_of_expired (enabled : t.probe.enabled = true) (v4 : t.vip.address = .v4 octets)
    (givenUp : (machine s (t.probeCommand t.vip.address.text)).1 = .expired) :
    (t.probeDuplicate.lead machine s).1 = false := by
  have does := probe_does enabled v4 (Prod.ext givenUp rfl :
    machine s (t.probeCommand t.vip.address.text) = (.expired, _))
  exact Bool.eq_false_iff.2 fun found => nomatch does.2.2.1 found

/-- **The limit spares whatever replies by the deadline exactly if the probe is set to take more
than half a second.**  Only then is a duplicate reported exactly if the command, which ends by the
deadline on its command line, exits with one. -/
theorem limit_spares_punctual_iff (enabled : t.probe.enabled = true)
    (v4 : t.vip.address = .v4 octets) :
    (∀ (σ : Type) (machine : σ → Command → Outcome × σ) (s : σ) (r : Reply),
      r.Becomes (t.probeCommand t.vip.address.text).limit
          (machine s (t.probeCommand t.vip.address.text)).1 →
        r.Keeps (t.probeCommand t.vip.address.text) →
          ((t.probeDuplicate.lead machine s).1 = true ↔ r.status = .code 1)) ↔
      (Duration.ofMillis 500).nanos < t.probe.timeout.nanos := by
  constructor
  · intro spares
    by_contra short
    -- a reply at the deadline itself may be given up, since the limit has passed by then
    have late : t.probeLimit.nanos ≤ (Duration.ofSeconds t.probeDeadline).nanos :=
      Nat.le_of_not_lt (mt deadline_lt_limit_iff.1 short)
    have keeps : Reply.Keeps ⟨.code 1, [], [], .ofSeconds t.probeDeadline⟩
        (t.probeCommand t.vip.address.text) := keeps_probeCommand_iff.2 le_rfl
    have found := (spares Unit (fun _ _ => (.expired, ())) () _ (.expired rfl late) keeps).2 rfl
    rw [found_of_expired enabled v4 rfl] at found
    cases found
  · intro long σ machine s r becomes keeps
    have does := probe_does enabled v4 (rfl : machine s (t.probeCommand t.vip.address.text) = _)
    rw [does.2.2]
    generalize (machine s (t.probeCommand t.vip.address.text)).1 = o at becomes
    cases becomes with
    | ended inTime => exact Outcome.exitCode?_ended
    | expired limited late =>
        -- nothing is given up that keeps its deadline
        have kept := keeps_probeCommand_iff.1 keeps
        have behind := deadline_lt_limit_iff.2 long
        obtain rfl := Option.some.inj limited
        omega

end

/-- A tool that probes the network for a little more than half a second. -/
def patientTool : IpTool :=
  ⟨⟨.v4 #v[192, 0, 2, 10], 24, "eth0", "node1", "leader"⟩, .standard, ⟨true, 2, ⟨500000001⟩⟩⟩

/-- It believes a reply at the very deadline. -/
theorem limit_spares_punctual_iff_patient :
    (Duration.ofMillis 500).nanos < patientTool.probe.timeout.nanos ∧
      (patientTool.probeDuplicate.lead
        (fun (_ : Unit) c =>
          ((⟨.code 1, [], [], .ofSeconds 1⟩ : Reply).outcome c.limit, ())) ()).1 = true := by
  have long : (Duration.ofMillis 500).nanos < patientTool.probe.timeout.nanos := by decide
  have spares := (limit_spares_punctual_iff (t := patientTool) rfl rfl).2 long
  have keeps : Reply.Keeps ⟨.code 1, [], [], .ofSeconds 1⟩
      (patientTool.probeCommand patientTool.vip.address.text) :=
    keeps_probeCommand_iff.2 (by decide)
  exact ⟨long, (spares Unit _ () _ (Reply.becomes_outcome _ _) keeps).2 rfl⟩

/-- Settings with a probe of a tenth of a second. -/
def hastySettings : Settings where
  holding := ⟨.v4 #v[192, 0, 2, 10], 24, "eth0"⟩
  node := "node1"
  store := ⟨Settings.standardEndpoint, "service/pg/leader", Settings.standardWaitTime, none⟩
  timing := .standard
  probe := ⟨true, 2, .ofMillis 100⟩
  commands := .standard
  logging := .standard

/-- The tool of these settings. -/
def hastyTool : IpTool :=
  ⟨hastySettings.vip, hastySettings.commands, hastySettings.probe⟩

/-- Another host answers after 800 ms. -/
def lateDuplicate : Reply :=
  ⟨.code 1, [], [], .ofMillis 800⟩

/-- The settings are accepted and the command exits with one before its deadline, but it is given up
after 600 ms, and the duplicate is missed. -/
theorem duplicate_missed :
    hastySettings.broken = [] ∧
      lateDuplicate.Keeps (hastyTool.probeCommand hastyTool.vip.address.text) ∧
      (hastyTool.probeDuplicate.lead
        (fun (_ : Unit) c => (lateDuplicate.outcome c.limit, ())) ()).1 = false := by
  have accepted : hastySettings.broken = [] := by decide +kernel
  have keeps : lateDuplicate.Keeps (hastyTool.probeCommand hastyTool.vip.address.text) :=
    keeps_probeCommand_iff.2 (by decide)
  exact ⟨accepted, keeps, found_of_expired (t := hastyTool) rfl rfl rfl⟩

end IpTool
end FloatingIp.Host
