import FloatingIp.Proofs.Except
import FloatingIp.Proofs.Settings.Rule
import FloatingIp.Setup
import Mathlib.Logic.Basic
import Mathlib.Tactic.SplitIfs

/-!
# Settings that can be run with

Settings are looked at twice: by their rules when they are loaded, and once more when a manager is set
up, where the virtual IP and the endpoint are complained about.  The rules leave nothing to complain
about then.  What is set up has the parts that the settings name (`Setup.MadeFrom`), and the rules
keep all times and sizes in ranges in which it works with them as they are (`Setup.Sound`).  Both
together are `accepted_can_run`.
-/

namespace FloatingIp

/-! ### Times -/

/-- Two durations have a sum if it is no longer than the longest duration. -/
lemma Duration.sum?_of_le {d e : Duration} (le : d.nanos + e.nanos ≤ longest.nanos) :
    d.sum? e = some ⟨d.nanos + e.nanos⟩ :=
  if_pos le

/-- An hour is far below the longest duration. -/
lemma Duration.hour_le_longest : 3600000000000 ≤ longest.nanos := by
  decide

/-- Reads that wait for ten minutes at most are given up in time. -/
lemma Consul.readLimit?_of_le {wait : Duration} (short : wait.nanos ≤ 600000000000) :
    readLimit? wait = some ⟨wait.nanos + wait.nanos / 16 + slack.nanos⟩ := by
  have bound := Duration.hour_le_longest
  have few : slack.nanos = 5 * 1000000000 := rfl
  have jitter : wait.sum? (wait.part 16) = some ⟨wait.nanos + wait.nanos / 16⟩ :=
    Duration.sum?_of_le (by simp only [Duration.part]; omega)
  have all : (⟨wait.nanos + wait.nanos / 16⟩ : Duration).sum? slack =
      some ⟨wait.nanos + wait.nanos / 16 + slack.nanos⟩ :=
    Duration.sum?_of_le (by dsimp only; omega)
  rw [readLimit?, jitter, Option.bind_eq_bind, Option.bind_some, all]

/-- Probes that last half a minute at most are given up in time. -/
lemma Host.IpTool.probeLimit?_of_le {t : Host.IpTool}
    (short : t.probe.timeout.nanos ≤ 30000000000) :
    t.probeLimit? = some ⟨t.probe.timeout.nanos + probeGrace.nanos⟩ := by
  have bound := Duration.hour_le_longest
  exact Duration.sum?_of_le (by simp only [probeGrace, Duration.ofMillis]; omega)

/-- The interval that is used, in milliseconds, is the one that is used to the nanosecond. -/
lemma Settings.Timing.interval_convergence (t : Settings.Timing) :
    t.convergence.interval =
      max t.recheckInterval.nanos (Duration.ofMillis Cell.minRecheckInterval).nanos / 1000000 := by
  have least : (Duration.ofMillis Cell.minRecheckInterval).nanos = 10 * 1000000 := rfl
  change max (t.recheckInterval.nanos / 1000000) 10 = _
  omega

/-- As many leadership changes may wait as settings say, if there can be that many. -/
lemma Settings.Timing.watch?_of_le {t : Settings.Timing} {vip : Vip} {store : String}
    (room : 1 ≤ t.channelSize ∧ t.channelSize ≤ Channel.maxCapacity) :
    t.watch? vip store =
      some (Watch.new (t.plan vip store) ⟨t.channelSize, [], [], true, true⟩) := by
  rw [watch?, channel?, Channel.new?, if_pos room, Option.map_some]

/-! ### Managers -/

namespace Setup

variable {Client : Type}

/-- The manager of settings and a client: its parts are those that the settings name. -/
structure MadeFrom (m : Setup Client) (s : Settings) (client : Client) : Prop where
  vip : m.vip = ⟨s.holding.address, s.holding.prefixLen, s.holding.interface, s.node, s.store.key⟩
  timing : m.timing = s.timing
  endpoint : Consul.parseEndpoint s.store.endpoint = .ok m.store.endpoint
  wait : m.store.wait = s.store.waitTime
  token : m.store.token = s.store.token
  client : m.client = client
  tool : m.tool = ⟨m.vip, s.commands, s.probe⟩

/-- A manager that works as settings say. -/
structure Sound (m : Setup Client) (s : Settings) : Prop where
  /-- There is a watch, and room for as many leadership changes as is asked for. -/
  watch : ∃ w, m.watch? = some w ∧ w.channel = ⟨s.timing.channelSize, [], [], true, true⟩ ∧
    w.plan = ⟨Consul.name, s.store.key, s.node, s.timing.retryDelay.millis⟩
  /-- The interval that is asked for is not below the shortest. -/
  least : (Duration.ofMillis Cell.minRecheckInterval).nanos ≤ s.timing.recheckInterval.nanos
  /-- It is used unchanged. -/
  interval : m.recheckInterval = s.timing.recheckInterval
  /-- The coordinator rechecks in it. -/
  rechecks : m.convergence.interval = s.timing.recheckInterval.millis
  /-- The time after which a probe is given up can be held. -/
  probe : m.tool.probeLimit? = some ⟨s.probe.timeout.nanos + Host.probeGrace.nanos⟩

end Setup

namespace Settings

/-! ### Complaints -/

/-- A virtual IP is not complained about exactly if its prefix is one of the family and all names are
given. -/
lemma problem?_eq_none_iff {v : Vip} :
    v.problem? = none ↔ v.prefixLen.toNat ≤ longestPrefix v.address ∧ v.interface ≠ "" ∧
      v.node ≠ "" ∧ v.key ≠ "" := by
  rw [← prefixLen_le_iff]
  unfold Vip.problem? Vip.maxPrefixLen
  split_ifs with long noInterface noNode noKey
  · simp [UInt8.not_le.2 long]
  · simp [String.isEmpty_iff.1 noInterface]
  · simp [String.isEmpty_iff.1 noNode]
  · simp [String.isEmpty_iff.1 noKey]
  · rw [String.isEmpty_iff] at noInterface noNode noKey
    exact iff_of_true rfl ⟨UInt8.not_lt.1 long, noInterface, noNode, noKey⟩

variable {Client : Type} {build : Duration → Except String Client} {s : Settings}

/-- A store is opened exactly if there is nothing to complain about, neither the virtual IP nor the
endpoint. -/
lemma openStore_eq_ok_iff {store : Consul} :
    s.openStore = .ok store ↔ s.vip.problem? = none ∧
      Consul.new s.store.endpoint s.store.waitTime s.store.token = .ok store := by
  unfold openStore
  cases s.vip.problem? with
  | some problem => simp
  | none => cases Consul.new s.store.endpoint s.store.waitTime s.store.token <;> simp

/-- There is a store behind an endpoint exactly if the endpoint is one; it waits as long as it was
told to, and has the token that it was given. -/
lemma new_eq_ok_iff {endpoint : String} {wait : Duration} {token : Option String} {store : Consul} :
    Consul.new endpoint wait token = .ok store ↔
      Consul.parseEndpoint endpoint = .ok store.endpoint ∧ store.wait = wait ∧
        store.token = token := by
  unfold Consul.new
  rw [bind_eq_ok]
  constructor
  · rintro ⟨base, parsed, same⟩
    cases same
    exact ⟨parsed, rfl, rfl⟩
  · rintro ⟨parsed, rfl, rfl⟩
    exact ⟨store.endpoint, parsed, rfl⟩

/-- Settings have a store exactly if their prefix is one of the family, all names are given, and the
endpoint is one. -/
lemma exists_openStore_iff :
    (∃ store, s.openStore = .ok store) ↔
      (s.holding.prefixLen.toNat ≤ longestPrefix s.holding.address ∧ s.holding.interface ≠ "" ∧
        s.node ≠ "" ∧ s.store.key ≠ "") ∧
      ∃ base, Consul.parseEndpoint s.store.endpoint = .ok base := by
  have given := problem?_eq_none_iff (v := s.vip)
  simp only [openStore_eq_ok_iff, new_eq_ok_iff, given]
  constructor
  · rintro ⟨store, fine, parsed, -⟩
    exact ⟨fine, store.endpoint, parsed⟩
  · rintro ⟨fine, base, parsed⟩
    exact ⟨⟨base, s.store.waitTime, s.store.token⟩, fine, parsed, rfl, rfl⟩

/-- Building a client is no reason to complain about settings. -/
lemma connect_ne_setup (store : Consul) (fault : SetupFault) :
    s.connect build store ≠ .refused (.setup fault) := by
  unfold connect
  split
  · nofun
  · split <;> nofun

/-- Setting up complains about settings exactly if they have no store. -/
lemma setUp_eq_setup_iff {fault : SetupFault} :
    s.setUp build = .refused (.setup fault) ↔ s.openStore = .error fault := by
  unfold setUp
  cases s.openStore with
  | error found => simp
  | ok store =>
      apply iff_of_false
      · exact connect_ne_setup store fault
      · nofun

/-- Settings that have a store get a client for it. -/
lemma setUp_of_openStore {store : Consul} (opened : s.openStore = .ok store) :
    s.setUp build = s.connect build store := by
  rw [setUp, opened]

/-- Nothing is brought down where the time after which reads are given up can be held. -/
lemma connect_ne_broughtDown {store : Consul} {limit : Duration}
    (held : Consul.readLimit? store.wait = some limit) :
    s.connect build store ≠ .broughtDown := by
  rw [connect, held]
  dsimp only
  split <;> nofun

/-- With a client that gives reads up after that time there is a manager. -/
lemma connect_of_built {store : Consul} {limit : Duration} {client : Client}
    (held : Consul.readLimit? store.wait = some limit) (built : build limit = .ok client) :
    s.connect build store = .ready (s.manager store client) := by
  rw [connect, held]
  dsimp only
  rw [built]

/-! ### Accepted settings -/

/-- Settings that meet all demands have a store. -/
lemma exists_openStore_of_demands (met : ∀ r : Rule, r.Demands s) :
    ∃ store, s.openStore = .ok store := by
  -- The rules ask more of the name of the interface than that there is one.
  have interface : s.holding.interface ≠ "" := one_le_length_iff.1 (met .interface).1
  apply exists_openStore_iff.2
  exact ⟨⟨met .prefixLen, interface, met .nodeName, met .key⟩, met .endpoint⟩

/-- A manager is made from the settings that have its store. -/
lemma madeFrom_manager {store : Consul} (opened : s.openStore = .ok store) (client : Client) :
    (s.manager store client).MadeFrom s client := by
  obtain ⟨parsed, wait, token⟩ := new_eq_ok_iff.1 (openStore_eq_ok_iff.1 opened).2
  exact ⟨rfl, rfl, parsed, wait, token, rfl, rfl⟩

/-- A manager works as the settings say that it is made from, if they meet all demands. -/
lemma sound_of_madeFrom {m : Setup Client} {client : Client} (met : ∀ r : Rule, r.Demands s)
    (made : m.MadeFrom s client) : m.Sound s := by
  have size : 1 ≤ s.timing.channelSize ∧ s.timing.channelSize ≤ 1000 := met .channelSize
  have room : 1000 ≤ Channel.maxCapacity := by decide
  have least : (Duration.ofMillis Cell.minRecheckInterval).nanos ≤ s.timing.recheckInterval.nanos :=
    Nat.le_trans (by decide) (met .recheckInterval).1
  constructor
  case watch =>
    rw [Setup.watch?, made.timing, made.vip,
      Timing.watch?_of_le ⟨size.1, Nat.le_trans size.2 room⟩]
    exact ⟨_, rfl, rfl, rfl⟩
  case least => exact least
  case interval =>
    rw [Setup.recheckInterval, made.timing]
    exact congrArg Duration.mk (Nat.max_eq_left least)
  case rechecks =>
    rw [Setup.convergence, made.timing, Timing.interval_convergence, Nat.max_eq_left least]
    rfl
  case probe =>
    have short : m.tool.probe.timeout.nanos ≤ 30000000000 := by
      rw [made.tool]
      exact (met .probeTimeout).2
    rw [Host.IpTool.probeLimit?_of_le short, made.tool]

/-- **Accepted settings can be run with.** The time after which reads are given up can be held, and
with a client that gives them up then there is a manager of these settings that works as they say.
Settings of any kind, accepted or not, are complained about exactly if the prefix is longer than an
address of the family, no interface, no node or no key is named, or the endpoint is none. -/
theorem accepted_can_run {Client : Type} (build : Duration → Except String Client) :
    (∀ text s, ofYaml text = .ok s →
      ∃ limit, Consul.readLimit? s.store.waitTime = some limit ∧
        limit.nanos =
          s.store.waitTime.nanos + s.store.waitTime.nanos / 16 + Consul.slack.nanos ∧
        s.setUp build ≠ .broughtDown ∧
        ∀ client, build limit = .ok client →
          ∃ m, s.setUp build = .ready m ∧ m.MadeFrom s client ∧ m.Sound s) ∧
    ∀ s : Settings,
      (∃ fault, s.setUp build = .refused (.setup fault)) ↔
        longestPrefix s.holding.address < s.holding.prefixLen.toNat ∨ s.holding.interface = "" ∨
          s.node = "" ∨ s.store.key = "" ∨
          ∀ base, Consul.parseEndpoint s.store.endpoint ≠ .ok base := by
  constructor
  · intro text s accepted
    have met := blamed_eq_nil_iff_demands.1 (ofYaml_eq_ok_iff.1 accepted).2
    obtain ⟨store, opened⟩ := exists_openStore_of_demands met
    have limit := Consul.readLimit?_of_le (met .waitTime).2
    obtain ⟨-, wait, -⟩ := new_eq_ok_iff.1 (openStore_eq_ok_iff.1 opened).2
    have held := (congrArg Consul.readLimit? wait).trans limit
    refine ⟨_, limit, rfl, ?_, ?_⟩
    · rw [setUp_of_openStore opened]
      exact connect_ne_broughtDown held
    · intro client built
      have made := madeFrom_manager opened client
      refine ⟨_, ?_, made, sound_of_madeFrom met made⟩
      rw [setUp_of_openStore opened]
      exact connect_of_built held built
  · intro s
    have complaint : (∃ fault, s.setUp build = .refused (.setup fault)) ↔
        ¬∃ store, s.openStore = .ok store := by
      simp only [setUp_eq_setup_iff]
      cases s.openStore <;> simp
    rw [complaint, exists_openStore_iff]
    simp only [not_and_or, Nat.not_le, not_not, not_exists, or_assoc, ne_eq]

/-- Settings at the ends of their ranges. -/
def extremeText : String :=
  "vip: \x7baddress: 203.0.113.9, prefix_len: 32, interface: eth0\x7d\n" ++
  "node: \x7bname: a\x7d\n" ++
  "consul: \x7bkey: vip, wait_time: 10m\x7d\n" ++
  "manager: \x7brecheck_interval: 100ms, retry_delay: 10ms, state_channel_size: 1000\x7d\n" ++
  "probe: \x7btimeout: 30s\x7d\n"

/-- What they say. -/
def extreme : Settings where
  holding := ⟨.v4 #v[203, 0, 113, 9], 32, "eth0"⟩
  node := "a"
  store := ⟨standardEndpoint, "vip", .ofSeconds 600, none⟩
  timing := ⟨.ofMillis 100, .ofMillis 10, 1000⟩
  probe := ⟨false, 2, .ofSeconds 30⟩
  commands := .standard
  logging := .standard

/-- They can be run with: reads are given up after 642.5 seconds and probes after 30.5, a thousand
leadership changes may wait, and rechecks are 100 milliseconds apart. -/
theorem accepted_can_run_extreme :
    ofYaml extremeText = .ok extreme ∧
      ∃ m, extreme.setUp .ok = .ready m ∧ m.MadeFrom extreme (.ofMillis 642500) ∧
        m.Sound extreme ∧ m.convergence.interval = 100 ∧
        m.tool.probeLimit? = some (.ofMillis 30500) ∧
        ∃ w, m.watch? = some w ∧ w.channel.capacity = 1000 := by
  have accepted : ofYaml extremeText = .ok extreme :=
    ofYaml_eq_ok_iff.mpr ⟨eq_ok_of_toOption (by decide +kernel), by decide +kernel⟩
  obtain ⟨limit, held, -, -, runs⟩ := (accepted_can_run .ok).1 extremeText extreme accepted
  obtain rfl : Duration.ofMillis 642500 = limit := Option.some.inj held
  obtain ⟨m, ready, made, sound⟩ := runs _ rfl
  obtain ⟨w, begun, channel, -⟩ := sound.watch
  refine ⟨accepted, m, ready, made, sound, sound.rechecks, sound.probe, w, begun, ?_⟩
  rw [channel]
  rfl

end Settings
end FloatingIp
