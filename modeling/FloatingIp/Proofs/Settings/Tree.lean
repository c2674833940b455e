import FloatingIp.Proofs.Duration
import FloatingIp.Proofs.Except
import FloatingIp.Proofs.Net.Address
import FloatingIp.Proofs.Settings.Rule
import FloatingIp.Settings.Tree

/-!
# Settings read back from their tree

Settings that are accepted are the same settings again when they are read from their tree
(`accepted_reads_back`).  A record of all fields of a section is read field by field, so what is left
to show is that each single value is read back: addresses and durations from their texts, log formats
from their names, what is left out from null, and numbers as long as they can be held.  The rules that
accepted settings satisfy keep all numbers far below that.
-/

namespace FloatingIp.Settings

open Yaml

/-! ### Records -/

section Records

variable {α : Type} {known : List String} {take : α → String → Value → Reading α}
  {fields : List (String × Value)} {a b : α}

/-- The fields of a record are taken one after another, if each is there once. -/
lemma readFields_record (t : Value) {seen : List String} (once : (fields.map Prod.fst).Nodup)
    (unseen : ∀ f ∈ fields, f.1 ∉ seen)
    (taken : fields.foldlM (fun a f => take a f.1 f.2) a = .ok b) :
    Source.value.readFields t known take seen a (fields.map fun f => ⟨f.1, .ok f.1, f.2⟩) =
      .ok b := by
  induction fields generalizing seen a with
  | nil => exact taken
  | cons f fields ih =>
      rw [List.foldlM_cons] at taken
      obtain ⟨next, here, later⟩ := bind_eq_ok.mp taken
      rw [List.map_cons, List.nodup_cons] at once
      have fresh : seen.contains f.1 = false := by simpa using unseen f (.head fields)
      simp only [List.map_cons, Source.readFields, fresh, Bool.and_false, here]
      refine ih once.2 (fun g mem => ?_) later
      rw [List.mem_cons, not_or]
      exact ⟨fun same => once.1 (same ▸ List.mem_map_of_mem mem), unseen g (.tail f mem)⟩

/-- A section is read from a record of all its fields. -/
lemma readSection_record (kind : String) (names : fields.map Prod.fst = known) (once : known.Nodup)
    (taken : fields.foldlM (fun a f => take a f.1 f.2) a = .ok b) :
    Source.value.readSection kind known take a (record fields) = .ok b := by
  refine bind_eq_ok.mpr ⟨fields.map fun f => ⟨f.1, .ok f.1, f.2⟩, ?_, ?_⟩
  · simp only [record, Source.value, Source.expect, List.map_map, Except.ok.injEq]
    rfl
  · exact readFields_record _ (names ▸ once) (fun _ _ => List.not_mem_nil) taken

end Records

/-! ### Single values -/

/-- A text is read back. -/
lemma readText_text (s : String) : Source.value.readText (.text s) = .ok s :=
  rfl

/-- A truth value is read back. -/
lemma readFlag_flag (b : Bool) : Source.value.readFlag (.flag b) = .ok b :=
  rfl

/-- An address is read back from its text. -/
lemma readAddress_text (a : Net.Address) : Source.value.readAddress (.text a.text) = .ok a := by
  have back : Net.Address.ofText? a.text = some a := by
    rw [Net.Address.ofText?, Net.Address.text, String.toList_ofList, Net.Address.ofChars?_chars]
  exact bind_eq_ok.mpr ⟨a.text, rfl, by rw [back]⟩

/-- A duration is read back from its text, if its seconds fit into 64 bits. -/
lemma readDuration_text {d : Duration} (fits : d.seconds < Digits.twoTo 64) :
    Source.value.readDuration (.text d.text) = .ok d :=
  bind_eq_ok.mpr ⟨d.text, rfl, by rw [Duration.ofText?_text fits]⟩

/-- A number is read back if it fits. -/
lemma readNatural_integer (kind : String) {bits n : Nat} (fits : n < Digits.twoTo bits) :
    Source.value.readNatural bits kind (.integer n) = .ok n := by
  refine bind_eq_ok.mpr ⟨n, ?_, if_pos fits⟩
  simp [Source.value, Source.expect]

/-- A text that may be left out is read back, or is left out again. -/
lemma readOption_optionTree (o : Option String) :
    Source.value.readOption (optionTree o) = .ok o := by
  cases o <;> rfl

/-- A log format is read back from its name. -/
lemma readFormat_name (f : LogFormat) : Source.value.readFormat (.text f.name) = .ok f := by
  cases f <;> rfl

/-! ### Sections -/

/-- The address to manage is read back. -/
lemma Holding.read_record (h : Holding) :
    Holding.read Source.value (record [
      ("address", .text h.address.text),
      ("prefix_len", .integer h.prefixLen.toNat),
      ("interface", .text h.interface)]) = .ok h := by
  refine bind_eq_ok.mpr ⟨⟨some h.address, some h.prefixLen, some h.interface⟩,
    readSection_record _ rfl (by decide) ?_, rfl⟩
  simp [ok_bind, readAddress_text, readNatural_integer _ h.prefixLen.toNat_lt, readText_text]

/-- The name of the node is read back. -/
lemma readNode_record (node : String) :
    readNode Source.value (record [("name", .text node)]) = .ok node :=
  bind_eq_ok.mpr ⟨some node, readSection_record _ rfl (by decide) rfl, rfl⟩

/-- Where the marker is, is read back. -/
lemma Store.read_record {s : Store} (fits : s.waitTime.seconds < Digits.twoTo 64) :
    Store.read Source.value (record [
      ("endpoint", .text s.endpoint),
      ("key", .text s.key),
      ("wait_time", .text s.waitTime.text),
      ("token", optionTree s.token)]) = .ok s := by
  refine bind_eq_ok.mpr ⟨⟨s.endpoint, some s.key, s.waitTime, s.token⟩,
    readSection_record _ rfl (by decide) ?_, rfl⟩
  simp [ok_bind, readText_text, readDuration_text fits, readOption_optionTree]

/-- How often things happen is read back. -/
lemma Timing.read_record {t : Timing} (recheck : t.recheckInterval.seconds < Digits.twoTo 64)
    (retry : t.retryDelay.seconds < Digits.twoTo 64) (size : t.channelSize < Digits.twoTo 64) :
    Timing.read Source.value (record [
      ("recheck_interval", .text t.recheckInterval.text),
      ("retry_delay", .text t.retryDelay.text),
      ("state_channel_size", .integer t.channelSize)]) = .ok t := by
  refine readSection_record _ rfl (by decide) ?_
  simp [ok_bind, readDuration_text recheck, readDuration_text retry, readNatural_integer _ size]

/-- How the network is asked is read back. -/
lemma readProbe_record {p : Host.Probe} (count : p.count < Digits.twoTo 32)
    (timeout : p.timeout.seconds < Digits.twoTo 64) :
    readProbe Source.value (record [
      ("enabled", .flag p.enabled),
      ("count", .integer p.count),
      ("timeout", .text p.timeout.text)]) = .ok p := by
  refine readSection_record _ rfl (by decide) ?_
  simp [ok_bind, readFlag_flag, readNatural_integer _ count, readDuration_text timeout]

/-- Where the commands are found is read back. -/
lemma readCommands_record (c : Host.CommandPaths) :
    readCommands Source.value (record [("ip", .text c.ip), ("arping", .text c.arping)]) = .ok c :=
  readSection_record _ rfl (by decide) rfl

/-- What is logged is read back. -/
lemma Logging.read_record (l : Logging) :
    Logging.read Source.value (record [
      ("level", optionTree l.level),
      ("format", .text l.format.name)]) = .ok l := by
  refine readSection_record _ rfl (by decide) ?_
  simp [ok_bind, readOption_optionTree, readFormat_name]

/-! ### All settings -/

/-- Settings whose numbers can be held. -/
structure Fits (s : Settings) : Prop where
  waitTime : s.store.waitTime.seconds < Digits.twoTo 64
  recheckInterval : s.timing.recheckInterval.seconds < Digits.twoTo 64
  retryDelay : s.timing.retryDelay.seconds < Digits.twoTo 64
  channelSize : s.timing.channelSize < Digits.twoTo 64
  probeCount : s.probe.count < Digits.twoTo 32
  probeTimeout : s.probe.timeout.seconds < Digits.twoTo 64

/-- Settings whose numbers can be held are read back from their tree. -/
lemma Fits.read_tree {s : Settings} (fits : s.Fits) : read Source.value s.tree = .ok s := by
  refine bind_eq_ok.mpr ⟨⟨some s.holding, some s.node, some s.store, s.timing, s.probe, s.commands,
    s.logging⟩, readSection_record _ rfl (by decide) ?_, rfl⟩
  simp [ok_bind, Holding.read_record, readNode_record, Store.read_record fits.waitTime,
    Timing.read_record fits.recheckInterval fits.retryDelay fits.channelSize,
    readProbe_record fits.probeCount fits.probeTimeout, readCommands_record, Logging.read_record]

/-- A duration that is no longer than a limit has no more seconds. -/
lemma seconds_lt_of_isWithin {d least greatest : Duration} {most : Nat}
    (within : d.isWithin least greatest = true) (bound : greatest.seconds < most) :
    d.seconds < most := by
  rw [Duration.isWithin, Bool.and_eq_true, decide_eq_true_eq, decide_eq_true_eq] at within
  exact Nat.lt_of_le_of_lt (Nat.div_le_div_right within.2) bound

/-- The numbers of settings that satisfy the rules can be held. -/
lemma fits_of_rules {s : Settings} (holds : ∀ r : Rule, r.holds s = true) : s.Fits where
  waitTime := seconds_lt_of_isWithin (holds .waitTime) (by decide)
  recheckInterval := seconds_lt_of_isWithin (holds .recheckInterval) (by decide)
  retryDelay := seconds_lt_of_isWithin (holds .retryDelay) (by decide)
  channelSize := by
    have size := holds .channelSize
    rw [Rule.holds, Bool.and_eq_true, decide_eq_true_eq, decide_eq_true_eq] at size
    exact Nat.lt_of_le_of_lt size.2 (by decide)
  probeCount := by
    have count := holds .probeCount
    rw [Rule.holds, Bool.and_eq_true, decide_eq_true_eq, decide_eq_true_eq] at count
    exact Nat.lt_of_le_of_lt count.2 (by decide)
  probeTimeout := seconds_lt_of_isWithin (holds .probeTimeout) (by decide)

/-- Settings that satisfy the rules are accepted again, as they are, from their tree. -/
lemma ofTree_tree {s : Settings} (holds : ∀ r : Rule, r.holds s = true) :
    ofTree s.tree = .ok s := by
  rw [ofTree, (fits_of_rules holds).read_tree]
  exact checked_eq_ok_iff.mpr ⟨broken_eq_nil_iff.mpr holds, rfl⟩

/-- Values that consist of records, texts, integers, truth values and null. -/
inductive Plain : Value → Prop
  | null : Plain .null
  | flag (b : Bool) : Plain (.flag b)
  | integer (i : Int) : Plain (.integer i)
  | text (s : String) : Plain (.text s)
  | record {fields : List (String × Value)} (each : ∀ f ∈ fields, Plain f.2) :
      Plain (record fields)

/-- A text that may be left out is plain. -/
lemma plain_optionTree (o : Option String) : Plain (optionTree o) := by
  cases o with
  | none => exact .null
  | some s => exact .text s

/-- The tree of settings is plain. -/
lemma plain_tree (s : Settings) : Plain s.tree := by
  simp [tree, Plain.record, Plain.text, Plain.integer, Plain.flag, plain_optionTree]

/-- **Settings that are accepted are read back from their tree**, which is a plain value, as the
same settings, every address, duration, number, text and absent text in them.  So whatever is read
back has the same virtual IP, timing, probe and commands. -/
theorem accepted_reads_back {text : String} {s : Settings} (accepted : ofYaml text = .ok s) :
    Plain s.tree ∧ ofTree s.tree = .ok s ∧
      ∀ back, ofTree s.tree = .ok back → back.vip = s.vip ∧ back.timing = s.timing ∧
        back.probe = s.probe ∧ back.commands = s.commands := by
  have same : ofTree s.tree = .ok s :=
    ofTree_tree (broken_eq_nil_iff.mp (ofYaml_eq_ok_iff.mp accepted).2)
  refine ⟨plain_tree s, same, fun back reads => ?_⟩
  obtain rfl : s = back := Except.ok.inj (same.symm.trans reads)
  exact ⟨rfl, rfl, rfl, rfl⟩

/-- Settings with an address that is written shortly, durations of several units and a token that is
left out. -/
def sampleText : String :=
  "vip: \x7baddress: '2001:DB8::0:7', prefix_len: 64, interface: eth0\x7d\n" ++
  "node: \x7bname: a\x7d\n" ++
  "consul: \x7bkey: vip, wait_time: 1m 5us 3ns, token: ~\x7d\n" ++
  "manager: \x7brecheck_interval: 1h, retry_delay: 0.0125s\x7d\n" ++
  "logging: \x7bformat: json\x7d\n"

/-- What they say. -/
def sample : Settings where
  holding := ⟨.v6 #v[0x2001, 0xdb8, 0, 0, 0, 0, 0, 7], 64, "eth0"⟩
  node := "a"
  store := ⟨standardEndpoint, "vip", ⟨60000005003⟩, none⟩
  timing := ⟨.ofSeconds 3600, ⟨12500000⟩, 1⟩
  probe := .standard
  commands := .standard
  logging := ⟨none, .json⟩

/-- They are accepted and read back. -/
theorem accepted_reads_back_sample :
    ofYaml sampleText = .ok sample ∧ ofTree sample.tree = .ok sample := by
  have accepted : ofYaml sampleText = .ok sample :=
    ofYaml_eq_ok_iff.mpr ⟨eq_ok_of_toOption (by decide +kernel), by decide +kernel⟩
  exact ⟨accepted, (accepted_reads_back accepted).2.1⟩

end FloatingIp.Settings
