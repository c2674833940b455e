import FloatingIp.Settings
import FloatingIp.Settings.Source

/-!
# Reading settings

Each section is read from a mapping, field by field in the order in which the fields stand there.
Fields that no section knows are passed over, a field may not stand there twice, and the first
thing that is wrong is what the complaint is about.  Only then it is looked for fields that have to
be there.  The names of sections and fields are those of the configuration file.
-/

namespace FloatingIp.Settings

/-- A part of settings, or why it cannot be read. -/
abbrev Reading (α : Type) := Except Complaint α

namespace Source

variable {τ α : Type}

/-- A complaint about a node. -/
def complain (src : Source τ) (t : τ) (m : Mismatch) : Reading α :=
  .error (.ofMismatch m (src.place t))

/-- What was read of a node, if it was what was expected. -/
def expect (src : Source τ) (t : τ) (expected : String) : Option α → Reading α
  | some a => .ok a
  | none => src.complain t (.wrongType (src.found t) expected)

/-- Reads a text. -/
def readText (src : Source τ) (t : τ) : Reading String :=
  src.expect t "a string" (src.text? t)

/-- Reads a path. -/
def readPath (src : Source τ) (t : τ) : Reading String :=
  src.expect t "path string" (src.text? t)

/-- Reads a text that may be left out. -/
def readOption (src : Source τ) (t : τ) : Reading (Option String) :=
  match src.isNull t with
  | .ok true => .ok none
  | .ok false => (src.readText t).map some
  | .error m => src.complain t m

/-- Reads a truth value. -/
def readFlag (src : Source τ) (t : τ) : Reading Bool :=
  src.expect t "a boolean" (src.flag? t)

/-- Reads a natural number of so many bits, whose kind has a name. -/
def readNatural (src : Source τ) (bits : Nat) (kind : String) (t : τ) : Reading Nat := do
  let n ← src.expect t kind (src.natural? t)
  if n < Digits.twoTo bits then .ok n else src.complain t (.badValue (.integer n) kind)

/-- Reads an address. -/
def readAddress (src : Source τ) (t : τ) : Reading Net.Address := do
  match Net.Address.ofText? (← src.expect t "IP address" (src.text? t)) with
  | some a => .ok a
  | none => src.complain t .noAddress

/-- Reads a duration. -/
def readDuration (src : Source τ) (t : τ) : Reading Duration := do
  let s ← src.expect t "a duration" (src.text? t)
  match Duration.ofText? s with
  | some d => .ok d
  | none => src.complain t (.badValue (.text s) "a duration")

/-- Reads a log format. -/
def readFormat (src : Source τ) (t : τ) : Reading LogFormat := do
  let c ← src.expect t "a YAML tag starting with '!'" (src.choice? t)
  match LogFormat.ofName? c.name, c.content? with
  | some f, none => .ok f
  | some _, some m => src.complain t m
  | none, _ =>
    .error { Complaint.ofMismatch (.unknownChoice c.name [LogFormat.text.name, LogFormat.json.name])
      (src.place t) with inTag := c.inTag }

/-- Reads the fields of a mapping one after another into a partial result.  `known` are the names
of which each may come once. -/
def readFields (src : Source τ) (t : τ) (known : List String)
    (take : α → String → τ → Reading α) : (seen : List String) → α → List (Field τ) → Reading α
  | _, a, [] => .ok a
  | seen, a, f :: rest =>
    match f.name with
    | .error (found, place) =>
      .error (.ofMismatch (.wrongType found "field identifier") place)
    | .ok name =>
      if known.contains name && seen.contains name then src.complain t (.duplicate name)
      else match take a name f.value with
        | .error c => .error (c.within f.label (src.place t))
        | .ok a => readFields src t known take (name :: seen) a rest

/-- Reads a section, which has a kind, into a partial result. -/
def readSection (src : Source τ) (kind : String) (known : List String)
    (take : α → String → τ → Reading α) (a : α) (t : τ) : Reading α := do
  let fields ← src.expect t ("struct " ++ kind) (src.fields? t)
  src.readFields t known take [] a fields

/-- A field that has to be there. -/
def need (src : Source τ) (t : τ) (name : String) : Option α → Reading α
  | some a => .ok a
  | none => src.complain t (.missing name)

end Source

/-! ## Sections -/

/-- What has been read of the address to manage. -/
structure HoldingFields where
  address : Option Net.Address
  prefixLen : Option UInt8
  interface : Option String

/-- Reads the address to manage. -/
def Holding.read {τ : Type} (src : Source τ) (t : τ) : Reading Holding := do
  let take (a : HoldingFields) (name : String) (v : τ) : Reading HoldingFields :=
    match name with
    | "address" => do .ok { a with address := some (← src.readAddress v) }
    | "prefix_len" => do
      .ok { a with prefixLen := some (UInt8.ofNat (← src.readNatural 8 "u8" v)) }
    | "interface" => do .ok { a with interface := some (← src.readText v) }
    | _ => .ok a
  let a ← src.readSection "VipSettings" ["address", "prefix_len", "interface"] take
    ⟨none, none, none⟩ t
  .ok ⟨← src.need t "address" a.address, ← src.need t "prefix_len" a.prefixLen,
    ← src.need t "interface" a.interface⟩

/-- Reads the name of the node. -/
def readNode {τ : Type} (src : Source τ) (t : τ) : Reading String := do
  let take (a : Option String) (name : String) (v : τ) : Reading (Option String) :=
    match name with
    | "name" => do .ok (some (← src.readText v))
    | _ => .ok a
  src.need t "name" (← src.readSection "NodeSettings" ["name"] take none t)

/-- What has been read about the store. -/
structure StoreFields where
  endpoint : String
  key : Option String
  waitTime : Duration
  token : Option String

/-- Reads where the marker is. -/
def Store.read {τ : Type} (src : Source τ) (t : τ) : Reading Store := do
  let take (a : StoreFields) (name : String) (v : τ) : Reading StoreFields :=
    match name with
    | "endpoint" => do .ok { a with endpoint := ← src.readText v }
    | "key" => do .ok { a with key := some (← src.readText v) }
    | "wait_time" => do .ok { a with waitTime := ← src.readDuration v }
    | "token" => do .ok { a with token := ← src.readOption v }
    | _ => .ok a
  let a ← src.readSection "ConsulSettings" ["endpoint", "key", "wait_time", "token"] take
    ⟨standardEndpoint, none, standardWaitTime, none⟩ t
  .ok ⟨a.endpoint, ← src.need t "key" a.key, a.waitTime, a.token⟩

/-- Reads how often things happen. -/
def Timing.read {τ : Type} (src : Source τ) (t : τ) : Reading Timing :=
  let take (a : Timing) (name : String) (v : τ) : Reading Timing :=
    match name with
    | "recheck_interval" => do .ok { a with recheckInterval := ← src.readDuration v }
    | "retry_delay" => do .ok { a with retryDelay := ← src.readDuration v }
    | "state_channel_size" => do .ok { a with channelSize := ← src.readNatural 64 "usize" v }
    | _ => .ok a
  src.readSection "ManagerSettings" ["recheck_interval", "retry_delay", "state_channel_size"] take
    Timing.standard t

/-- Reads how the network is asked for a duplicate. -/
def readProbe {τ : Type} (src : Source τ) (t : τ) : Reading Host.Probe :=
  let take (a : Host.Probe) (name : String) (v : τ) : Reading Host.Probe :=
    match name with
    | "enabled" => do .ok { a with enabled := ← src.readFlag v }
    | "count" => do .ok { a with count := ← src.readNatural 32 "u32" v }
    | "timeout" => do .ok { a with timeout := ← src.readDuration v }
    | _ => .ok a
  src.readSection "ProbeSettings" ["enabled", "count", "timeout"] take Host.Probe.standard t

/-- Reads where the commands are found. -/
def readCommands {τ : Type} (src : Source τ) (t : τ) : Reading Host.CommandPaths :=
  let take (a : Host.CommandPaths) (name : String) (v : τ) : Reading Host.CommandPaths :=
    match name with
    | "ip" => do .ok { a with ip := ← src.readPath v }
    | "arping" => do .ok { a with arping := ← src.readPath v }
    | _ => .ok a
  src.readSection "CommandSettings" ["ip", "arping"] take Host.CommandPaths.standard t

/-- Reads what is logged, and how. -/
def Logging.read {τ : Type} (src : Source τ) (t : τ) : Reading Logging :=
  let take (a : Logging) (name : String) (v : τ) : Reading Logging :=
    match name with
    | "level" => do .ok { a with level := ← src.readOption v }
    | "format" => do .ok { a with format := ← src.readFormat v }
    | _ => .ok a
  src.readSection "LoggingSettings" ["level", "format"] take Logging.standard t

/-- What has been read of all settings. -/
structure Fields where
  holding : Option Holding
  node : Option String
  store : Option Store
  timing : Timing
  probe : Host.Probe
  commands : Host.CommandPaths
  logging : Logging

/-- Nothing has been read. -/
def Fields.standard : Fields :=
  ⟨none, none, none, Timing.standard, Host.Probe.standard, Host.CommandPaths.standard,
    Logging.standard⟩

/-- Reads all settings. -/
def read {τ : Type} (src : Source τ) (t : τ) : Reading Settings := do
  let take (a : Fields) (name : String) (v : τ) : Reading Fields :=
    match name with
    | "vip" => do .ok { a with holding := some (← Holding.read src v) }
    | "node" => do .ok { a with node := some (← readNode src v) }
    | "consul" => do .ok { a with store := some (← Store.read src v) }
    | "manager" => do .ok { a with timing := ← Timing.read src v }
    | "probe" => do .ok { a with probe := ← readProbe src v }
    | "commands" => do .ok { a with commands := ← readCommands src v }
    | "logging" => do .ok { a with logging := ← Logging.read src v }
    | _ => .ok a
  let a ← src.readSection "Config"
    ["vip", "node", "consul", "manager", "probe", "commands", "logging"] take Fields.standard t
  .ok ⟨← src.need t "vip" a.holding, ← src.need t "node" a.node, ← src.need t "consul" a.store,
    a.timing, a.probe, a.commands, a.logging⟩

end FloatingIp.Settings
