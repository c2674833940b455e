import FloatingIp.Manager
import FloatingIp.Settings

/-!
# Setting up

What becomes of settings before the manager begins: the virtual IP is looked at, the endpoint is
read, and a client is built that gives reads up after a time.  How clients are built is left to
others, who may fail.  A time that is too long to be held brings everything down.

What is set up says how everything begins: the watch with its channel, and coordinator and
reconciler.
-/

namespace FloatingIp

/-! ### Beginnings -/

namespace Settings.Timing

/-- The channel between watch and coordinator, if there can be one. -/
def channel? (t : Timing) : Option (Channel Bool) :=
  Channel.new? t.channelSize

/-- What is watched for a virtual IP at a store. -/
def plan (t : Timing) (vip : Vip) (store : String) : Watch.Plan :=
  ⟨store, vip.key, vip.node, t.retryDelay.millis⟩

/-- The watch at its beginning, if there can be a channel. -/
def watch? (t : Timing) (vip : Vip) (store : String) : Option Watch :=
  t.channel?.map (Watch.new (t.plan vip store))

/-- Coordinator and reconciler at their beginning. -/
def convergence (t : Timing) : Convergence :=
  Convergence.new t.recheckInterval.millis

/-- A manager on a store in memory at its beginning, if there can be a channel. -/
def manager? (t : Timing) (vip : Vip) (store : MemoryStore) : Option Manager :=
  t.channel?.map fun channel =>
    Manager.new store (t.plan vip MemoryStore.name) channel t.recheckInterval.millis

end Settings.Timing

/-! ### Managers -/

/-- What a manager is made of. -/
structure Setup (Client : Type) where
  /-- The virtual IP. -/
  vip : Vip
  /-- How often things happen. -/
  timing : Settings.Timing
  /-- The store. -/
  store : Consul
  /-- What the store is asked with. -/
  client : Client
  /-- What the address is changed with. -/
  tool : Host.IpTool

namespace Setup

/-- What setting up comes to. -/
inductive Outcome (Client : Type) where
  /-- There is a manager. -/
  | ready (setup : Setup Client)
  /-- There is none, for a reason. -/
  | refused (fault : Fault)
  /-- The program breaks down: the time after which reads are given up cannot be held. -/
  | broughtDown

variable {Client : Type}

/-- The watch at its beginning, if there can be a channel. -/
def watch? (m : Setup Client) : Option Watch :=
  m.timing.watch? m.vip Consul.name

/-- Coordinator and reconciler at their beginning. -/
def convergence (m : Setup Client) : Convergence :=
  m.timing.convergence

/-- The time between rechecks, which is never below the shortest. -/
def recheckInterval (m : Setup Client) : Duration :=
  ⟨max m.timing.recheckInterval.nanos (Duration.ofMillis Cell.minRecheckInterval).nanos⟩

end Setup

namespace Settings

variable {Client : Type}

/-- The manager of a store and a client, with what else settings say. -/
def manager (s : Settings) (store : Consul) (client : Client) : Setup Client :=
  ⟨s.vip, s.timing, store, client, ⟨s.vip, s.commands, s.probe⟩⟩

/-- What building a client comes to. -/
def connect (build : Duration → Except String Client) (s : Settings) (store : Consul) :
    Setup.Outcome Client :=
  match Consul.readLimit? store.wait with
  | none => .broughtDown
  | some limit =>
    match build limit with
    | .error reason => .refused (.store (.told ("Failed to build HTTP client: " ++ reason)))
    | .ok client => .ready (s.manager store client)

/-- The store that settings name, if there is nothing to complain about: a complaint about the
virtual IP comes before one about the endpoint. -/
def openStore (s : Settings) : Except SetupFault Consul :=
  match s.vip.problem? with
  | some problem => .error (.vip problem)
  | none =>
    match Consul.new s.store.endpoint s.store.waitTime s.store.token with
    | .error fault => .error (.endpoint fault)
    | .ok store => .ok store

/-- Sets a manager up with a way to build clients that give reads up after a time. -/
def setUp (build : Duration → Except String Client) (s : Settings) : Setup.Outcome Client :=
  match s.openStore with
  | .error fault => .refused (.setup fault)
  | .ok store => s.connect build store

end Settings
end FloatingIp
