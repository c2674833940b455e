import FloatingIp.Cell.Session
import FloatingIp.Consul
import FloatingIp.Host.IpTool
import FloatingIp.Watch

/-!
# Settings

Everything that a user can set, in sections, each with its usual values where there are any.  The
address, its prefix and interface, the name of the node and the key of the marker have to be
given; whatever else is left out has its usual value.
-/

namespace FloatingIp

namespace Settings

/-- The address to manage. -/
structure Holding where
  /-- The address. -/
  address : Net.Address
  /-- The prefix length of its network. -/
  prefixLen : UInt8
  /-- The interface that carries it. -/
  interface : String
  deriving DecidableEq

/-- Where the marker is. -/
structure Store where
  /-- The endpoint of the store. -/
  endpoint : String
  /-- The key of the marker. -/
  key : String
  /-- How long a read may wait at the store. -/
  waitTime : Duration
  /-- The access token. -/
  token : Option String
  deriving DecidableEq

/-- How often things happen. -/
structure Timing where
  /-- The time between rechecks. -/
  recheckInterval : Duration
  /-- The pause after a read without a marker. -/
  retryDelay : Duration
  /-- How many leadership changes may wait. -/
  channelSize : Nat
  deriving DecidableEq

/-- How the log is written. -/
inductive LogFormat where
  | text
  | json
  deriving DecidableEq, Repr

/-- The name of a log format. -/
def LogFormat.name : LogFormat → String
  | text => "text"
  | json => "json"

/-- The log format of a name. -/
def LogFormat.ofName? (name : String) : Option LogFormat :=
  [LogFormat.text, LogFormat.json].find? fun f => f.name = name

/-- What is logged, and how. -/
structure Logging where
  /-- The least serious lines that are logged. -/
  level : Option String
  format : LogFormat
  deriving DecidableEq, Repr

/-- The usual endpoint. -/
def standardEndpoint : String := "http://127.0.0.1:8500"

/-- The usual time for which a read may wait. -/
def standardWaitTime : Duration := .ofSeconds 1

/-- The usual timing. -/
def Timing.standard : Timing :=
  ⟨.ofSeconds 10, .ofMillis Watch.standardRetryDelay, 1⟩

/-- The usual way to log. -/
def Logging.standard : Logging :=
  ⟨none, .text⟩

/-- The usual log level. -/
def standardLevel : String := "info"

end Settings

/-- All settings. -/
structure Settings where
  /-- The address to manage. -/
  holding : Settings.Holding
  /-- The name of this node. -/
  node : String
  /-- Where the marker is. -/
  store : Settings.Store
  /-- How often things happen. -/
  timing : Settings.Timing
  /-- How the network is asked for a duplicate. -/
  probe : Host.Probe
  /-- Where the commands are found. -/
  commands : Host.CommandPaths
  /-- What is logged, and how. -/
  logging : Settings.Logging
  deriving DecidableEq

namespace Settings

/-- The virtual IP to manage. -/
def vip (s : Settings) : Vip :=
  ⟨s.holding.address, s.holding.prefixLen, s.holding.interface, s.node, s.store.key⟩

/-- The least serious lines that are logged. -/
def logLevel (s : Settings) : String :=
  s.logging.level.getD standardLevel

end Settings
end FloatingIp
