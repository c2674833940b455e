import FloatingIp.Settings

/-!
# Rules for settings

What settings have to satisfy, rule by rule.  Each rule belongs to a section and is about one
field of it, or about the section as a whole.  Of settings that break rules, only the first
section with a broken rule is blamed, and there every broken rule of a field.

Validators differ in whether they go on to a section as a whole where a field of it is at fault
already.  That is a parameter here, `Diligence`; whether settings are accepted does not hang on it.
-/

namespace FloatingIp.Settings

/-- The sections that have rules. -/
inductive Part where
  | holding
  | node
  | store
  | timing
  | probe
  deriving DecidableEq, Repr

/-- The sections in the order in which they are looked at. -/
def Part.all : List Part :=
  [holding, node, store, timing, probe]

/-- The rules. -/
inductive Rule where
  /-- The prefix is not longer than an address of the family. -/
  | prefixLen
  /-- The name of the interface has 1 to 15 characters. -/
  | interface
  /-- The node has a name. -/
  | nodeName
  /-- The endpoint is one. -/
  | endpoint
  /-- The key is not empty. -/
  | key
  /-- A read waits from 100 ms to ten minutes. -/
  | waitTime
  /-- Rechecks are from 100 ms to an hour apart. -/
  | recheckInterval
  /-- Pauses last from 10 ms to a minute. -/
  | retryDelay
  /-- From 1 to 1000 leadership changes may wait. -/
  | channelSize
  /-- The network is asked 1 to 10 times. -/
  | probeCount
  /-- The network is asked for 100 ms to half a minute. -/
  | probeTimeout
  deriving DecidableEq, Repr

namespace Rule

/-- All rules. -/
def all : List Rule :=
  [prefixLen, interface, nodeName, endpoint, key, waitTime, recheckInterval, retryDelay,
    channelSize, probeCount, probeTimeout]

/-- The section of a rule. -/
def part : Rule → Part
  | prefixLen => .holding
  | interface => .holding
  | nodeName => .node
  | endpoint => .store
  | key => .store
  | waitTime => .store
  | recheckInterval => .timing
  | retryDelay => .timing
  | channelSize => .timing
  | probeCount => .probe
  | probeTimeout => .probe

/-- The name of the field that a rule is about. -/
def field : Rule → String
  | prefixLen => "__all__"
  | interface => "interface"
  | nodeName => "name"
  | endpoint => "endpoint"
  | key => "key"
  | waitTime => "wait_time"
  | recheckInterval => "recheck_interval"
  | retryDelay => "retry_delay"
  | channelSize => "state_channel_size"
  | probeCount => "count"
  | probeTimeout => "timeout"

/-- Whether a rule is about its section as a whole. -/
def isWhole : Rule → Bool
  | prefixLen => true
  | _ => false

/-- The name of what is wrong where a rule is broken. -/
def code : Rule → String
  | prefixLen => "prefix_len_out_of_range"
  | interface => "length"
  | nodeName => "length"
  | endpoint => "endpoint_invalid"
  | key => "length"
  | waitTime => "wait_time_out_of_range"
  | recheckInterval => "recheck_interval_out_of_range"
  | retryDelay => "retry_delay_out_of_range"
  | channelSize => "range"
  | probeCount => "range"
  | probeTimeout => "probe_timeout_out_of_range"

/-- Whether settings satisfy a rule. -/
def holds (s : Settings) : Rule → Bool
  | prefixLen => s.holding.prefixLen ≤ s.holding.address.maxPrefixLen
  | interface => 1 ≤ s.holding.interface.length && s.holding.interface.length ≤ 15
  | nodeName => 1 ≤ s.node.length
  | endpoint =>
    match Consul.parseEndpoint s.store.endpoint with
    | .ok _ => true
    | .error _ => false
  | key => 1 ≤ s.store.key.length
  | waitTime => s.store.waitTime.isWithin (.ofMillis 100) (.ofSeconds 600)
  | recheckInterval => s.timing.recheckInterval.isWithin (.ofMillis 100) (.ofSeconds 3600)
  | retryDelay => s.timing.retryDelay.isWithin (.ofMillis 10) (.ofSeconds 60)
  | channelSize => 1 ≤ s.timing.channelSize && s.timing.channelSize ≤ 1000
  | probeCount => 1 ≤ s.probe.count && s.probe.count ≤ 10
  | probeTimeout => s.probe.timeout.isWithin (.ofMillis 100) (.ofSeconds 30)

end Rule

/-- The rules of a section that settings break. -/
def brokenIn (s : Settings) (p : Part) : List Rule :=
  Rule.all.filter fun r => r.part = p && !r.holds s

/-- Whether a section is looked at as a whole where a field of it breaks a rule. -/
inductive Diligence where
  /-- It is. -/
  | thorough
  /-- It is not. -/
  | sparing
  deriving DecidableEq, Repr

/-- Whether a section is looked at as a whole. -/
def Diligence.looksAtWhole (d : Diligence) (s : Settings) (p : Part) : Bool :=
  match d with
  | thorough => true
  | sparing => (s.brokenIn p).all Rule.isWhole

/-- The rules of a section that are blamed, if no section before it is. -/
def blamedIn (d : Diligence) (s : Settings) (p : Part) : List Rule :=
  (s.brokenIn p).filter fun r => !r.isWhole || d.looksAtWhole s p

/-- The rules that are blamed: those of the first section that has any. -/
def blamed (d : Diligence) (s : Settings) : List Rule :=
  ((Part.all.map (s.blamedIn d)).find? fun rs => !rs.isEmpty).getD []

/-- All broken rules of the first section that has any. -/
def broken (s : Settings) : List Rule :=
  s.blamed .thorough

end FloatingIp.Settings
