import FloatingIp.Settings.Reading

/-!
# Settings as a tree

Settings are written as a value with every field in its place: an address and a duration as their
texts, what is not there as null.  Read from such a value, they are the same settings again.
-/

namespace FloatingIp.Settings

open Yaml

/-- A mapping of named values. -/
def record (fields : List (String × Value)) : Value :=
  .mapping (fields.map fun (name, v) => .mk (.text name) v)

/-- A text that may be left out. -/
def optionTree : Option String → Value
  | some s => .text s
  | none => .null

/-- The tree of settings. -/
def tree (s : Settings) : Value :=
  record [
    ("vip", record [
      ("address", .text s.holding.address.text),
      ("prefix_len", .integer s.holding.prefixLen.toNat),
      ("interface", .text s.holding.interface)]),
    ("node", record [("name", .text s.node)]),
    ("consul", record [
      ("endpoint", .text s.store.endpoint),
      ("key", .text s.store.key),
      ("wait_time", .text s.store.waitTime.text),
      ("token", optionTree s.store.token)]),
    ("manager", record [
      ("recheck_interval", .text s.timing.recheckInterval.text),
      ("retry_delay", .text s.timing.retryDelay.text),
      ("state_channel_size", .integer s.timing.channelSize)]),
    ("probe", record [
      ("enabled", .flag s.probe.enabled),
      ("count", .integer s.probe.count),
      ("timeout", .text s.probe.timeout.text)]),
    ("commands", record [
      ("ip", .text s.commands.ip),
      ("arping", .text s.commands.arping)]),
    ("logging", record [
      ("level", optionTree s.logging.level),
      ("format", .text s.logging.format.name)])]

end FloatingIp.Settings
