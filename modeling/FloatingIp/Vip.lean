import FloatingIp.Net.Address

/-!
# The virtual IP

What one node manages: an address with its network prefix, the interface that carries it, the
name under which the node appears as leader, and the key of the leader marker.  `Vip.cidr` is
the text by which `ip` names the address.  `Vip.problem?` is the first reason why such a value
cannot be managed, in a fixed order, so that one value has one complaint.
-/

namespace FloatingIp

open Net

/-- The virtual IP of one node. -/
structure Vip where
  /-- The address that moves between nodes. -/
  address : Address
  /-- Prefix length of the address's network. -/
  prefixLen : UInt8
  /-- Network interface that carries the address. -/
  interface : String
  /-- Name of this node as the leader marker spells it. -/
  node : String
  /-- Key of the leader marker in the coordination store. -/
  key : String
  deriving DecidableEq

namespace Vip

/-- Address and prefix length, as commands and listings write them. -/
def cidr (v : Vip) : String :=
  String.ofList (v.address.chars ++ '/' :: Digits.text 10 v.prefixLen.toNat)

/-- Longest prefix for the family of the address. -/
def maxPrefixLen (v : Vip) : UInt8 :=
  v.address.maxPrefixLen

/-- Why a virtual IP cannot be managed. -/
inductive Problem where
  /-- The prefix is longer than an address of the family. -/
  | prefixOutOfRange (prefixLen : UInt8) (address : Address)
  /-- No interface is named. -/
  | noInterface
  /-- The node has no name. -/
  | noNode
  /-- No marker key is named. -/
  | noKey
  deriving DecidableEq

/-- The wording of a complaint. -/
def Problem.message : Problem → String
  | prefixOutOfRange n a =>
    "Prefix length " ++ Digits.decimal n.toNat ++ " is out of range for " ++ a.text
  | noInterface => "Interface name is required"
  | noNode => "Node name is required"
  | noKey => "Leader key is required"

/-- The first complaint: prefix, interface, node and key are looked at in this order. -/
def problem? (v : Vip) : Option Problem :=
  if v.maxPrefixLen < v.prefixLen then some (.prefixOutOfRange v.prefixLen v.address)
  else if v.interface.isEmpty then some .noInterface
  else if v.node.isEmpty then some .noNode
  else if v.key.isEmpty then some .noKey
  else none

end Vip
end FloatingIp
