import FloatingIp.Net.Address
import FloatingIp.Net.Domain
import FloatingIp.Url.Percent

/-!
# Hosts

The host of a URL is a domain name or an address.  Brackets hold an IPv6 address; every other host
of a special URL is percent-decoded and brought to its ASCII form, and if the last of its labels
is a number it has to be an IPv4 address, in one of the forms that old software admits: one to
four numbers, decimal, octal or hexadecimal, the last of which fills the remaining octets.
-/

namespace FloatingIp.Url

open Net

/-- Why a text is no URL. -/
inductive Fault where
  /-- The text has no scheme and there is nothing that it could be relative to. -/
  | relativeWithoutBase
  /-- The host is empty where one has to be. -/
  | emptyHost
  /-- The port is no number up to 65535. -/
  | invalidPort
  /-- The host in brackets is no IPv6 address. -/
  | invalidIpv6
  /-- The host ends in a number and is no IPv4 address. -/
  | invalidIpv4
  /-- The host is no domain name. -/
  | invalidDomain
  /-- The host of a URL of an unknown scheme holds a character that no host may hold. -/
  | forbiddenHostChar
  deriving DecidableEq, Repr

/-- The wording of a fault. -/
def Fault.message : Fault → String
  | relativeWithoutBase => "relative URL without a base"
  | emptyHost => "empty host"
  | invalidPort => "invalid port number"
  | invalidIpv6 => "invalid IPv6 address"
  | invalidIpv4 => "invalid IPv4 address"
  | invalidDomain => "invalid international domain name"
  | forbiddenHostChar => "invalid domain character"

/-- A host. -/
inductive Host where
  /-- A domain name in its ASCII form. -/
  | domain (name : String)
  /-- An address. -/
  | address (a : Address)
  deriving DecidableEq

namespace Host

/-- The text of a host inside a URL. -/
def chars : Host → List Char
  | domain name => name.toList
  | address (.v4 octets) => Address.dotted octets.toList
  | address (.v6 groups) => '[' :: Address.compressed groups.toList ++ [']']

/-! ## IPv4 addresses in numbers -/

/-- A number of an IPv4 address: hexadecimal behind `0x`, octal behind another zero, else decimal.
A base without digits behind it is zero. -/
def ipv4Number? (s : List Char) : Option Nat :=
  let inBase (base : Nat) (digits : List Char) : Option Nat :=
    if digits.all (Digits.isDigit base) then some (Digits.value base digits) else none
  match s with
  | [] => none
  | '0' :: 'x' :: digits => inBase 16 digits
  | '0' :: 'X' :: digits => inBase 16 digits
  | '0' :: d :: digits => inBase 8 (d :: digits)
  | digits => inBase 10 digits

/-- The labels of a host without the empty one behind a final dot. -/
def significantLabels (s : List Char) : List (List Char) :=
  let ls := Domain.labels s
  if ls.getLast? == some [] then ls.dropLast else ls

/-- Whether a host has to be an IPv4 address: its last label is a number. -/
def endsInNumber (s : List Char) : Bool :=
  match (significantLabels s).getLast? with
  | none => false
  | some l => (!l.isEmpty && l.all (Digits.isDigit 10)) || (ipv4Number? l).isSome

/-- The address of one to four numbers. -/
def ipv4OfNumbers? (ns : List Nat) : Option Address :=
  let fore := ns.dropLast
  let last := ns.getLast?.getD 0
  let room := Digits.twoTo (8 * (4 - fore.length))
  if ns.isEmpty || 4 < ns.length || fore.any (255 < ·) || room ≤ last then none
  else
    let v := fore.foldl (fun acc n => acc * 256 + n) 0 * room + last
    Address.ofOctets? ([24, 16, 8, 0].map fun shift => UInt8.ofNat (v / Digits.twoTo shift))

/-- The IPv4 address that a host spells. -/
def ipv4? (s : List Char) : Option Address :=
  ((significantLabels s).mapM ipv4Number?).bind ipv4OfNumbers?

/-! ## Reading hosts -/

/-- The content of brackets, if the text stands in them. -/
def unbracket? (s : List Char) : Option (List Char) :=
  if s.getLast? == some ']' then some s.dropLast else none

/-- The address in brackets; `s` is what follows the opening one. -/
def ofBracketed (s : List Char) : Except Fault Host :=
  match (unbracket? s).bind Address.readV6 with
  | some (groups, []) =>
    match Address.ofGroups? groups with
    | some a => .ok (.address a)
    | none => .error .invalidIpv6
  | _ => .error .invalidIpv6

/-- The host of a special URL. -/
def ofChars (s : List Char) : Except Fault Host :=
  match s with
  | '[' :: rest => ofBracketed rest
  | _ =>
    match Domain.toAscii? (Percent.decode (Text.Utf8.encode s)) with
    | none => .error .invalidDomain
    | some [] => .error .emptyHost
    | some name =>
      if endsInNumber name then
        match ipv4? name with
        | some a => .ok (.address a)
        | none => .error .invalidIpv4
      else .ok (.domain (String.ofList name))

/-- Characters that the host of a URL of an unknown scheme may not hold. -/
def isForbidden (c : Char) : Bool :=
  c.toNat = 0 || c = '\t' || c = '\n' || c = '\r' || c = ' ' || c = '#' || c = '/' || c = ':' ||
    c = '<' || c = '>' || c = '?' || c = '@' || c = '[' || c = '\\' || c = ']' || c = '^' || c = '|'

/-- Checks the host of a URL of an unknown scheme. -/
def checkOpaque (s : List Char) : Except Fault Unit :=
  match s with
  | '[' :: rest => (ofBracketed rest).map fun _ => ()
  | _ => if s.any isForbidden then .error .forbiddenHostChar else .ok ()

end Host
end FloatingIp.Url
