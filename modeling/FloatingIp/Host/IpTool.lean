import FloatingIp.Fault
import FloatingIp.Host.Listing
import FloatingIp.Log

/-!
# The address of the host

The virtual IP is looked up, added and removed with `ip`, and `arping` tells whether another host
answers for it.  Each of these is a conversation with the host.

A change that exits with 2 met a state in which it could not be made, and that may be the state
that was wanted: the listing decides.  The probe reports a duplicate only on a clear answer; a
probe that cannot be made, fails or takes too long is taken for a free address.
-/

namespace FloatingIp.Host

/-- The two changes. -/
inductive Change where
  | add
  | delete
  deriving DecidableEq, Repr

namespace Change

/-- The word by which `ip` knows a change. -/
def verb : Change → String
  | add => "add"
  | delete => "delete"

/-- Whether the address is present once a change is made. -/
def leadsTo : Change → Bool
  | add => true
  | delete => false

end Change

/-- What a change came to. -/
inductive ChangeOutcome where
  /-- The change was made. -/
  | applied
  /-- There was nothing to change. -/
  | already
  deriving DecidableEq, Repr

/-- How the network is asked for a duplicate. -/
structure Probe where
  /-- Whether it is asked at all. -/
  enabled : Bool
  /-- How many times. -/
  count : Nat
  /-- For how long. -/
  timeout : Duration
  deriving DecidableEq, Repr

/-- By default there is no probe: a former leader that has lost the store and still holds the
address would answer it and keep the new leader from claiming. -/
def Probe.standard : Probe :=
  ⟨false, 2, .ofSeconds 3⟩

/-- What is told about the address. -/
inductive Notice where
  | changing (change : Change) (cidr interface : String)
  | alreadyInState (change : Change) (cidr interface : String)
  | probeSkipped
  | duplicate (address interface : String)
  | noDuplicate (address : String) (status : ExitStatus)
  | probeUnstarted (fault : StartFault)
  | probeExpired (address : String)
  deriving DecidableEq, Repr

/-- The line of a notice. -/
def Notice.line : Notice → Log.Line
  | changing change cidr interface =>
    ⟨.info, match change with
      | .add => "Configuring address"
      | .delete => "Removing address", [("cidr", cidr), ("interface", interface)]⟩
  | alreadyInState change cidr interface =>
    ⟨.debug, "Address already in requested state",
      [("action", change.verb), ("cidr", cidr), ("interface", interface)]⟩
  | probeSkipped => ⟨.debug, "Duplicate probe skipped for IPv6 address", []⟩
  | duplicate address interface =>
    ⟨.warn, "Another host answers for the address",
      [("address", address), ("interface", interface)]⟩
  | noDuplicate address status =>
    ⟨.debug, "No duplicate address detected", [("address", address), ("status", status.text)]⟩
  | probeUnstarted fault =>
    ⟨.warn, "Failed to run duplicate address probe, assuming no duplicate",
      [("error", fault.message)]⟩
  | probeExpired address =>
    ⟨.warn, "Duplicate address probe timed out, assuming no duplicate", [("address", address)]⟩

/-- The exit code of a change that met the wrong state. -/
def stateConflict : Nat := 2

/-- The exit code of a probe that met another host. -/
def duplicateFound : Nat := 1

/-- How much longer a probe is waited for than it was told to take. -/
def probeGrace : Duration := .ofMillis 500

/-- The tool for one virtual IP. -/
structure IpTool where
  vip : Vip
  paths : CommandPaths
  probe : Probe

namespace IpTool

/-- A conversation about the address. -/
abbrev Talk (α : Type) := Dialogue Notice α

/-- The text that a command wrote, without blanks at its ends. -/
def complaint (stderr : List UInt8) : String :=
  String.ofList (Text.trim (Text.Utf8.lenient stderr))

/-- Runs `ip` and goes on with its status and outputs.  It is waited for without limit. -/
def runIp (t : IpTool) (args : List String)
    (next : ExitStatus → List UInt8 → List UInt8 → Talk (Except AddressFault α)) :
    Talk (Except AddressFault α) :=
  .run ⟨.ip, args, none⟩ fun
    | .unstarted fault => .done (.error (.unstarted t.paths.ip args fault))
    | .ended status stdout stderr => next status stdout stderr
    | .expired => .done (.error (.told (t.paths.ip ++ " is still running")))

/-- Whether the interface carries the address. -/
def query (t : IpTool) : Talk (Except AddressFault Bool) :=
  t.runIp ["addr", "show", t.vip.interface] fun status stdout stderr =>
    .done <|
      if status = .code 0 then
        .ok (Listing.carries (String.ofList (Text.Utf8.lenient stdout)) t.vip.cidr)
      else .error (.failed ("ip addr show " ++ t.vip.interface) status (complaint stderr))

/-- The fault of a change that was not made. -/
def changeFault (t : IpTool) (change : Change) (status : ExitStatus) (stderr : List UInt8) :
    AddressFault :=
  .failed ("ip addr " ++ change.verb ++ " " ++ t.vip.cidr ++ " dev " ++ t.vip.interface) status
    (complaint stderr)

/-- Makes a change, and reads back if it met the wrong state. -/
def change (t : IpTool) (change : Change) : Talk (Except AddressFault ChangeOutcome) :=
  .note (.changing change t.vip.cidr t.vip.interface) <|
    t.runIp ["addr", change.verb, t.vip.cidr, "dev", t.vip.interface] fun status _ stderr =>
      if status = .code 0 then .done (.ok .applied)
      else if status = .code stateConflict then
        t.query.bind fun
          | .error fault => .done (.error fault)
          | .ok present =>
            if present = change.leadsTo then
              .note (.alreadyInState change t.vip.cidr t.vip.interface) (.done (.ok .already))
            else .done (.error (t.changeFault change status stderr))
      else .done (.error (t.changeFault change status stderr))

/-- Adds the address to the interface. -/
def configure (t : IpTool) : Talk (Except AddressFault ChangeOutcome) :=
  t.change .add

/-- Removes the address from the interface. -/
def deconfigure (t : IpTool) : Talk (Except AddressFault ChangeOutcome) :=
  t.change .delete

/-- The deadline that a probe is given, in whole seconds, at least one. -/
def probeDeadline (t : IpTool) : Nat :=
  max t.probe.timeout.seconds 1

/-- How long a probe is waited for. -/
def probeLimit (t : IpTool) : Duration :=
  ⟨t.probe.timeout.nanos + probeGrace.nanos⟩

/-- How long a probe is waited for, if that can be held. -/
def probeLimit? (t : IpTool) : Option Duration :=
  t.probe.timeout.sum? probeGrace

/-- The command that asks the network for an address. -/
def probeCommand (t : IpTool) (address : String) : Command :=
  ⟨.arping, ["-D", "-c", Digits.decimal t.probe.count, "-q", "-w", Digits.decimal t.probeDeadline,
    "-I", t.vip.interface, address], some t.probeLimit⟩

/-- Whether another host answers for the address. -/
def probeDuplicate (t : IpTool) : Talk Bool :=
  if t.probe.enabled then
    match t.vip.address with
    | .v6 _ => .note .probeSkipped (.done false)
    | .v4 _ =>
      let address := t.vip.address.text
      .run (t.probeCommand address) fun
        | .ended status _ _ =>
          if status = .code duplicateFound then
            .note (.duplicate address t.vip.interface) (.done true)
          else .note (.noDuplicate address status) (.done false)
        | .unstarted fault => .note (.probeUnstarted fault) (.done false)
        | .expired => .note (.probeExpired address) (.done false)
  else .done false

end IpTool
end FloatingIp.Host
