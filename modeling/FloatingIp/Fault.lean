import FloatingIp.Consul.Body
import FloatingIp.Consul.Endpoint
import FloatingIp.Consul.Status
import FloatingIp.Host.Command
import FloatingIp.Vip

/-!
# Faults

What can go wrong, by the part that it goes wrong in.  A fault is a cause with its details, and
`Fault.message` is the one place that puts it into words.
-/

namespace FloatingIp

/-- What goes wrong with the coordination store. -/
inductive StoreFault where
  /-- A failure that was asked for. -/
  | injected
  /-- A failure that was told in words. -/
  | told (text : String)
  /-- No URL results from the key. -/
  | invalidKey (key : String) (fault : Url.Fault)
  /-- The request did not reach the store, or no answer came back. -/
  | requestFailed
  /-- The answer broke off. -/
  | readFailed
  /-- The store answered with another status. -/
  | unexpectedStatus (status : Nat) (key : String)
  /-- The marker's value is no Base64. -/
  | invalidValue (refusal : Base64.Refusal)
  deriving DecidableEq

/-- The wording of a store fault. -/
def StoreFault.message : StoreFault → String
  | injected => "injected failure"
  | told text => text
  | invalidKey key fault => "Invalid key " ++ Text.quoted key ++ ": " ++ fault.message
  | requestFailed => "Request failed"
  | readFailed => "Failed to read response"
  | unexpectedStatus status key =>
    "Unexpected status " ++ Consul.statusText status ++ " for key " ++ key
  | invalidValue refusal => "Invalid base64 value: " ++ refusal.message

/-- What goes wrong with the address of the host. -/
inductive AddressFault where
  /-- A failure that was asked for. -/
  | injected
  /-- A failure that was told in words. -/
  | told (text : String)
  /-- A command did not start. -/
  | unstarted (path : String) (args : List String) (fault : Host.StartFault)
  /-- A command failed; what it complained about is without blanks at its ends. -/
  | failed (what : String) (status : Host.ExitStatus) (complaint : String)
  deriving DecidableEq

/-- The wording of an address fault. -/
def AddressFault.message : AddressFault → String
  | injected => "injected failure"
  | told text => text
  | unstarted path args fault =>
    "Failed to run " ++ path ++ " " ++ " ".intercalate args ++ ": " ++ fault.message
  | failed what status complaint => what ++ " failed (" ++ status.text ++ "): " ++ complaint

/-- What is wrong with a configuration that is about to be used. -/
inductive SetupFault where
  /-- A fault that was told in words. -/
  | told (text : String)
  /-- The virtual IP cannot be managed. -/
  | vip (problem : Vip.Problem)
  /-- The store cannot be reached at the endpoint. -/
  | endpoint (fault : Consul.EndpointFault)
  deriving DecidableEq

/-- The wording of a setup fault. -/
def SetupFault.message : SetupFault → String
  | told text => text
  | vip problem => problem.message
  | endpoint fault => fault.message

/-- What else goes wrong. -/
inductive OtherFault where
  /-- A fault that was told in words. -/
  | told (text : String)
  /-- Nobody takes leadership changes any more. -/
  | receiverGone
  deriving DecidableEq

/-- The wording of another fault. -/
def OtherFault.message : OtherFault → String
  | told text => text
  | receiverGone => "leadership channel closed"

/-- Anything that goes wrong. -/
inductive Fault where
  | store (fault : StoreFault)
  | address (fault : AddressFault)
  | setup (fault : SetupFault)
  /-- The body of an answer cannot be read. -/
  | body (refusal : Json.Refusal)
  /-- The work was called off. -/
  | cancelled
  | other (fault : OtherFault)
  deriving DecidableEq

namespace Fault

/-- The wording of a fault.  A body that is no JSON at all is not put into words. -/
def message : Fault → String
  | store fault => "Coordination store error: " ++ fault.message
  | address fault => "Address error: " ++ fault.message
  | setup fault => "Configuration error: " ++ fault.message
  | body refusal => "Serialization error: " ++ refusal.message?.getD ""
  | cancelled => "Operation cancelled"
  | other fault => "Unknown error: " ++ fault.message

/-- Whether the work was called off. -/
def isCancelled : Fault → Bool
  | cancelled => true
  | _ => false

end Fault

/-- How a task broke down. -/
structure Breakdown where
  /-- The task. -/
  task : String
  /-- What it had to say. -/
  message : String
  deriving DecidableEq

/-- The wording of a breakdown. -/
def Breakdown.text (b : Breakdown) : String :=
  "task " ++ b.task ++ " panicked with message " ++ Text.quoted b.message

end FloatingIp
