import FloatingIp.Duration
import FloatingIp.Marker
import FloatingIp.Text.Quoted
import FloatingIp.Url

/-!
# Where a key is read

The endpoint of the store is an `http` or `https` URL, and its path is taken for a directory: it
gets a final slash if it has none.  A key is resolved below it as a reference, behind `v1/kv/`,
and the query says how the key is to be read.
-/

namespace FloatingIp.Consul

/-- Why a text is no endpoint. -/
inductive EndpointFault where
  /-- The text is no URL. -/
  | invalid (endpoint : String) (fault : Url.Fault)
  /-- The URL is of another kind. -/
  | notHttp (endpoint : String)
  deriving DecidableEq, Repr

/-- The wording of a fault. -/
def EndpointFault.message : EndpointFault → String
  | invalid endpoint fault => "Invalid endpoint " ++ Text.quoted endpoint ++ ": " ++ fault.message
  | notHttp endpoint => "Endpoint must be an http(s) URL with a host: " ++ endpoint

/-- The endpoint that a text spells. -/
def parseEndpoint (endpoint : String) : Except EndpointFault Url :=
  match Url.parse endpoint with
  | .error fault => .error (.invalid endpoint fault)
  | .ok none => .error (.notHttp endpoint)
  | .ok (some u) =>
    if u.scheme = "http" ∨ u.scheme = "https" then .ok u.closePath
    else .error (.notHttp endpoint)

/-- The reference by which a key is resolved; slashes in front of the key do not count. -/
def keyReference (key : String) : String :=
  "v1/kv/" ++ String.ofList (key.toList.dropWhile (· = '/'))

/-- The items that read options add to a query. -/
def queryItems (wait : Duration) (options : ReadOptions) : List String :=
  (if options.consistent then ["consistent"] else []) ++
    (if 0 < options.waitIndex then
      ["index=" ++ Digits.decimal options.waitIndex, "wait=" ++ Digits.decimal wait.millis ++ "ms"]
    else [])

/-- The URL of a key below an endpoint. -/
def keyUrl (endpoint : Url) (wait : Duration) (key : String) (options : ReadOptions) :
    Except Url.Fault Url :=
  match endpoint.join (keyReference key) with
  | .error fault => .error fault
  | .ok none => .error .emptyHost
  | .ok (some u) => .ok (u.addQuery (queryItems wait options))

end FloatingIp.Consul
