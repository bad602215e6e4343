import VisualNovel.Gateway.Basic
import VisualNovel.Http.Server
import VisualNovel.Json.Display

/-!
# The gateway to a server

The payload is posted in an envelope to `<base>/api/<name>`.  A reply counts if its
status is a success and its body an object; everything else is a failure.  Its kind
comes from the status alone, its message from the detail in the body, if there is one.

How a request gets to a server and a response back is left to a transport.
-/

namespace VisualNovel

/-- Why there is no response to a request. -/
inductive TransportFault where
  /-- There is no connection. -/
  | noConnection
  /-- There was no answer in time. -/
  | timeout
  /-- Something else went wrong. -/
  | failed (message : String)
  deriving DecidableEq, Repr

/-- A way for requests to a server. -/
abbrev Transport (σ : Type) : Type := Http.Request → StateM σ (Except TransportFault Http.Response)

namespace Transport

/-- The requests reach a server over a store. -/
def toServer [Json.Room] (server : Http.Server) : Transport Store :=
  fun request => return .ok (← server.handle request)

/-- No request reaches a server. -/
def unreachable {σ : Type} : Transport σ :=
  fun _ => return .error .noConnection

/-- What is wrong with an address that cannot be asked at all. -/
def addressFault? (url : Url) : Option TransportFault :=
  if url.scheme.isEmpty then
    some (.failed "Request URL is missing an 'http://' or 'https://' protocol.")
  else if ["http", "https", "ws", "wss"].contains url.scheme then none
  else some (.failed ("Request URL has an unsupported protocol '" ++ url.scheme ++ "://'."))

end Transport

/-- Where a server is, and how long to wait for it. -/
structure Endpoint where
  /-- The address of the server, without slashes at its end. -/
  base : String
  /-- The time to wait for an answer, in seconds. -/
  timeout : Number

namespace Endpoint

/-- The server at an address. -/
def ofAddress (address : String) (timeout : Number) : Endpoint :=
  { base := String.ofList ((address.toList.reverse.dropWhile (· = '/')).reverse), timeout }

/-- Where a callable is. -/
def address (endpoint : Endpoint) (name : String) : String :=
  endpoint.base ++ "/api/" ++ name

/-- The request that makes a call, if there can be one.  An address that is relative leads
nowhere, but is one.  An address is encoded character by character. -/
def request? [Json.Room] (endpoint : Endpoint) (name : String) (payload : Json) :
    Except ClientFault Http.Request :=
  let address := endpoint.address name
  let envelope : Json := .obj [("data", payload)]
  match Url.ofText? address with
  | none => .error .badAddress
  | some url =>
    match Text.unencodable? address with
    | some fault => .error (.unwritten (.unencodable { first := fault.first, position := 0 }))
    | none =>
      match envelope.writeFault? with
      | some fault => .error (.unwritten fault)
      | none => .ok (.post (Url.resolve {} url) envelope)

/-- The failure of a call without a response. -/
def unanswered (endpoint : Endpoint) (name : String) : TransportFault → GatewayFault
  | .noConnection => .told .unavailable ("Cannot connect to backend at " ++ endpoint.base)
  | .timeout =>
    .told .unavailable
      ("Backend timed out after " ++ Json.numberDisplay endpoint.timeout ++ "s")
  | .failed message =>
    .told .unavailable ("Request to " ++ endpoint.address name ++ " failed: " ++ message)

end Endpoint

namespace GatewayFault

/-- The kind of failure that a status tells of. -/
def kindOf (status : Nat) : ErrorKind :=
  if status = 400 then .invalidArgument else if status = 404 then .notFound else .internal

/-- The message in the detail of a value: the message of an object, or a text. -/
def detailMessage? (value : Json) : Option Json :=
  match value.field? "detail" with
  | some (.obj detail) => OrderedMap.at? "message" detail
  | some (.str text) => some (.str text)
  | _ => none

/-- The failure that a response tells of, with the value in its body if there is one. -/
def ofResponse (name : String) (status : Nat) (value : Option Json) : GatewayFault :=
  { kind := kindOf status
    message := (value.bind detailMessage?).getD
      (.str (name ++ " failed with HTTP " ++ toString status)) }

end GatewayFault

/-- The reply in a response, or the failure that it tells of. -/
def Http.Response.reply [Json.Room] (name : String) (response : Http.Response) :
    Except ClientFault Json :=
  let failure : GatewayFault → Except ClientFault Json := fun fault => .error (.gateway fault)
  match Json.parseMessage .response response.body with
  | .error (.text (.tooDeep container)) => .error (.tooDeep container)
  | .ok value =>
    if !response.isSuccess then failure (.ofResponse name response.status (some value))
    else match value with
      | .obj fields => .ok (.obj fields)
      | _ => failure (.internal (name ++ " returned an unexpected response"))
  | .error _ =>
    if !response.isSuccess then failure (.ofResponse name response.status none)
    else failure (.internal (name ++ " returned a non-JSON response"))

/-- The gateway to a server by way of a transport. -/
def Endpoint.gateway [Json.Room] {σ : Type} (endpoint : Endpoint) (transport : Transport σ) :
    Gateway σ where
  call name payload := do
    match endpoint.request? name payload with
    | .error fault => return .error fault
    | .ok request =>
      match ← transport request with
      | .ok response => return response.reply name
      | .error fault => return .error (.gateway (endpoint.unanswered name fault))

end VisualNovel
