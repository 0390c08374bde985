import Tollbooth.Bytes
import Tollbooth.Http.Proxy
import Tollbooth.Http.Url
import Tollbooth.Text.Base64
/-!
# HTTP messages

Requests, responses and what can become of a request.  A header list keeps repeated names in
order; names are in lower case.
-/

set_option autoImplicit false

namespace Tollbooth.Http

open Tollbooth (Bytes)

/-- Header fields in order: lower-case names and values. -/
abbrev Headers := List (String × Bytes)

namespace Headers

/-- The first value of a name. -/
def get? (headers : Headers) (name : String) : Option Bytes :=
  (headers.find? fun h => h.1 == name).map (·.2)

/-- All values of a name, in order. -/
def getAll (headers : Headers) (name : String) : List Bytes :=
  (headers.filter fun h => h.1 == name).map (·.2)

/-- The fields with one value for a name: it takes the place of all values the name had. -/
def insert (headers : Headers) (name : String) (value : Bytes) : Headers :=
  headers.filter (fun h => !(h.1 == name)) ++ [(name, value)]

end Headers

/-- Bytes that may stand in a header value: all but controls, where a tab is none. -/
def isValueByte (b : UInt8) : Bool := (0x20 ≤ b && b != 0x7f) || b == 0x09

/-- The bytes are a header value. -/
def isValue (value : Bytes) : Bool := value.all isValueByte

/-- The content of a request.  What is streamed cannot be sent a second time. -/
inductive Body where
  | none
  | bytes (content : Bytes)
  | stream
deriving DecidableEq, Inhabited

/-- A request for a resource. -/
structure Request where
  method : String
  url : Url
  headers : Headers
  body : Body
  /-- The proxy that it is sent to instead of the host of the URL. -/
  proxy : Option Proxy
deriving DecidableEq, Inhabited

namespace Request

/-- The request can be sent more than once. -/
def isRepeatable (r : Request) : Bool :=
  match r.body with
  | .stream => false
  | _ => true

/-- What the other side is asked for: path and query, or the whole URL if that is a proxy. -/
def target (r : Request) : String :=
  if r.proxy.isSome ∧ String.ofList r.url.scheme = "http" then { r.url with fragment := none }.text
  else r.url.target

/-- The host and the port that are connected to without encryption, if the request is sent that
way. -/
def peer? (r : Request) : Option (List Char × Nat) :=
  if String.ofList r.url.scheme = "http" then
    match r.proxy with
    | some p => if p.isEncrypted then none else some (p.host, p.port)
    | none => some (r.url.host.getD [], r.url.port.getD 80)
  else none

end Request

/-! ## Users in URLs

A URL may name a user, with a password.  It is not sent as part of the URL, but in a header, unless
the request has that header already. -/

/-- The header that carries the user whom a URL names.  A name has to be text; a password that is
none counts as absent. -/
def Url.userHeader? (u : Url) : Option (String × Bytes) := do
  let name ← Bytes.toString? (Percent.decode u.username)
  let password := if u.password = [] then none else Bytes.toString? (Percent.decode u.password)
  guard (name ≠ "" ∨ password.isSome)
  return ("authorization", Bytes.ofString ("Basic " ++
    Base64.encodeString (Bytes.ofString (name ++ ":" ++ password.getD ""))))

/-- A request as it is sent: a user whom the URL names is named by a header instead. -/
def Request.make (method : String) (url : Url) (headers : Headers) (body : Body) : Request :=
  match url.userHeader? with
  | none => ⟨method, url, headers, body, none⟩
  | some (name, value) =>
    ⟨method, { url with username := [], password := [] },
      if (headers.get? name).isSome then headers else (name, value) :: headers, body, none⟩

/-- A response. -/
structure Response where
  status : Nat
  headers : Headers
  /-- The content, unless it broke off on its way. -/
  body : Option Bytes
deriving DecidableEq, Inhabited

/-- How a request can go wrong on its way. -/
inductive TransportFault where
  /-- Nothing was delivered: no connection, or the request could not be made. -/
  | undelivered
  /-- The connection broke or the time was up; the request may have been delivered. -/
  | interrupted
  /-- A stage of the client other than the transport failed. -/
  | stage
deriving DecidableEq, Inhabited

/-- What is said of a request that went wrong. -/
def TransportFault.message : TransportFault → String
  | .undelivered => "the request could not be delivered"
  | .interrupted => "the exchange was interrupted"
  | .stage => "a stage of the client failed"

/-- What becomes of a request. -/
inductive Exchange where
  | answered (response : Response)
  | failed (fault : TransportFault)
  /-- No answer ever comes. -/
  | silent
deriving DecidableEq, Inhabited

end Tollbooth.Http
