import Tollbooth.Http.Message
import Tollbooth.Http.Url.Reference
/-!
# Redirections

A response may say that what was asked for is somewhere else.  `Request.onward` says which request
asks there, if the response names a place that can be requested at all.

* Some redirections are answered by a `GET` without content, whatever was asked at first; the others
  ask again as before.
* What names the user is kept from another host than the one it was meant for: `Request.coming`.
* `Request.mostRedirections` limits how often a request is sent on.
-/

set_option autoImplicit false

namespace Tollbooth.Http

/-! ## Places

Two URLs are of one place if host and port are the same, where a port that the scheme implies counts
as given. -/

namespace Url

/-- The URL without the user and without the fragment. -/
def withoutUser (u : Url) : Url := { u with username := [], password := [], fragment := none }

/-- The port that is connected to. -/
def effectivePort (u : Url) : Option Nat := u.port <|> defaultPort u.scheme

/-- The URLs are served at one place. -/
def isNeighbour (u v : Url) : Bool := u.host == v.host && u.effectivePort == v.effectivePort

/-- A URL of a scheme that is not requested is recognised as a whole if it has a host, or if it
could be taken for one. -/
def isRecognised (u : Url) : Bool :=
  match u.host with
  | some (_ :: _) => true
  | _ => !u.text.any fun c => ['/', '?', '#'].contains c

end Url

/-- The place that a response names, seen from a URL: none if it names none that makes sense, and a
fault if it names one that cannot be requested. -/
def Response.location (response : Response) (base : Url) : Except TransportFault (Option Url) :=
  match ((response.headers.get? "location").bind Bytes.toString?).bind base.join? with
  | none => .ok none
  | some u =>
    if u.isRequestable then .ok (if u.isSendable then some { u with fragment := none } else none)
    else if u.isRecognised then .error .undelivered
    else .ok none

/-! ## Requests

A request that is repeated elsewhere is the same request with another URL, unless its status calls
for getting what is there. -/

namespace Request

/-- How often a request is sent on at most. -/
def mostRedirections : Nat := 10

/-- The statuses of redirections. -/
def redirections : List Nat := [301, 302, 303, 307, 308]

/-- A redirection with this status is answered by getting what is there. -/
def isGotInstead (status : Nat) (method : String) : Bool :=
  status == 303 || ((status == 301 || status == 302) && method == "POST")

/-- The headers that describe the content. -/
def contentHeaders : List String :=
  ["content-type", "content-length", "content-encoding", "transfer-encoding"]

/-- The headers that name the user. -/
def userHeaders : List String :=
  ["authorization", "cookie", "cookie2", "proxy-authorization", "www-authenticate"]

/-- The headers without those of some names. -/
def without (names : List String) (headers : Headers) : Headers :=
  headers.filter fun h => !names.contains h.1

/-- The request that asks for the same resource without sending content. -/
def asking (r : Request) : Request :=
  { r with
    method := if r.method == "HEAD" then r.method else "GET"
    headers := without contentHeaders r.headers
    body := .none }

/-- The request that a response calls for instead: none if the response stands.  What is streamed
cannot be sent again. -/
def onward (r : Request) (response : Response) : Except TransportFault (Option Request) :=
  if redirections.contains response.status then
    let again := if isGotInstead response.status r.method then r.asking else r
    if again.isRepeatable then
      (response.location r.url).map (·.map fun url => { again with url })
    else .ok none
  else .ok none

/-- The request as it is sent when it comes from a URL.  It says where it comes from, unless that
was read over an encrypted connection and this one is not. -/
def coming (r : Request) (previous : Url) : Request :=
  let headers := if r.url.isNeighbour previous then r.headers else without userHeaders r.headers
  let reveals := r.url.scheme == "http".toList && previous.scheme == "https".toList
  { r with
    headers :=
      if reveals then headers
      else headers.insert "referer" (Bytes.ofString previous.withoutUser.text) }

end Request

end Tollbooth.Http
