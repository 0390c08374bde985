import Tollbooth.Dialogue
import Tollbooth.Http.Redirect
/-!
# How requests get to where they are answered

A computation sends requests to URLs.  On their way they may be handed to a proxy, and the response
may name another place to ask.  `Dialogue.delivered` is the computation with all that filled in: the
world that answers it sees every request that is sent, and the computation sees the last response.

Proxies and redirections are no concern of whoever pays for a request or calls a facilitator, so
they are put in afterwards, by a change of the whole computation.  What such a computation does on
its own can then be said without them.
-/

set_option autoImplicit false

namespace Tollbooth

open Http (Request Exchange TransportFault Proxies)

namespace Dialogue

variable {α : Type}

/-- The computation with its requests changed. -/
def mapRequests (f : Request → Request) : Dialogue α → Dialogue α
  | .done a => .done a
  | .send request next => .send (f request) fun x => (next x).mapRequests f
  | .read chain asset next => .read chain asset fun x => (next x).mapRequests f
  | .sign account digest next => .sign account digest fun x => (next x).mapRequests f
  | .wait ms next => .wait ms (next.mapRequests f)
  | .stalled => .stalled

/-- Sends a request, and those that responses call for instead; `sent` is the request as it is sent,
and `left` says how many more there may be. -/
def pursue (left : Nat) (request sent : Request) (next : Exchange → Dialogue α) : Dialogue α :=
  .send sent fun
    | .answered response =>
      match request.onward response with
      | .error fault => next (.failed fault)
      | .ok none => next (.answered response)
      | .ok (some further) =>
        match left with
        | 0 => next (.failed .interrupted)
        | left + 1 => pursue left further (further.coming request.url) next
    | x => next x

/-- The computation whose requests follow redirections.  Nothing is delivered to a URL that cannot
be requested. -/
def following : Dialogue α → Dialogue α
  | .done a => .done a
  | .send request next =>
    if request.url.isRequestable && request.url.isSendable then
      pursue Request.mostRedirections request request fun x => (next x).following
    else (next (.failed .undelivered)).following
  | .read chain asset next => .read chain asset fun x => (next x).following
  | .sign account digest next => .sign account digest fun x => (next x).following
  | .wait ms next => .wait ms next.following
  | .stalled => .stalled

end Dialogue

namespace Http.Proxies

/-- The header that names the user to a proxy. -/
def userHeader : String := "proxy-authorization"

/-- The request with what names the user to its proxy, unless something does. -/
def introduce (p : Proxies) (r : Request) : Request :=
  match (p.route r.url).bind (·.user) with
  | some user =>
    if r.url.scheme == "http".toList && (r.headers.get? userHeader).isNone then
      { r with headers := r.headers.insert userHeader user }
    else r
  | none => r

/-- The request as it is sent to its proxy. -/
def guide (p : Proxies) (r : Request) : Request := { r with proxy := p.route r.url }

end Http.Proxies

/-- The computation with its requests sent by way of proxies, and sent on where responses say so. -/
def Dialogue.delivered {α : Type} (proxies : Proxies) (d : Dialogue α) : Dialogue α :=
  ((d.mapRequests proxies.introduce).following).mapRequests proxies.guide

end Tollbooth
