import Tollbooth.Duration
import Tollbooth.Facilitator.Cache
import Tollbooth.Facilitator.Reply
import Tollbooth.Facilitator.Request
/-!
# Calling a facilitator

A facilitator verifies and settles payments behind a single URL to which all actions are posted.
Each call sends at most one request and never tries again.

A client is a value: the functions `with…` and `without…` give another client, which has the same
settings but starts without a kept answer.

Time is given to a client from outside.  It is read where something is signed, where a kept answer
is looked for and where an answer is kept, and what it shows is an argument there; only the limit on
a request is part of the computation itself.
-/

set_option autoImplicit false

namespace Tollbooth

/-- A client of a facilitator. -/
structure Facilitator where
  url : Http.Url
  credentials : Option Credentials
  provider : Option HeaderProvider
  /-- How long a request may take, in milliseconds. -/
  timeout : Nat
  cache : SupportedCache

namespace Facilitator

/-- The URL that is called unless another is set. -/
def defaultUrl : String := "https://openapi-test.gateweb3.cc/api/v1/x402"

/-- How long a request may take unless it is set. -/
def defaultTimeout : Nat := 30000

/-- How long an answer is kept unless it is set. -/
def defaultLifetime : Nat := 600000

/-- The client for a URL, with the credentials that the environment has. -/
def ofUrl (env : Environment) (url : Http.Url) : Facilitator where
  url := url
  credentials := Credentials.ofEnvironment env
  provider := none
  timeout := defaultTimeout
  cache := .empty defaultLifetime

/-- The client for the text of a URL. -/
def ofText (env : Environment) (url : String) : Except FacilitatorError Facilitator :=
  match Http.Url.parse? url with
  | some url => .ok (ofUrl env url)
  | none => .error .invalidUrl

/-- The client for the default URL. -/
def default (env : Environment) : Except FacilitatorError Facilitator := ofText env defaultUrl

/-! ## Settings

What was kept under other settings may have been meant for somebody else, so no answer is taken
over. -/

/-- The same client without a kept answer. -/
def fresh (f : Facilitator) : Facilitator := { f with cache := f.cache.clear }

/-- The client with other credentials. -/
def withCredentials (f : Facilitator) (c : Credentials) : Facilitator :=
  { f.fresh with credentials := some c }

/-- The client without credentials: its requests are not signed. -/
def withoutCredentials (f : Facilitator) : Facilitator := { f.fresh with credentials := none }

/-- The client with a provider of extra headers. -/
def withProvider (f : Facilitator) (p : HeaderProvider) : Facilitator :=
  { f.fresh with provider := some p }

/-- The client with another limit on the time of a request. -/
def withTimeout (f : Facilitator) (ms : Nat) : Facilitator := { f.fresh with timeout := ms }

/-- The client that keeps an answer for another time. -/
def withLifetime (f : Facilitator) (ms : Nat) : Facilitator := { f with cache := .empty ms }

/-- The client that keeps no answer. -/
def withoutCache (f : Facilitator) : Facilitator := f.withLifetime 0

/-- The client as it is shown, up to what is kept. -/
def shown (f : Facilitator) : String :=
  "FacilitatorClient \x7b url: " ++ Text.quoted f.url.text ++ ", credentials: " ++
    (match f.credentials with
      | some c => "Some(" ++ c.shown ++ ")"
      | none => "None") ++
    ", auth_provider: " ++ (if f.provider.isSome then "true" else "false") ++ ", timeout: " ++
    (Duration.ofMilliseconds f.timeout).text

/-! ## Calls

Each call is in two parts: a request that is sent, or fails on its way, and what is made of the
reply.  The first is `call`, the same for all actions; the second is a matter of the reply alone.
Whether a failure on the way is final differs again, and only a settlement leaves it open. -/

/-- The request with these headers and this body. -/
def httpRequest (f : Facilitator) (headers : Http.Headers) (body : Bytes) : Http.Request :=
  .make "POST" f.url headers (.bytes body)

/-- Sends a body and waits for the whole reply. -/
def post (f : Facilitator) (headers : Http.Headers) (body : Bytes) :
    Dialogue (Except Http.TransportFault Reply) := do
  match ← (Dialogue.exchange (f.httpRequest headers body)).limit f.timeout with
  | none => return .error .interrupted
  | some (.error fault) => return .error fault
  | some (.ok response) =>
    match response.body with
    | none => return .error .interrupted
    | some body => return .ok ⟨response.status, body⟩

/-- Sends the request of an action: the result is what came of sending it. -/
def call (f : Facilitator) (action : Action) (stamp : Stamp) (params : Json.Doc) :
    Dialogue (Except FacilitatorError (Except Http.TransportFault Reply)) := do
  let body := (action.request params).text
  match ← requestHeaders f.credentials f.provider action stamp body with
  | .error e => return .error e
  | .ok headers => return .ok (← f.post headers body)

/-- Asks whether a payment is valid for the requirements.  Only a valid payment is a result. -/
def verify (f : Facilitator) (stamp : Stamp) (payload requirements : Bytes) :
    Dialogue (Except FacilitatorError Verification) :=
  match PaymentCall.ofTexts payload requirements with
  | .error e => return .error e
  | .ok call => do
    match ← f.call .verify stamp call.params with
    | .error e => return .error e
    | .ok (.error fault) => return .error (.transport .verify fault)
    | .ok (.ok reply) => return reply.verification requirements

/-- What a failure on the way means for a settlement: it is certain that nothing was settled only if
nothing was delivered. -/
def settleFault : Http.TransportFault → FacilitatorError
  | .undelivered => .transport .settle .undelivered
  | _ => .outcomeUnknown .interrupted

/-- Asks to settle a payment.  Only a settled payment is a result. -/
def settle (f : Facilitator) (stamp : Stamp) (payload requirements : Bytes) :
    Dialogue (Except FacilitatorError Settlement) :=
  match PaymentCall.ofTexts payload requirements with
  | .error e => return .error e
  | .ok call => do
    match ← f.call .settle stamp call.params with
    | .error e => return .error e
    | .ok (.error fault) => return .error (settleFault fault)
    | .ok (.ok reply) => return reply.settlement requirements

/-- Asks what is supported. -/
def supportedUncached (f : Facilitator) (stamp : Stamp) :
    Dialogue (Except FacilitatorError Supported) := do
  match ← f.call .supported stamp (.ofMembers []) with
  | .error e => return .error e
  | .ok (.error fault) => return .error (.transport .supported fault)
  | .ok (.ok reply) => return reply.supported

/-- How asking ends that was answered at this time, and the client afterwards, which keeps what it
was told.  If the clock cannot show when that expires, the call is broken off: it has no result, and
the client is as it was. -/
def keep (f : Facilitator) (now : Nat) : Except FacilitatorError Supported →
    Option (Except FacilitatorError Supported) × Facilitator
  | .error e => (some (.error e), f)
  | .ok s =>
    match f.cache.set? now s with
    | some cache => (some (.ok s), { f with cache })
    | none => (none, f)

/-- What is supported, from the kept answer if there is one at the time `asked`; else the answer is
kept from the time `answered` on.  The client afterwards comes with it. -/
def supported (f : Facilitator) (asked answered : Nat) (stamp : Stamp) :
    Dialogue (Option (Except FacilitatorError Supported) × Facilitator) :=
  match f.cache.get? asked with
  | some s => return (some (.ok s), f)
  | none => do return f.keep answered (← f.supportedUncached stamp)

end Facilitator

end Tollbooth
