import Tollbooth.Dialogue
import Tollbooth.Facilitator.Credentials
import Tollbooth.Facilitator.Error
import Tollbooth.Json.Verbatim
/-!
# Requests to a facilitator

Every request is a document that names the action and has its parameters.  Payload and requirements
are sent on as they were received.  The body is written once: the bytes that are signed are those
that are sent.

The headers are the credentials' and then those of a provider of extra headers, each of which takes
the place of any header of its name.

Payload and requirements come from somebody else, and neither of them is looked into more than it
has to be.  Of a payload the version is needed; of the requirements nothing is.
-/

set_option autoImplicit false

namespace Tollbooth

open Json

/-- Where a request is meant to go, as its headers say. -/
def Action.targetUri : Action → String
  | .verify => "v1/x402/verify"
  | .settle => "v1/x402/settle"
  | .supported => "v1/x402/supported"

/-- A payment with the offer that it is made for. -/
structure PaymentCall where
  version : ProtocolVersion
  payload : Verbatim
  requirements : Verbatim

namespace PaymentCall

/-- Reads a document of a call. -/
def readPart (part : CallPart) (text : Bytes) : Except FacilitatorError Verbatim :=
  match Verbatim.read.ofText text with
  | .ok v => .ok v
  | .error fault => .error (.invalidJson part fault)

/-- The call with these documents.  The version is looked at first, then the payload, then the
requirements. -/
def ofTexts (payload requirements : Bytes) : Except FacilitatorError PaymentCall :=
  match ProtocolVersion.detect payload with
  | .error e => .error (.versionUnknown e)
  | .ok version => do
    let payload ← readPart .payload payload
    let requirements ← readPart .requirements requirements
    return ⟨version, payload, requirements⟩

/-- The parameters of the call. -/
def params (call : PaymentCall) : Doc :=
  .ofMembers [
    ("x402Version", call.version.toDoc),
    ("paymentPayload", call.payload.toDoc),
    ("paymentRequirements", call.requirements.toDoc)]

end PaymentCall

/-- The body of a request. -/
def Action.request (action : Action) (params : Doc) : Doc :=
  .ofMembers [("action", .ofString action.name), ("params", params)]

/-! ## Headers

Credentials are texts of any kind, and a text with a control in it cannot be sent.  This is found
out before a provider of extra headers is asked for anything. -/

/-- What a signed request takes from the moment it is made: the time in milliseconds and a name for
the request. -/
structure Stamp where
  time : Nat
  requestId : String
deriving DecidableEq

/-- The stamp at a time, with a name for the request from random bytes: a UUID of version 4. -/
def Stamp.ofRandom (time : Nat) (random : Octets 16) : Stamp :=
  let mark (i : Nat) (b : UInt8) : UInt8 :=
    if i = 6 then b % 16 + 0x40 else if i = 8 then b % 64 + 0x80 else b
  let digits := (Hex.encode (random.toBytes.zipIdx.map fun (b, i) => mark i b)).toList
  let part (first count : Nat) : String := .ofList ((digits.drop first).take count)
  ⟨time, "-".intercalate [part 0 8, part 8 4, part 12 4, part 16 4, part 20 12]⟩

/-- A header value of a credential. -/
def headerValue (name value : String) : Except FacilitatorError Bytes :=
  if Http.isValue (Bytes.ofString value) then .ok (Bytes.ofString value)
  else .error (.invalidHeader name)

/-- The headers of a request that is signed with credentials. -/
def Credentials.headers (c : Credentials) (action : Action) (stamp : Stamp) (body : Bytes) :
    Except FacilitatorError Http.Headers := do
  let key ← headerValue "X-Api-Key" c.key
  let signature ← headerValue "X-Signature" (c.sign stamp.time body)
  let passphrase ← c.passphrase.mapM (headerValue "X-Passphrase")
  let forwardedFor ← headerValue "X-Forwarded-For" c.forwardedFor
  let requestId ← headerValue "X-Request-Id" stamp.requestId
  return [
    ("x-api-key", key),
    ("x-timestamp", Bytes.ofString (toString stamp.time)),
    ("x-signature", signature)] ++
    (passphrase.map fun p => ("x-passphrase", p)).toList ++ [
    ("x-forwarded-for", forwardedFor),
    ("x-request-id", requestId),
    ("x-target-uri", Bytes.ofString action.targetUri)]

/-- Extra headers for each action. -/
structure ExtraHeaders where
  verify : Http.Headers
  settle : Http.Headers
  supported : Http.Headers
deriving DecidableEq, Inhabited

/-- The extra headers for an action. -/
def ExtraHeaders.headersFor (extra : ExtraHeaders) : Action → Http.Headers
  | .verify => extra.verify
  | .settle => extra.settle
  | .supported => extra.supported

/-- A source of extra headers, which is asked once for each request. -/
abbrev HeaderProvider := Dialogue (Except String ExtraHeaders)

/-- The headers with others put over them one by one. -/
def overlay (headers extra : Http.Headers) : Http.Headers :=
  extra.foldl (fun hs (name, value) => hs.insert name value) headers

/-- The header that says what the body is. -/
def contentHeaders : Http.Headers := [("content-type", Bytes.ofString "application/json")]

/-- The headers of a request: content, credentials and extra headers. -/
def requestHeaders (credentials : Option Credentials) (provider : Option HeaderProvider)
    (action : Action) (stamp : Stamp) (body : Bytes) :
    Dialogue (Except FacilitatorError Http.Headers) :=
  let signed : Except FacilitatorError Http.Headers :=
    match credentials with
    | none => .ok contentHeaders
    | some c => (c.headers action stamp body).map (contentHeaders ++ ·)
  match signed with
  | .error e => return .error e
  | .ok headers =>
    match provider with
    | none => return .ok headers
    | some provider => do
      match ← provider with
      | .error reason => return .error (.noExtraHeaders reason)
      | .ok extra => return .ok (overlay headers (extra.headersFor action))

end Tollbooth
