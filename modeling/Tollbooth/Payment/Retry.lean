import Tollbooth.Http.Message
import Tollbooth.Payment.Candidate
import Tollbooth.Protocol.Outcome
import Tollbooth.Text.Base64
/-!
# Paying for a request

A request is sent as it is.  If the answer is a demand for payment, a candidate is selected and
signed, and the request is sent once more with the payment in a header.  A second demand is final.

The request must be one that can be sent twice, which is looked at before anybody is asked to sign:
a payment that cannot be sent would be signed for nothing.  Whether the signed text can stand in a
header is found out before the request is repeated, so that a payment is sent whole or not at all.

* `readDemand` finds the demand in a response: in a header for the second version, else in the body
  for the first.
* `settlementOf` finds in a paid response how the payment was settled.
* `Payer.send` is the whole conversation.
-/

set_option autoImplicit false

namespace Tollbooth

open Json

/-- The status of a response that demands payment. -/
def paymentRequired : Nat := 402

/-- The header that carries a demand of the second version. -/
def demandHeader : String := "payment-required"

/-- The header that carries a payment. -/
def paymentHeader : ProtocolVersion → String
  | .v1 => "x-payment"
  | .v2 => "payment-signature"

/-- The headers that may carry a settlement, the preferred one first. -/
def settlementHeaders : List String := ["payment-response", "x-payment-response"]

/-- Reads a document from a header value, which has it in base64. -/
def readHeader {α : Type} (read : Reader α) (value : Bytes) : Option α :=
  (Base64.decode? value).bind fun text => (read.ofText text).toOption

/-- The demand in a response: a readable one in the first header of its name, else one in the
body. -/
def readDemand (response : Http.Response) : Option Demand :=
  match (response.headers.get? demandHeader).bind (readHeader (Demand.read .v2)) with
  | some demand => some demand
  | none => response.body.bind fun text => ((Demand.read .v1).ofText text).toOption

/-- How the payment of a response was settled, if a header says so.  The first header that is there
counts, whether or not it can be read. -/
def settlementOf (response : Http.Response) : Option Settlement :=
  (settlementHeaders.findSome? response.headers.get?).bind (readHeader Settlement.read)

/-- Why a request has no response. -/
inductive SendError where
  | payment (error : PaymentError)
  | transport (fault : Http.TransportFault)
deriving DecidableEq

/-- Someone who pays for requests. -/
structure Payer where
  schemes : List Scheme
  select : Selector
  /-- How long making a payment may take, in milliseconds; without a limit if absent. -/
  timeout : Option Nat

namespace Payer

/-- How long making a payment may take unless it is set. -/
def defaultTimeout : Nat := 30000

/-- The payer that pays the first offer it can. -/
def ofSchemes (schemes : List Scheme) : Payer := ⟨schemes, .first, some defaultTimeout⟩

/-- Makes a payment for a demand: the name and the value of the header that carries it. -/
def pay (payer : Payer) (occasion : Occasion) (demand : Demand) :
    Dialogue (Except PaymentError (String × Bytes)) :=
  match payer.select (candidates payer.schemes demand) with
  | none => return .error .noSchemeRegistered
  | some ⟨candidate, _⟩ => do
    match ← (candidate.sign occasion).limit? payer.timeout with
    | none => return .error .timedOut
    | some (.error e) => return .error e
    | some (.ok text) =>
      let value := Bytes.ofString text
      if Http.isValue value then return .ok (paymentHeader demand.version, value)
      else return .error .invalidHeader

/-- Sends a request a second time with its payment. -/
def resend (request : Http.Request) (header : String × Bytes) :
    Dialogue (Except SendError Http.Response) := do
  let headers := Http.Headers.insert request.headers header.1 header.2
  match ← Dialogue.exchange { request with headers } with
  | .error fault => return .error (.transport fault)
  | .ok response =>
    if response.status = paymentRequired then
      return .error (.payment (.notAccepted ((readDemand response).bind Demand.error)))
    else return .ok response

/-- Answers a demand for payment. -/
def answerDemand (payer : Payer) (occasion : Occasion) (request : Http.Request)
    (response : Http.Response) : Dialogue (Except SendError Http.Response) :=
  if !request.isRepeatable then return .error (.payment .notRepeatable)
  else
    match readDemand response with
    | none => return .error (.payment .unreadableDemand)
    | some demand => do
      match ← payer.pay occasion demand with
      | .error e => return .error (.payment e)
      | .ok header => resend request header

/-- Sends a request and pays for it if that is demanded. -/
def send (payer : Payer) (occasion : Occasion) (request : Http.Request) :
    Dialogue (Except SendError Http.Response) := do
  match ← Dialogue.exchange request with
  | .error fault => return .error (.transport fault)
  | .ok response =>
    if response.status = paymentRequired then payer.answerDemand occasion request response
    else return .ok response

end Payer

end Tollbooth
