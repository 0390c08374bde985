import Tollbooth.Facilitator.Error
import Tollbooth.Protocol.Outcome
import Tollbooth.Protocol.Supported
import Tollbooth.Text.Lossy
/-!
# What a facilitator's reply means

A reply is an envelope with a code, a text and data.  It is a success if the status is 200 and the
code is zero; only then the data are the outcome that was asked for.  Otherwise the data may name a
reason and some details.

Status and code are looked at before the data, and the data are never asked whether they agree.
This is how replies are in fact read: data that report a settlement beside another status than 200
are only searched for a reason, and what they report is not seen.

* `verification`, `settlement` and `supported` say what a reply to each action means.
* A reply to a settlement that cannot be read, or that comes from a server that failed and names no
  reason, leaves it open whether the payment was settled, and is not taken as a failure.
-/

set_option autoImplicit false

namespace Tollbooth

open Json

/-- A reply: status and body. -/
structure Reply where
  status : Nat
  body : Bytes
deriving DecidableEq

/-- The envelope of a reply. -/
structure Envelope where
  remark : Remark
  data : Value

namespace Envelope

def codeSlot : Slot Int := .required "code" (readInt (-0x8000000000000000) 0x7fffffffffffffff)
def textSlot : Slot String := .defaulted "msg" readString ""
def dataSlot : Slot Value := .defaulted "data" readGeneric .null

/-- Reads an envelope. -/
def read : Reader Envelope :=
  readRecord [codeSlot.field, textSlot.field, dataSlot.field] fun r =>
    return {
      remark := ⟨← r.get codeSlot, ← r.get textSlot⟩
      data := ← r.get dataSlot }

end Envelope

/-- The envelope of a reply, if it has one. -/
def Reply.envelope? (reply : Reply) : Option Envelope := (Envelope.read.ofText reply.body).toOption

/-- The body of a reply as it is shown. -/
def Reply.shownBody (reply : Reply) : String := Text.lossy reply.body

/-- The details of a failure. -/
structure FailureData where
  invalidReason : Option String
  errorReason : Option String
  payer : Option String
  network : Option String
  transaction : Option String
deriving DecidableEq, Inhabited

namespace FailureData

/-- No details. -/
def none : FailureData := ⟨.none, .none, .none, .none, .none⟩

def invalidReasonSlot : Slot (Option String) :=
  (Slot.nullable "invalidReason" readString).orNamed "invalid_reason"
def errorReasonSlot : Slot (Option String) :=
  (Slot.nullable "errorReason" readString).orNamed "error_reason"
def payerSlot : Slot (Option String) := .nullable "payer" readString
def networkSlot : Slot (Option String) := .nullable "network" readString
def transactionSlot : Slot (Option String) := .nullable "transaction" readString

/-- Reads the details of a failure. -/
def read : Reader FailureData :=
  readRecord [invalidReasonSlot.field, errorReasonSlot.field, payerSlot.field, networkSlot.field,
      transactionSlot.field] fun r =>
    return {
      invalidReason := ← r.get invalidReasonSlot
      errorReason := ← r.get errorReasonSlot
      payer := ← r.get payerSlot
      network := ← r.get networkSlot
      transaction := ← r.get transactionSlot }

/-- The details that data give: none if they cannot be read as a whole. -/
def ofData (data : Value) : FailureData := (read.ofValue data).toOption.getD none

end FailureData

/-- A text that says something. -/
def nonEmpty (s : Option String) : Option String := s.filter (· ≠ "")

/-! ## The offer's network

A facilitator may leave out the network of a payment that it refuses.  Then it is the one that was
asked about, which stands in the requirements. -/

/-- The network of an offer. -/
def offerNetworkSlot : Slot (Option String) := .nullable "network" readString

/-- Reads the network of an offer; nothing else of it has to be readable. -/
def readOfferNetwork : Reader (Option String) :=
  readRecord [offerNetworkSlot.field] fun r => r.get offerNetworkSlot

/-- The network that the requirements name, if any. -/
def offerNetwork (requirements : Bytes) : Option String :=
  nonEmpty ((readOfferNetwork.ofText requirements).toOption.getD none)

/-! ## Outcomes

The three actions go the same way: no envelope, an envelope of a success, any other envelope.  They
differ in what they make of each. -/

/-- The status and the code of a reply say success. -/
def Reply.isSuccess (reply : Reply) (e : Envelope) : Bool :=
  reply.status = 200 && e.remark.code = 0

/-- The error of a failure that names no reason. -/
def Reply.unexplained (reply : Reply) (action : Action) (e : Envelope) : FacilitatorError :=
  if reply.status ≠ 200 then .badStatus action reply.status e.remark
  else .refused action e.remark

/-- The error of a reply that cannot be read. -/
def Reply.undecodable (reply : Reply) (action : Action) : FacilitatorError :=
  .undecodable action reply.status reply.shownBody

/-- The error of a settlement's reply that cannot be read. -/
def Reply.doubtful (reply : Reply) : FacilitatorError :=
  .outcomeUnknown (.undecodable reply.status reply.shownBody)

/-- The server failed. -/
def Reply.isServerError (reply : Reply) : Bool := 500 ≤ reply.status && reply.status < 600

/-- What a reply says of the validity of a payment. -/
def Reply.verification (reply : Reply) (requirements : Bytes) :
    Except FacilitatorError Verification :=
  match reply.envelope? with
  | none => .error (reply.undecodable .verify)
  | some e =>
    let failure := FailureData.ofData e.data
    let network := (nonEmpty failure.network).or (offerNetwork requirements)
    if reply.isSuccess e then
      match Verification.read.ofValue e.data with
      | .error _ => .error (reply.undecodable .verify)
      | .ok (.valid payer) => .ok (.valid payer)
      | .ok (.invalid reason payer) =>
        .error (.notVerified reason (nonEmpty payer) network e.remark)
    else
      match nonEmpty failure.invalidReason with
      | some reason => .error (.notVerified reason (nonEmpty failure.payer) network e.remark)
      | none => .error (reply.unexplained .verify e)

/-- What a reply says of the settlement of a payment. -/
def Reply.settlement (reply : Reply) (requirements : Bytes) : Except FacilitatorError Settlement :=
  match reply.envelope? with
  | none => .error reply.doubtful
  | some e =>
    if reply.isSuccess e then
      match Settlement.read.ofValue e.data with
      | .error _ => .error reply.doubtful
      | .ok (.settled transaction network payer) => .ok (.settled transaction network payer)
      | .ok (.failed reason network payer transaction) =>
        .error (.notSettled reason (nonEmpty payer)
          ((nonEmpty (some network)).or (offerNetwork requirements)) (nonEmpty transaction)
          e.remark)
    else
      let failure := FailureData.ofData e.data
      match nonEmpty failure.errorReason with
      | some reason =>
        .error (.notSettled reason (nonEmpty failure.payer)
          ((nonEmpty failure.network).or (offerNetwork requirements))
          (nonEmpty failure.transaction) e.remark)
      | none =>
        if reply.isServerError then
          .error (.outcomeUnknown (.serverFailed reply.status e.remark))
        else .error (reply.unexplained .settle e)

/-- What a reply says of what is supported. -/
def Reply.supported (reply : Reply) : Except FacilitatorError Supported :=
  match reply.envelope? with
  | none => .error (reply.undecodable .supported)
  | some e =>
    if reply.isSuccess e then
      match Supported.read.ofValue e.data with
      | .error _ => .error (reply.undecodable .supported)
      | .ok supported => .ok supported
    else .error (reply.unexplained .supported e)

end Tollbooth
