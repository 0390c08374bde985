import Tollbooth.Http.Message
import Tollbooth.Http.Status
import Tollbooth.Protocol.Version
/-!
# What can go wrong with a facilitator

A failed call says whether the request was refused, could not be carried out, or may have been
carried out without anyone knowing.  The last case is kept apart because a settlement moves money:
`outcomeUnknown` must not be tried again without looking.

Each error carries what its message needs, so that nothing has to be looked up when it is shown.
Whoever would repeat a call asks `isTransport` and `isOutcomeUnknown` first.
-/

set_option autoImplicit false

namespace Tollbooth

/-- What is asked of a facilitator. -/
inductive Action where
  | verify
  | settle
  | supported
deriving DecidableEq, Inhabited

/-- The name of an action. -/
def Action.name : Action → String
  | .verify => "x402.verify"
  | .settle => "x402.settle"
  | .supported => "x402.supported"

/-- What the facilitator itself said of a failure. -/
structure Remark where
  code : Int
  text : String
deriving DecidableEq

/-- Why nobody knows whether a settlement was carried out. -/
inductive Doubt where
  /-- The exchange failed after the request may have been delivered. -/
  | interrupted
  /-- The answer cannot be read. -/
  | undecodable (status : Nat) (body : String)
  /-- The server failed without naming a reason. -/
  | serverFailed (status : Nat) (remark : Remark)
deriving DecidableEq

/-- What is said of a doubt. -/
def Doubt.message : Doubt → String
  | .interrupted => "the exchange was interrupted"
  | .undecodable status body =>
    "undecodable response (http=" ++ Http.statusText status ++ "): " ++ body
  | .serverFailed status remark =>
    "http=" ++ Http.statusText status ++ " code=" ++ toString remark.code ++ " msg=" ++ remark.text

/-- Which of the two documents of a call. -/
inductive CallPart where
  | payload
  | requirements
deriving DecidableEq

/-- The name of a document of a call. -/
def CallPart.name : CallPart → String
  | .payload => "Payment payload"
  | .requirements => "Payment requirements"

/-- Why a call of a facilitator failed. -/
inductive FacilitatorError where
  /-- The URL of the facilitator is none. -/
  | invalidUrl
  /-- A document is no JSON text. -/
  | invalidJson (part : CallPart) (fault : Json.Fault)
  /-- The version of the payload is not known. -/
  | versionUnknown (error : DetectError)
  /-- A credential cannot be sent as a header. -/
  | invalidHeader (name : String)
  /-- Extra headers could not be had. -/
  | noExtraHeaders (reason : String)
  /-- The request failed on its way. -/
  | transport (action : Action) (fault : Http.TransportFault)
  /-- The answer cannot be read. -/
  | undecodable (action : Action) (status : Nat) (body : String)
  /-- The answer has another status than 200, and names no reason. -/
  | badStatus (action : Action) (status : Nat) (remark : Remark)
  /-- The facilitator refuses, and names no reason. -/
  | refused (action : Action) (remark : Remark)
  /-- The payment is not valid. -/
  | notVerified (reason : String) (payer network : Option String) (remark : Remark)
  /-- The payment was not settled. -/
  | notSettled (reason : String) (payer network transaction : Option String) (remark : Remark)
  /-- The payment may or may not have been settled. -/
  | outcomeUnknown (doubt : Doubt)
deriving DecidableEq

namespace FacilitatorError

/-- Code and text of a remark. -/
def remarkText (remark : Remark) : String :=
  "code=" ++ toString remark.code ++ " msg=" ++ remark.text

/-- What is said of a failed call. -/
def message : FacilitatorError → String
  | .invalidUrl => "URL parse error: Failed to parse facilitator url"
  | .invalidJson part fault => "Invalid JSON: " ++ part.name ++ ": " ++ fault.message
  | .versionUnknown e => "Failed to detect payload version: " ++ e.message
  | .invalidHeader name => "Invalid value for header " ++ name
  | .noExtraHeaders reason => "Auth provider failed: " ++ reason
  | .transport action fault => "HTTP error: " ++ action.name ++ ": " ++ fault.message
  | .undecodable action status body =>
    "Undecodable facilitator response (" ++ Http.statusText status ++ "): " ++ action.name ++
      ": " ++ body
  | .badStatus action status remark =>
    "Unexpected HTTP status " ++ Http.statusText status ++ ": " ++ action.name ++ ": " ++
      remarkText remark
  | .refused action remark =>
    "Facilitator refused the request: " ++ action.name ++ ": " ++ remarkText remark
  | .notVerified reason _ _ _ => "Payment verification rejected: " ++ reason
  | .notSettled reason _ _ _ _ => "Payment settlement rejected: " ++ reason
  | .outcomeUnknown doubt => "Settlement outcome unknown: " ++ doubt.message

/-- The request failed on its way and was not carried out, so it may be tried again. -/
def isTransport : FacilitatorError → Bool
  | .transport _ _ => true
  | _ => false

/-- The payment may or may not have been settled. -/
def isOutcomeUnknown : FacilitatorError → Bool
  | .outcomeUnknown _ => true
  | _ => false

/-- The payer of a rejected payment, if the facilitator says. -/
def payer : FacilitatorError → Option String
  | .notVerified _ payer _ _ => payer
  | .notSettled _ payer _ _ _ => payer
  | _ => none

/-- The network of a rejected payment, if it is known. -/
def network : FacilitatorError → Option String
  | .notVerified _ _ network _ => network
  | .notSettled _ _ network _ _ => network
  | _ => none

end FacilitatorError

end Tollbooth
