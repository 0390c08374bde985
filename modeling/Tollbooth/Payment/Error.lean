import Tollbooth.Chain.Address
import Tollbooth.Chain.Id
import Tollbooth.Text.Quoted
/-!
# What can go wrong with a payment

Every reason for which a payment is not made or not taken, with what is said of it.
-/

set_option autoImplicit false

namespace Tollbooth

/-- What is wrong with the terms of an authorization. -/
inductive AuthorizationFlaw where
  | validAfter (text : String)
  | validBefore (text : String)
  /-- The authorization would end before it starts. -/
  | emptyWindow
  | asset (text : String)
  | payTo (text : String)
deriving DecidableEq

/-- What is said of the flaw. -/
def AuthorizationFlaw.message : AuthorizationFlaw → String
  | .validAfter text => "validAfter " ++ Text.quoted text
  | .validBefore text => "validBefore " ++ Text.quoted text
  | .emptyWindow => "validBefore must be later than validAfter"
  | .asset text => "asset " ++ Text.quoted text
  | .payTo text => "payTo " ++ Text.quoted text

/-- Why a payment is not made or not taken. -/
inductive PaymentError where
  /-- The server's demand cannot be read. -/
  | unreadableDemand
  /-- No scheme can pay any offer. -/
  | noSchemeRegistered
  /-- The network cannot be paid on. -/
  | unsupportedNetwork (network : String)
  /-- The chain has no token to pay with when an offer names none. -/
  | noDefaultAsset (chain : ChainNumber)
  | invalidAmount (amount : String)
  | invalidAuthorization (flaw : AuthorizationFlaw)
  /-- The signing domain of the asset is not known. -/
  | metadataMissing (chain : ChainNumber) (asset : Address)
  /-- The holder of the key did not sign. -/
  | signingFailed (reason : String)
  /-- The payment cannot be sent as a header. -/
  | invalidHeader
  /-- The request cannot be sent a second time. -/
  | notRepeatable
  /-- The server did not take the payment. -/
  | notAccepted (reason : Option String)
  /-- Making the payment took too long. -/
  | timedOut
deriving DecidableEq

/-- What is said of a failed payment. -/
def PaymentError.message : PaymentError → String
  | .unreadableDemand => "Failed to parse 402 response: Invalid 402 response"
  | .noSchemeRegistered => "No registered scheme matches the offered payment requirements"
  | .unsupportedNetwork network => "Unsupported network: " ++ network
  | .noDefaultAsset chain =>
    "Unsupported network: " ++ chain.chainId.text ++ " has no default asset"
  | .invalidAmount amount => "Invalid amount: " ++ amount
  | .invalidAuthorization flaw => "Invalid authorization: " ++ flaw.message
  | .metadataMissing chain asset =>
    "Missing EIP-712 name/version for asset " ++ asset.checksum ++ " on " ++ chain.chainId.text
  | .signingFailed reason => "Failed to sign authorization: " ++ reason
  | .invalidHeader =>
    "Payment header is not a valid HTTP header value: failed to parse header value"
  | .notRepeatable =>
    "Request is not cloneable; streaming bodies cannot be retried with payment"
  | .notAccepted none => "Payment was not accepted by the server"
  | .notAccepted (some reason) => "Payment was not accepted by the server: " ++ reason
  | .timedOut => "Payment construction timed out"

end Tollbooth
