import Tollbooth.Exact.Authorization
import Tollbooth.Protocol.Demand
/-!
# What the exact scheme puts into documents

The scheme `exact` pays the offered amount by a signed transfer authorization.  `ExactPayload` is
what it adds to a payment.  `DomainNames` is what it takes from an offer's extra parameters: the
name and the version of the token's signing domain, in place of the known ones.  Extra parameters
that cannot be read as a whole are passed over.
-/

set_option autoImplicit false

namespace Tollbooth

open Json

/-- The name of the exact scheme. -/
def exactScheme : String := "exact"

/-- A signed authorization. -/
structure ExactPayload where
  signature : Bytes
  authorization : Authorization
deriving DecidableEq

namespace ExactPayload

def signatureSlot : Slot Bytes := .required "signature" readBytes
def authorizationSlot : Slot Authorization := .required "authorization" Authorization.read

/-- Reads a signed authorization. -/
def read : Reader ExactPayload :=
  readRecord [signatureSlot.field, authorizationSlot.field] fun r =>
    return {
      signature := ← r.get signatureSlot
      authorization := ← r.get authorizationSlot }

/-- Writes a signed authorization. -/
def toDoc (p : ExactPayload) : Doc :=
  .ofMembers [("signature", .ofBytes p.signature), ("authorization", p.authorization.toDoc)]

end ExactPayload

/-- A payment by the exact scheme: the accepted offer as it was made, and a signed
authorization. -/
abbrev ExactPayment := Payment Verbatim ExactPayload

namespace ExactPayment

/-- Reads a payment by the exact scheme. -/
def read : Reader ExactPayment := Payment.readWith Verbatim.read ExactPayload.read

/-- Writes a payment by the exact scheme. -/
def toDoc (p : ExactPayment) : Doc := p.toDocWith Verbatim.toDoc ExactPayload.toDoc

end ExactPayment

/-- The name and the version of a token's signing domain, as far as an offer gives them. -/
structure DomainNames where
  name : Option String
  version : Option String
deriving DecidableEq, Inhabited

namespace DomainNames

/-- Neither name nor version. -/
def none : DomainNames := ⟨.none, .none⟩

def nameSlot : Slot (Option String) := .optional "name" readString
def versionSlot : Slot (Option String) := .optional "version" readString

/-- Reads a name and a version. -/
def read : Reader DomainNames :=
  readRecord [nameSlot.field, versionSlot.field] fun r =>
    return { name := ← r.get nameSlot, version := ← r.get versionSlot }

/-- Writes a name and a version; absent ones are null. -/
def toDoc (n : DomainNames) : Doc :=
  .ofMembers [
    ("name", .ofOption Doc.ofString n.name),
    ("version", .ofOption Doc.ofString n.version)]

/-- What the extra parameters of an offer give. -/
def ofExtra (extra : Option Value) : DomainNames :=
  (extra.bind fun v => (read.ofValue v).toOption).getD none

end DomainNames

/-- An offer whose accounts are addresses and whose extra parameters name a signing domain. -/
abbrev ExactOffer := Offer Address DomainNames

namespace ExactOffer

/-- Reads an offer. -/
def read : Reader ExactOffer := Offer.readWith readAddress DomainNames.read .none

/-- Writes an offer. -/
def toDoc (o : ExactOffer) : Doc :=
  o.toDocWith (fun a => Doc.ofString a.lower) DomainNames.toDoc

end ExactOffer

end Tollbooth
