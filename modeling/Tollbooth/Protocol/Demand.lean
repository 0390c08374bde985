import Tollbooth.Json.Verbatim
import Tollbooth.Json.Record
import Tollbooth.Protocol.Version
/-!
# Payment demands

A server that wants to be paid answers with a demand: what the resource is and a list of offers,
each saying what payment would be accepted.  The two protocol versions have different documents.

Offers are usually kept verbatim (`Demand Verbatim`): a client signs for an offer exactly as it
was made, and an offer that cannot be read must not spoil the others.  The offer types of both
versions are here as well.

A demand takes its offers as a parameter, with a way to read and to write them.  So one definition
serves for offers that are kept and for offers that are read.
-/

set_option autoImplicit false

namespace Tollbooth

open Json

/-- The resource that is paid for. -/
structure ResourceInfo where
  description : String
  mimeType : String
  url : String
deriving DecidableEq, Inhabited

namespace ResourceInfo

def descriptionSlot : Slot String := .defaulted "description" readString ""
def mimeTypeSlot : Slot String := .defaulted "mimeType" readString ""
def urlSlot : Slot String := .required "url" readString

/-- Reads a resource. -/
def read : Reader ResourceInfo :=
  readRecord [descriptionSlot.field, mimeTypeSlot.field, urlSlot.field] fun r =>
    return {
      description := ← r.get descriptionSlot
      mimeType := ← r.get mimeTypeSlot
      url := ← r.get urlSlot }

/-- Writes a resource. -/
def toDoc (i : ResourceInfo) : Doc :=
  .ofMembers [
    ("description", .ofString i.description),
    ("mimeType", .ofString i.mimeType),
    ("url", .ofString i.url)]

end ResourceInfo

/-! ## Offers

The versions name the same things differently, and the first has the resource within each offer. -/

/-- An offer of the first version. -/
structure OfferV1 where
  scheme : String
  network : String
  maxAmountRequired : String
  resource : String
  description : String
  mimeType : String
  outputSchema : Option Value
  payTo : String
  maxTimeoutSeconds : Nat
  asset : String
  extra : Option Value

namespace OfferV1

def schemeSlot : Slot String := .required "scheme" readString
def networkSlot : Slot String := .required "network" readString
def amountSlot : Slot String := .required "maxAmountRequired" readString
def resourceSlot : Slot String := .defaulted "resource" readString ""
def descriptionSlot : Slot String := .defaulted "description" readString ""
def mimeTypeSlot : Slot String := .defaulted "mimeType" readString ""
def outputSchemaSlot : Slot (Option Value) := .optional "outputSchema" readGeneric
def payToSlot : Slot String := .required "payTo" readString
def timeoutSlot : Slot Nat := .defaulted "maxTimeoutSeconds" (readNat Word.bound64) 0
def assetSlot : Slot String := .defaulted "asset" readString ""
def extraSlot : Slot (Option Value) := .optional "extra" readGeneric

/-- Reads an offer. -/
def read : Reader OfferV1 :=
  readRecord [schemeSlot.field, networkSlot.field, amountSlot.field, resourceSlot.field,
      descriptionSlot.field, mimeTypeSlot.field, outputSchemaSlot.field, payToSlot.field,
      timeoutSlot.field, assetSlot.field, extraSlot.field] fun r =>
    return {
      scheme := ← r.get schemeSlot
      network := ← r.get networkSlot
      maxAmountRequired := ← r.get amountSlot
      resource := ← r.get resourceSlot
      description := ← r.get descriptionSlot
      mimeType := ← r.get mimeTypeSlot
      outputSchema := ← r.get outputSchemaSlot
      payTo := ← r.get payToSlot
      maxTimeoutSeconds := ← r.get timeoutSlot
      asset := ← r.get assetSlot
      extra := ← r.get extraSlot }

/-- Writes an offer. -/
def toDoc (o : OfferV1) : Doc :=
  .ofPresent [
    ("scheme", some (.ofString o.scheme)),
    ("network", some (.ofString o.network)),
    ("maxAmountRequired", some (.ofString o.maxAmountRequired)),
    ("resource", some (.ofString o.resource)),
    ("description", some (.ofString o.description)),
    ("mimeType", some (.ofString o.mimeType)),
    ("outputSchema", o.outputSchema.map Value.toDoc),
    ("payTo", some (.ofString o.payTo)),
    ("maxTimeoutSeconds", some (.ofNat o.maxTimeoutSeconds)),
    ("asset", some (.ofString o.asset)),
    ("extra", o.extra.map Value.toDoc)]

end OfferV1

/-- An offer of the second version, with accounts and extra parameters of some types. -/
structure Offer (Account Extra : Type) where
  scheme : String
  network : String
  amount : String
  payTo : Account
  maxTimeoutSeconds : Nat
  asset : Option Account
  extra : Extra

namespace Offer

variable {Account Extra : Type}

def schemeSlot : Slot String := .required "scheme" readString
def networkSlot : Slot String := .required "network" readString
def amountSlot : Slot String := .required "amount" readString
def payToSlot (account : Reader Account) : Slot Account := .required "payTo" account
def timeoutSlot : Slot Nat := .defaulted "maxTimeoutSeconds" (readNat Word.bound64) 0
def assetSlot (account : Reader Account) : Slot (Option Account) := .nullable "asset" account
def extraSlot (extra : Reader Extra) (none : Extra) : Slot Extra := .defaulted "extra" extra none

/-- Reads an offer; `noExtra` stands for absent extra parameters. -/
def readWith (account : Reader Account) (extra : Reader Extra) (noExtra : Extra) :
    Reader (Offer Account Extra) :=
  readRecord [schemeSlot.field, networkSlot.field, amountSlot.field, (payToSlot account).field,
      timeoutSlot.field, (assetSlot account).field, (extraSlot extra noExtra).field] fun r =>
    return {
      scheme := ← r.get schemeSlot
      network := ← r.get networkSlot
      amount := ← r.get amountSlot
      payTo := ← r.get (payToSlot account)
      maxTimeoutSeconds := ← r.get timeoutSlot
      asset := ← r.get (assetSlot account)
      extra := ← r.get (extraSlot extra noExtra) }

/-- Writes an offer. -/
def toDocWith (account : Account → Doc) (extra : Extra → Doc) (o : Offer Account Extra) : Doc :=
  .ofMembers [
    ("scheme", .ofString o.scheme),
    ("network", .ofString o.network),
    ("amount", .ofString o.amount),
    ("payTo", account o.payTo),
    ("maxTimeoutSeconds", .ofNat o.maxTimeoutSeconds),
    ("asset", .ofOption account o.asset),
    ("extra", extra o.extra)]

end Offer

/-- An offer of the second version as it is read when nothing is known of its network: accounts are
texts and the extra parameters are any value. -/
abbrev GenericOffer := Offer String (Option Value)

namespace GenericOffer

/-- Reads an offer. -/
def read : Reader GenericOffer := Offer.readWith readString (readOption readGeneric) none

/-- Writes an offer. -/
def toDoc (o : GenericOffer) : Doc := o.toDocWith Doc.ofString (Doc.ofOption Value.toDoc)

end GenericOffer

/-! ## Demands

A demand says which version it is of, and one that says another is not read. -/

/-- A demand of the first version. -/
structure DemandV1 (O : Type) where
  accepts : List O
  error : Option String

namespace DemandV1

variable {O : Type}

def versionSlot : Slot Unit := .required "x402Version" (ProtocolVersion.readMarker .v1)
def acceptsSlot (offer : Reader O) : Slot (List O) := .defaulted "accepts" (readList offer) []
def errorSlot : Slot (Option String) := .optional "error" readString

/-- Reads a demand. -/
def readWith (offer : Reader O) : Reader (DemandV1 O) :=
  readRecord [versionSlot.field, (acceptsSlot offer).field, errorSlot.field] fun r => do
    r.get versionSlot
    return { accepts := ← r.get (acceptsSlot offer), error := ← r.get errorSlot }

/-- Writes a demand. -/
def toDocWith (offer : O → Doc) (d : DemandV1 O) : Doc :=
  .ofPresent [
    ("x402Version", some (ProtocolVersion.toDoc .v1)),
    ("accepts", some (.ofList (d.accepts.map offer))),
    ("error", d.error.map Doc.ofString)]

end DemandV1

/-- A demand of the second version. -/
structure DemandV2 (O : Type) where
  error : Option String
  resource : Option ResourceInfo
  accepts : List O

namespace DemandV2

variable {O : Type}

def versionSlot : Slot Unit := .required "x402Version" (ProtocolVersion.readMarker .v2)
def errorSlot : Slot (Option String) := .optional "error" readString
def resourceSlot : Slot (Option ResourceInfo) := .optional "resource" ResourceInfo.read
def acceptsSlot (offer : Reader O) : Slot (List O) := .defaulted "accepts" (readList offer) []

/-- Reads a demand. -/
def readWith (offer : Reader O) : Reader (DemandV2 O) :=
  readRecord [versionSlot.field, errorSlot.field, resourceSlot.field, (acceptsSlot offer).field]
    fun r => do
      r.get versionSlot
      return {
        error := ← r.get errorSlot
        resource := ← r.get resourceSlot
        accepts := ← r.get (acceptsSlot offer) }

/-- Writes a demand. -/
def toDocWith (offer : O → Doc) (d : DemandV2 O) : Doc :=
  .ofPresent [
    ("x402Version", some (ProtocolVersion.toDoc .v2)),
    ("error", d.error.map Doc.ofString),
    ("resource", d.resource.map ResourceInfo.toDoc),
    ("accepts", some (.ofList (d.accepts.map offer)))]

end DemandV2

/-- A demand of either version, its offers kept verbatim. -/
inductive Demand where
  | v1 (demand : DemandV1 Verbatim)
  | v2 (demand : DemandV2 Verbatim)

namespace Demand

/-- The version of a demand. -/
def version : Demand → ProtocolVersion
  | .v1 _ => .v1
  | .v2 _ => .v2

/-- The offers of a demand. -/
def accepts : Demand → List Verbatim
  | .v1 d => d.accepts
  | .v2 d => d.accepts

/-- What the server says went wrong, if anything. -/
def error : Demand → Option String
  | .v1 d => d.error
  | .v2 d => d.error

/-- The resource that is paid for, if the demand says. -/
def resource : Demand → Option ResourceInfo
  | .v1 _ => none
  | .v2 d => d.resource

/-- Reads a demand of one version. -/
def read : ProtocolVersion → Reader Demand
  | .v1 => fun site d => Demand.v1 <$> DemandV1.readWith Verbatim.read site d
  | .v2 => fun site d => Demand.v2 <$> DemandV2.readWith Verbatim.read site d

end Demand

/-! ## Payments

What is paid is repeated in the payment, so that whoever receives it need not remember what was
demanded. -/

/-- A payment of the second version: the offer that is accepted and what the scheme adds to it. -/
structure Payment (Accepted Payload : Type) where
  accepted : Accepted
  payload : Payload
  resource : Option ResourceInfo

namespace Payment

variable {Accepted Payload : Type}

def acceptedSlot (accepted : Reader Accepted) : Slot Accepted := .required "accepted" accepted
def payloadSlot (payload : Reader Payload) : Slot Payload := .required "payload" payload
def resourceSlot : Slot (Option ResourceInfo) := .optional "resource" ResourceInfo.read
def versionSlot : Slot Unit := .required "x402Version" (ProtocolVersion.readMarker .v2)

/-- Reads a payment. -/
def readWith (accepted : Reader Accepted) (payload : Reader Payload) :
    Reader (Payment Accepted Payload) :=
  readRecord [(acceptedSlot accepted).field, (payloadSlot payload).field, resourceSlot.field,
      versionSlot.field] fun r => do
    let accepted ← r.get (acceptedSlot accepted)
    let payload ← r.get (payloadSlot payload)
    let resource ← r.get resourceSlot
    r.get versionSlot
    return { accepted, payload, resource }

/-- Writes a payment. -/
def toDocWith (accepted : Accepted → Doc) (payload : Payload → Doc)
    (p : Payment Accepted Payload) : Doc :=
  .ofPresent [
    ("accepted", some (accepted p.accepted)),
    ("payload", some (payload p.payload)),
    ("resource", p.resource.map ResourceInfo.toDoc),
    ("x402Version", some (ProtocolVersion.toDoc .v2))]

end Payment

end Tollbooth
