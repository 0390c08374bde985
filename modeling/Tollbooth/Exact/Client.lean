import Tollbooth.Chain.Network
import Tollbooth.Exact.Payload
import Tollbooth.Exact.Resolver
import Tollbooth.Exact.Signer
import Tollbooth.Payment.Candidate
import Tollbooth.Text.Base64
/-!
# Paying by the exact scheme

The client takes the terms of an offer (`ExactTerms.ofOffer`), writes a fresh authorization for
them, resolves the signing domain of the asset and has the authorization signed.  The terms are
checked before anyone is asked anything.

`ExactClient.accept` says which offers of a demand the client takes up: each payment made for one of
them repeats the offer as it was made.

An offer is taken up by its scheme and the namespace of its network alone.  What else it names is a
text until its terms are looked at, so a candidate may turn out not to be payable when it is to be
signed.
-/

set_option autoImplicit false

namespace Tollbooth

open Json

/-- What an offer asks to be paid, and what is known of the asset's signing domain. -/
structure ExactTerms where
  chain : ChainNumber
  asset : Address
  payTo : Address
  amount : Amount
  names : DomainNames
deriving DecidableEq

namespace ExactTerms

/-- The chain of an offer. -/
def chain? (network : String) : Except PaymentError ChainNumber :=
  match ChainId.resolve? network with
  | none => .error (.unsupportedNetwork network)
  | some c =>
    match ChainNumber.ofChainId c with
    | .ok n => .ok n
    | .error _ => .error (.unsupportedNetwork network)

/-- The asset of an offer, and the default token of the chain if it is that one.  An offer that
names no asset means the default token. -/
def asset? (chain : ChainNumber) (asset : Option String) :
    Except PaymentError (Address × Option Token) :=
  match asset.filter (· ≠ "") with
  | some text =>
    match Address.parse? text with
    | some address => .ok (address, (Token.default? chain).filter (·.address = address))
    | none => .error (.invalidAuthorization (.asset text))
  | none =>
    match Token.default? chain with
    | some token => .ok (token.address, some token)
    | none => .error (.noDefaultAsset chain)

/-- The names of the signing domain: those that the offer gives, else those of a known token. -/
def namesFor (extra : Option Value) (token : Option Token) : DomainNames :=
  let given := DomainNames.ofExtra extra
  ⟨given.name.or (token.map (·.domainName)), given.version.or (token.map (·.domainVersion))⟩

/-- The terms of an offer.  Of several flaws the first in this order is named: network, asset,
payee, amount. -/
def ofOffer (offer : GenericOffer) : Except PaymentError ExactTerms := do
  let chain ← chain? offer.network
  let (asset, token) ← asset? chain offer.asset
  let some payTo := Address.parse? offer.payTo
    | .error (.invalidAuthorization (.payTo offer.payTo))
  let some amount := Amount.parse? offer.amount | .error (.invalidAmount offer.amount)
  return { chain, asset, payTo, amount, names := namesFor offer.extra token }

/-- What the separator of the terms is asked for with. -/
def query (t : ExactTerms) : DomainQuery := ⟨t.chain, t.asset, t.names.name, t.names.version⟩

end ExactTerms

/-- A client that pays by the exact scheme. -/
structure ExactClient where
  signer : Signer
  resolver : DomainResolver
  /-- How long an authorization is valid. -/
  validity : Duration

/-- A signed authorization and the domain that it was signed in. -/
structure SignedTransfer where
  payload : ExactPayload
  domain : ResolvedDomain

namespace ExactClient

/-- How long an authorization is valid unless it is set. -/
def defaultValidity : Duration := .ofSeconds 3600

/-- The client of a signer that asks no chain. -/
def ofSigner (signer : Signer) : ExactClient := ⟨signer, .default, defaultValidity⟩

/-- The client as it is shown. -/
def shown (client : ExactClient) : String :=
  "V2Eip155ExactClient \x7b resolver: " ++ client.resolver.shown ++ ", validity: " ++
    client.validity.text ++ ", .. \x7d"

/-- Signs a transfer on the terms of an offer. -/
def signTransfer (client : ExactClient) (occasion : Occasion) (terms : ExactTerms) :
    Dialogue (Except PaymentError SignedTransfer) := do
  let authorization := Authorization.fresh client.signer.address terms.payTo terms.amount
    occasion.now client.validity occasion.nonce
  match ← client.resolver.resolve terms.query with
  | .error e => return .error e
  | .ok domain =>
    match ← client.signer.signAuthorization authorization domain.separator with
    | .error e => return .error e
    | .ok signature => return .ok ⟨⟨signature.toBytes, authorization⟩, domain⟩

/-- Makes the payment for an offer, which it repeats as `accepted`. -/
def build (client : ExactClient) (occasion : Occasion) (offer : GenericOffer)
    (accepted : Verbatim) (resource : Option ResourceInfo) :
    Dialogue (Except PaymentError ExactPayment) :=
  match ExactTerms.ofOffer offer with
  | .error e => return .error e
  | .ok terms => do
    match ← client.signTransfer occasion terms with
    | .error e => return .error e
    | .ok signed => return .ok { accepted, payload := signed.payload, resource }

/-- Makes the payment for an offer that is known by its content only: it is repeated as it would
be written. -/
def createPayment (client : ExactClient) (occasion : Occasion) (offer : GenericOffer)
    (resource : Option ResourceInfo) : Dialogue (Except PaymentError ExactPayment) :=
  client.build occasion offer (.written offer.toDoc) resource

/-- The text of the header that carries a payment. -/
def headerText (payment : ExactPayment) : String :=
  Base64.encodeString (ExactPayment.toDoc payment).text

/-- The candidate for an offer, if it is of this scheme and its network is in the right
namespace. -/
def candidate? (client : ExactClient) (resource : Option ResourceInfo) (index : Nat)
    (original : Verbatim) : Option Candidate := do
  let offer ← (original.readAs GenericOffer.read).toOption
  guard (offer.scheme = exactScheme)
  let chain ← ChainId.resolve? offer.network
  guard (chain.ns = ChainNumber.ns)
  return {
    offerIndex := index
    chain
    asset := offer.asset.getD ""
    amount := offer.amount
    scheme := offer.scheme
    version := ProtocolVersion.v2.number
    payTo := offer.payTo
    sign := fun occasion => do
      match ← client.build occasion offer original resource with
      | .error e => return .error e
      | .ok payment => return .ok (headerText payment) }

/-- The candidates that a demand gives the client: none if it is of the first version. -/
def accept (client : ExactClient) : Demand → List Candidate
  | .v1 _ => []
  | .v2 demand =>
    (demand.accepts.zipIdx.filterMap fun (original, index) =>
      client.candidate? demand.resource index original)

/-- The exact scheme of this client. -/
def scheme (client : ExactClient) : Scheme := ⟨client.accept⟩

end ExactClient

end Tollbooth
