import Mathlib.Data.Option.Basic
import Tollbooth.Exact.Client
import Tollbooth.Payment.Retry
import Tollbooth.Proofs.Dialogue.Run
import Tollbooth.Proofs.Exact.Authorization
import Tollbooth.Proofs.Exact.Payload
import Tollbooth.Proofs.Exact.Resolver
import Tollbooth.Proofs.Text.Base64
/-!
# What is paid is what was offered

A payment by the exact scheme leaves the client as the text of a header.  Whoever takes that text
apart again finds the offer as it was made, an authorization for exactly what it asks, and a
signature of exactly that authorization.

The promise is made about the text, because it is the text that somebody else gets.  So the proof
goes forth and back: a candidate is taken apart into the stages in which it signs, and the header
text that comes out is read as a server would read it, from base64 through JSON to the payment.  In
between nothing has to be known about signers, except that what they are shown is the digest of the
authorization that the payment carries.

* `AsksFor` — what the signing domain of an offer is asked for with.
* `Signed` — a signed authorization is one for an offer, made on an occasion.
* `sign_honours` — the header text of a candidate carries such an authorization.
-/

set_option autoImplicit false

namespace Tollbooth

open Json
open Dialogue (Event Yields)

/-! ## Terms

What an offer asks for is read off its texts, with two defaults: the token of the chain for a
missing asset, and the names of a token that is known for missing names. -/

/-- The token that is known under an address. -/
def knownToken (chain : ChainNumber) (asset : Address) : Option Token :=
  (Token.default? chain).filter (·.address = asset)

/-- The signing domain of an offer is asked for with the chain of its network, with the asset that
it names, or else the default token of the chain, and with the names that it gives, or else those of
the token if that is known. -/
structure AsksFor (offer : GenericOffer) (q : DomainQuery) : Prop where
  chain : ∃ id, ChainId.resolve? offer.network = some id ∧ ChainNumber.ofChainId id = .ok q.chain
  asset : (∃ text, offer.asset = some text ∧ text ≠ "" ∧ Address.parse? text = some q.asset) ∨
    ((offer.asset = none ∨ offer.asset = some "") ∧
      ∃ token, Token.default? q.chain = some token ∧ token.address = q.asset)
  name : q.name = (DomainNames.ofExtra offer.extra).name.or
    ((knownToken q.chain q.asset).map (·.domainName))
  version : q.version = (DomainNames.ofExtra offer.extra).version.or
    ((knownToken q.chain q.asset).map (·.domainVersion))

namespace ExactTerms

theorem chain?_eq_ok {network : String} {chain : ChainNumber} (h : chain? network = .ok chain) :
    ∃ id, ChainId.resolve? network = some id ∧ ChainNumber.ofChainId id = .ok chain := by
  rw [chain?] at h
  split at h
  · cases h
  · next id hid =>
    split at h
    · next n hn =>
      cases h
      exact ⟨id, hid, hn⟩
    · cases h

theorem asset?_eq_ok {chain : ChainNumber} {text? : Option String} {asset : Address}
    {token : Option Token} (h : asset? chain text? = .ok (asset, token)) :
    ((∃ text, text? = some text ∧ text ≠ "" ∧ Address.parse? text = some asset) ∨
      ((text? = none ∨ text? = some "") ∧
        ∃ token, Token.default? chain = some token ∧ token.address = asset)) ∧
    token = knownToken chain asset := by
  rw [asset?] at h
  split at h
  · next text htext =>
    obtain ⟨htext, hne⟩ := Option.filter_eq_some_iff.1 htext
    split at h
    · next address haddress =>
      cases h
      exact ⟨.inl ⟨text, htext, of_decide_eq_true hne, haddress⟩, rfl⟩
    · cases h
  · next hnone =>
    have habsent : text? = none ∨ text? = some "" := by
      cases text? with
      | none => exact .inl rfl
      | some text => simpa using hnone
    split at h
    · next token htoken =>
      cases h
      refine ⟨.inr ⟨habsent, token, htoken, rfl⟩, ?_⟩
      rw [knownToken, htoken, Option.filter_some, if_pos (decide_eq_true rfl)]
    · cases h

/-- The terms of an offer are what it says. -/
theorem ofOffer_eq_ok {offer : GenericOffer} {terms : ExactTerms} (h : ofOffer offer = .ok terms) :
    AsksFor offer terms.query ∧ Address.parse? offer.payTo = some terms.payTo ∧
      Amount.parse? offer.amount = some terms.amount := by
  rw [ofOffer] at h
  obtain ⟨chain, hchain, h⟩ := bind_eq_ok.1 h
  obtain ⟨⟨asset, token⟩, hasset, h⟩ := bind_eq_ok.1 h
  obtain ⟨hnamed, rfl⟩ := asset?_eq_ok hasset
  cases hpayTo : Address.parse? offer.payTo with
  | none => simp [hpayTo] at h
  | some payTo =>
    cases hamount : Amount.parse? offer.amount with
    | none => simp [hpayTo, hamount] at h
    | some amount =>
      simp only [hpayTo, hamount] at h
      cases h
      exact ⟨⟨chain?_eq_ok hchain, hnamed, rfl, rfl⟩, rfl, rfl⟩

end ExactTerms

/-! ## Signing

An authorization is written, its domain resolved, and the signer asked for the digest in that
domain.  Each step is a dialogue, and the lemmas say what their runs are. -/

variable {events : List Event} {occasion : Occasion}

/-- A signer is shown the digest of an authorization, if it has one, and nothing else. -/
theorem Signer.yields_signAuthorization {signer : Signer} {a : Authorization} {s : Separator}
    {signature : Signature} :
    Yields (signer.signAuthorization a s) events (.ok signature) ↔
      ∃ digest, a.digest s = .ok digest ∧ Yields (signer.sign digest) events (.ok signature) := by
  cases hdigest : a.digest s with
  | error e =>
    rw [signAuthorization, hdigest]
    constructor
    · intro h
      cases (Dialogue.yields_pure.1 h).2
    · rintro ⟨_, ⟨⟩, -⟩
  | ok digest =>
    rw [signAuthorization, hdigest]
    -- The side conditions are about the continuation, which is known only once the goal is met.
    refine (Dialogue.yields_bind_ok_pure (by exact fun reason => ⟨_, rfl⟩)
      (by exact fun signature => rfl)).trans ⟨?_, ?_⟩
    · rintro ⟨_, hsign, rfl⟩
      exact ⟨digest, rfl, hsign⟩
    · rintro ⟨_, ⟨⟩, hsign⟩
      exact ⟨signature, hsign, rfl⟩

/-- The authorization that a client writes for the terms of an offer. -/
def ExactClient.authorization (client : ExactClient) (occasion : Occasion) (terms : ExactTerms) :
    Authorization :=
  .fresh client.signer.address terms.payTo terms.amount occasion.now client.validity occasion.nonce

/-- A transfer is signed by resolving the domain and then asking the signer. -/
theorem ExactClient.yields_signTransfer {client : ExactClient} {terms : ExactTerms}
    {signed : SignedTransfer} :
    Yields (client.signTransfer occasion terms) events (.ok signed) ↔
      ∃ asking signing digest signature, events = asking ++ signing ∧
        Yields (client.resolver.resolve terms.query) asking (.ok signed.domain) ∧
        (client.authorization occasion terms).digest signed.domain.separator = .ok digest ∧
        Yields (client.signer.sign digest) signing (.ok signature) ∧
        signed.payload = ⟨signature.toBytes, client.authorization occasion terms⟩ := by
  rw [signTransfer]
  refine (Dialogue.yields_bind_ok (by exact fun e => ⟨_, rfl⟩)).trans ⟨?_, ?_⟩
  · rintro ⟨asking, signing, domain, rfl, hresolve, hrest⟩
    obtain ⟨signature, hsign, rfl⟩ := (Dialogue.yields_bind_ok_pure (by exact fun e => ⟨_, rfl⟩)
      (by exact fun signature => rfl)).1 hrest
    obtain ⟨digest, hdigest, hsign⟩ := Signer.yields_signAuthorization.1 hsign
    exact ⟨asking, signing, digest, signature, rfl, hresolve, hdigest, hsign, rfl⟩
  · rintro ⟨asking, signing, digest, signature, rfl, hresolve, hdigest, hsign, hpayload⟩
    obtain ⟨payload, domain⟩ := signed
    cases hpayload
    refine ⟨asking, signing, domain, rfl, hresolve, ?_⟩
    exact (Dialogue.yields_bind_ok_pure (by exact fun e => ⟨_, rfl⟩)
      (by exact fun signature => rfl)).2
        ⟨signature, Signer.yields_signAuthorization.2 ⟨digest, hdigest, hsign⟩, rfl⟩

/-- A payment is built on the terms of the offer, and has the offer and the resource as they
are. -/
theorem ExactClient.yields_build {client : ExactClient} {offer : GenericOffer}
    {accepted : Verbatim} {resource : Option ResourceInfo} {payment : ExactPayment} :
    Yields (client.build occasion offer accepted resource) events (.ok payment) ↔
      ∃ terms signed, ExactTerms.ofOffer offer = .ok terms ∧
        Yields (client.signTransfer occasion terms) events (.ok signed) ∧
        payment = ⟨accepted, signed.payload, resource⟩ := by
  cases hterms : ExactTerms.ofOffer offer with
  | error e =>
    rw [build, hterms]
    constructor
    · intro h
      cases (Dialogue.yields_pure.1 h).2
    · rintro ⟨_, _, ⟨⟩, -⟩
  | ok terms =>
    rw [build, hterms]
    refine (Dialogue.yields_bind_ok_pure (by exact fun e => ⟨_, rfl⟩)
      (by exact fun signed => rfl)).trans ⟨?_, ?_⟩
    · rintro ⟨signed, hsign, rfl⟩
      exact ⟨terms, signed, rfl, hsign, rfl⟩
    · rintro ⟨_, signed, ⟨⟩, hsign, rfl⟩
      exact ⟨signed, hsign, rfl⟩

/-! ## Candidates

A candidate keeps the offer as it was spelled, and what was read of it when it was taken up.  Its
payment is built from these two, for which nothing has to be read again. -/

/-- The candidate for an offer on a chain. -/
def ExactClient.candidate (client : ExactClient) (resource : Option ResourceInfo) (index : Nat)
    (original : Verbatim) (offer : GenericOffer) (chain : ChainId) : Candidate where
  offerIndex := index
  chain
  asset := offer.asset.getD ""
  amount := offer.amount
  scheme := offer.scheme
  version := ProtocolVersion.v2.number
  payTo := offer.payTo
  sign occasion := do
    match ← client.build occasion offer original resource with
    | .error e => return .error e
    | .ok payment => return .ok (headerText payment)

/-- There is a candidate for an offer just if the offer can be read, is of this scheme and names a
network in the right namespace. -/
theorem ExactClient.candidate?_eq_some_iff {client : ExactClient} {resource : Option ResourceInfo}
    {index : Nat} {original : Verbatim} {c : Candidate} :
    client.candidate? resource index original = some c ↔
      ∃ offer chain, original.readAs GenericOffer.read = .ok offer ∧ offer.scheme = exactScheme ∧
        ChainId.resolve? offer.network = some chain ∧ chain.ns = ChainNumber.ns ∧
        c = client.candidate resource index original offer chain := by
  constructor
  · intro h
    obtain ⟨offer, hoffer, h⟩ := Option.bind_eq_some_iff.1 h
    obtain ⟨_, hscheme, h⟩ := Option.bind_eq_some_iff.1 h
    obtain ⟨chain, hchain, h⟩ := Option.bind_eq_some_iff.1 h
    obtain ⟨_, hns, hc⟩ := Option.bind_eq_some_iff.1 h
    cases hc
    refine ⟨offer, chain, ?_, (Option.guard_eq_some' ()).1 hscheme, hchain,
      (Option.guard_eq_some' ()).1 hns, rfl⟩
    cases hread : original.readAs GenericOffer.read with
    | error fault =>
      rw [hread] at hoffer
      cases hoffer
    | ok offer' =>
      rw [hread] at hoffer
      cases hoffer
      rfl
  · rintro ⟨offer, chain, hread, hscheme, hchain, hns, rfl⟩
    rw [candidate?, hread]
    exact Option.bind_eq_some_iff.2 ⟨offer, rfl, Option.bind_eq_some_iff.2
      ⟨(), (Option.guard_eq_some' ()).2 hscheme, Option.bind_eq_some_iff.2
        ⟨chain, hchain, Option.bind_eq_some_iff.2 ⟨(), (Option.guard_eq_some' ()).2 hns, rfl⟩⟩⟩⟩

/-- A candidate is for an offer that can be read, and signing it builds the payment for that
offer. -/
theorem ExactClient.candidate?_eq_some {client : ExactClient} {resource : Option ResourceInfo}
    {index : Nat} {original : Verbatim} {c : Candidate}
    (h : client.candidate? resource index original = some c) :
    c.offerIndex = index ∧ ∃ offer, original.readAs GenericOffer.read = .ok offer ∧
      ∀ occasion events text, Yields (c.sign occasion) events (.ok text) ↔
        ∃ payment, Yields (client.build occasion offer original resource) events (.ok payment) ∧
          text = headerText payment := by
  obtain ⟨offer, chain, hread, -, -, -, rfl⟩ := candidate?_eq_some_iff.1 h
  refine ⟨rfl, offer, hread, fun occasion events text => ?_⟩
  exact Dialogue.yields_bind_ok_pure (by exact fun e => ⟨_, rfl⟩) (by exact fun payment => rfl)

/-- The header text of a payment is a header value, from which the payment is read back. -/
theorem ExactClient.readHeader_headerText (payment : ExactPayment) :
    Http.isValue (Bytes.ofString (headerText payment)) = true ∧
      readHeader ExactPayment.read (Bytes.ofString (headerText payment)) = some payment := by
  refine ⟨Base64.isValue_encodeString _, ?_⟩
  rw [readHeader, headerText, Base64.ofString_encodeString, Base64.decode?_encode,
    Option.bind_some, payment.ofText_text]
  rfl

/-- An authorization is for an offer: it moves what the offer asks from the client to the payee that
the offer names, from now on for as long as the client lets it, and the client's signer signed its
digest in the domain that is resolved for the offer, and no other digest. -/
structure Signed (client : ExactClient) (occasion : Occasion) (offer : GenericOffer)
    (events : List Event) (p : ExactPayload) : Prop where
  payer : p.authorization.payer = client.signer.address
  payee : Address.parse? offer.payTo = some p.authorization.payee
  value : ∃ amount, Amount.parse? offer.amount = some amount ∧
    p.authorization.value = toString amount.toNat
  validAfter : p.authorization.validAfter = toString occasion.now.seconds
  validBefore : p.authorization.validBefore =
    toString (min (occasion.now.seconds + client.validity.seconds) (Word.bound64 - 1))
  window : occasion.now.seconds <
    min (occasion.now.seconds + client.validity.seconds) (Word.bound64 - 1)
  nonce : p.authorization.nonce = occasion.nonce
  signature : ∃ asking signing query domain digest signature, events = asking ++ signing ∧
    AsksFor offer query ∧ Yields (client.resolver.resolve query) asking (.ok domain) ∧
    p.authorization.digest domain.separator = .ok digest ∧
    Yields (client.signer.sign digest) signing (.ok signature) ∧ p.signature = signature.toBytes

theorem ExactClient.signed_of_signTransfer {client : ExactClient} {offer : GenericOffer}
    {terms : ExactTerms} {signed : SignedTransfer} (hterms : ExactTerms.ofOffer offer = .ok terms)
    (h : Yields (client.signTransfer occasion terms) events (.ok signed)) :
    Signed client occasion offer events signed.payload := by
  obtain ⟨hasks, hpayTo, hamount⟩ := ExactTerms.ofOffer_eq_ok hterms
  obtain ⟨asking, signing, digest, signature, rfl, hresolve, hdigest, hsign, hpayload⟩ :=
    yields_signTransfer.1 h
  obtain ⟨hwindow, -⟩ := Authorization.digest_fresh.1 hdigest
  rw [hpayload]
  exact {
    payer := rfl
    payee := hpayTo
    value := ⟨terms.amount, hamount, rfl⟩
    validAfter := rfl
    validBefore := rfl
    window := hwindow
    nonce := rfl
    signature := ⟨asking, signing, terms.query, signed.domain, digest, signature, rfl, hasks,
      hresolve, hdigest, hsign, rfl⟩ }

/-- **What is paid is what was offered.**  If a candidate signs, its text is a header value from
which a payment is read: it repeats the offer byte for byte, names the resource of the demand, and
carries an authorization for that offer with its signature. -/
theorem sign_honours {client : ExactClient} {demand : DemandV2 Verbatim} {c : Candidate}
    {text : String} (hc : c ∈ client.accept (.v2 demand))
    (h : Yields (c.sign occasion) events (.ok text)) :
    ∃ original offer payment, demand.accepts[c.offerIndex]? = some original ∧
      original.readAs GenericOffer.read = .ok offer ∧
      Http.isValue (Bytes.ofString text) = true ∧
      readHeader ExactPayment.read (Bytes.ofString text) = some payment ∧
      payment.accepted.text = original.text ∧ payment.resource = demand.resource ∧
      Signed client occasion offer events payment.payload := by
  obtain ⟨⟨original, index⟩, hmem, hcandidate⟩ := List.mem_filterMap.1 hc
  obtain ⟨rfl, offer, hoffer, hsigns⟩ := ExactClient.candidate?_eq_some hcandidate
  have horiginal := List.mem_zipIdx_iff_getElem?.1 hmem
  obtain ⟨payment, hbuild, rfl⟩ := (hsigns _ _ _).1 h
  obtain ⟨terms, signed, hterms, hsign, rfl⟩ := ExactClient.yields_build.1 hbuild
  obtain ⟨hvalue, hread⟩ := ExactClient.readHeader_headerText
    ⟨original, signed.payload, demand.resource⟩
  exact ⟨original, offer, _, horiginal, hoffer, hvalue, hread, rfl, rfl,
    ExactClient.signed_of_signTransfer hterms hsign⟩

/-! ## An offer that is paid

The theorem is about candidates that sign.  Here is one, with everything about it as plain as it can
be. -/

/-- An offer that names the address zero for everything. -/
def plainOffer : GenericOffer where
  scheme := "exact"
  network := "eip155:1"
  amount := "5"
  payTo := "0x0000000000000000000000000000000000000000"
  maxTimeoutSeconds := 0
  asset := some "0x0000000000000000000000000000000000000000"
  extra := none

/-- The offer as it is made. -/
def plainOfferDoc : Doc :=
  .ofMembers [("scheme", .ofString plainOffer.scheme), ("network", .ofString plainOffer.network),
    ("amount", .ofString plainOffer.amount), ("payTo", .ofString plainOffer.payTo),
    ("asset", .ofString plainOffer.payTo)]

/-- The chain of the offer. -/
def mainChain : ChainId := ⟨"eip155", "1"⟩

def plainTerms : ExactTerms := ⟨⟨1, by decide⟩, .zero, .zero, ⟨5, by decide⟩, .none⟩

theorem ofOffer_plainOffer : ExactTerms.ofOffer plainOffer = .ok plainTerms := rfl

/-- A document whose text loses nothing when it is rendered, as one of ASCII does, can be kept. -/
theorem Json.Verbatim.exists_doc {d : Doc} (hjson : d.wellFormed = true)
    (hrender : d.text = Bytes.ofString d.render) : ∃ v : Verbatim, v.doc = d := by
  have htext : Bytes.toString? d.text = some d.render := by rw [hrender, Bytes.toString?_ofString]
  exact ⟨⟨d, d.render, hjson, htext⟩, rfl⟩

theorem plainOffer_made : ∃ original : Verbatim,
    original.readAs GenericOffer.read = .ok plainOffer := by
  obtain ⟨original, hdoc⟩ : ∃ original : Verbatim, original.doc = plainOfferDoc :=
    Verbatim.exists_doc (by decide +kernel) (by decide +kernel)
  exact ⟨original, by rw [Verbatim.readAs, hdoc]; rfl⟩

/-- A client whose signer always gives the same signature, in a domain that is pinned. -/
def constantClient : ExactClient where
  signer := ⟨.zero, fun _ => .done (.ok (Vector.replicate 65 0))⟩
  resolver := ⟨Pins.empty.pin ⟨plainTerms.chain, plainTerms.asset⟩ default, .empty⟩
  validity := .ofSeconds 60

theorem candidate?_constantClient {original : Verbatim}
    (h : original.readAs GenericOffer.read = .ok plainOffer) :
    ∃ c, constantClient.candidate? none 0 original = some c := by
  rw [ExactClient.candidate?, h]
  exact ⟨_, rfl⟩

theorem yields_signTransfer_constantClient (nonce : Hash256) :
    ∃ signed, Yields (constantClient.signTransfer ⟨default, nonce⟩ plainTerms) []
      (.ok signed) := by
  have hpin : constantClient.resolver.pins.get? ⟨plainTerms.chain, plainTerms.asset⟩ =
      some default := by
    rw [constantClient, Pins.get?_pin, if_pos rfl]
  have hdigest : (Authorization.fresh .zero plainTerms.payTo plainTerms.amount default
      (.ofSeconds 60) nonce).digest default = .ok _ :=
    Authorization.digest_fresh.2 ⟨by decide, rfl⟩
  refine ⟨⟨_, ⟨default, .pinned⟩⟩, ExactClient.yields_signTransfer.2 ⟨[], [], _, _, rfl, ?_,
    hdigest, Dialogue.yields_done.2 ⟨rfl, rfl⟩, rfl⟩⟩
  rw [DomainResolver.resolve_of_pin hpin]
  exact Dialogue.yields_pure.2 ⟨rfl, rfl⟩

/-- A candidate signs, and its payment moves what the offer asks. -/
theorem sign_honours_constant : ∃ original c occasion text payment,
    c ∈ constantClient.accept (.v2 ⟨none, none, [original]⟩) ∧
      Yields (c.sign occasion) [] (.ok text) ∧
      readHeader ExactPayment.read (Bytes.ofString text) = some payment ∧
      payment.accepted.text = original.text ∧ payment.payload.authorization.validAfter = "0" := by
  obtain ⟨original, hmade⟩ := plainOffer_made
  obtain ⟨c, hc⟩ := candidate?_constantClient hmade
  obtain ⟨signed, hsigned⟩ := yields_signTransfer_constantClient default
  obtain ⟨hindex, offer, hoffer, hsigns⟩ := ExactClient.candidate?_eq_some hc
  rw [hmade] at hoffer
  cases hoffer
  have hmem : c ∈ constantClient.accept (.v2 ⟨none, none, [original]⟩) :=
    List.mem_filterMap.2 ⟨(original, 0), List.mem_singleton.2 rfl, hc⟩
  have hrun := (hsigns _ [] _).2
    ⟨_, ExactClient.yields_build.2 ⟨_, _, ofOffer_plainOffer, hsigned, rfl⟩, rfl⟩
  obtain ⟨original', _, payment, horiginal, -, -, hread, haccepted, -, hpays⟩ :=
    sign_honours hmem hrun
  rw [hindex] at horiginal
  cases horiginal
  exact ⟨original, c, _, _, payment, hmem, hrun, hread, haccepted, hpays.validAfter⟩

end Tollbooth
