import Mathlib.Data.Option.Basic
import Tollbooth.Proofs.Exact.Client
import Tollbooth.Proofs.Exact.Resolution
import Tollbooth.Proofs.Exact.Signing
import Tollbooth.Proofs.Exact.Terms
/-!
# On which networks a client can pay

An offer is taken up for the namespace of its network alone.  To sign for it takes more: a number of
the chain, and a token that the offer names or that is known as the chain's default.

An offer that is taken up and then cannot be signed is worse than one that is passed over: the payer
selects it and fails, though another offer might have been paid.  When this happens is told by the
offer alone.  On one side it is shown that the terms fail for the network just if there is no route;
on the other that nothing after the terms ever does, because neither a resolver nor a signer has
errors of this kind.

* `PaymentError.IsUnsupported` — the error says that the network cannot be paid on.
* `Routes` — the chain has a number, and there is a token to pay with.
* `ExactTerms.isUnsupported_iff` — an offer has no terms for its network just if it has no route.
* `accept_routes` — a candidate fails for its network just if it has no route, and then always.
-/

set_option autoImplicit false

namespace Tollbooth

open Json
open Dialogue (Event Yields)

/-- The network cannot be paid on: its chain has no number, or no token to pay with is known. -/
inductive PaymentError.IsUnsupported : PaymentError → Prop
  | network (network : String) : IsUnsupported (.unsupportedNetwork network)
  | asset (chain : ChainNumber) : IsUnsupported (.noDefaultAsset chain)

/-- A chain has a number, and there is a token to pay with: this one, or the default of the chain if
it is empty. -/
def Routes (chain : ChainId) (asset : String) : Prop :=
  ∃ n, ChainNumber.ofChainId chain = .ok n ∧ (asset ≠ "" ∨ ∃ token, Token.default? n = some token)

/-! ## Terms

The network of a candidate is known to be one of the namespace, but that leaves its reference, which
need not be a number that fits. -/

namespace ExactTerms

variable {offer : GenericOffer} {chain : ChainId}

/-- **An offer has no terms for its network just if it has no route.** -/
theorem isUnsupported_iff (hchain : ChainId.resolve? offer.network = some chain) :
    (∃ e, e.IsUnsupported ∧ ofOffer offer = .error e) ↔ ¬ Routes chain (offer.asset.getD "") := by
  constructor
  · rintro ⟨e, he, hoffer⟩ ⟨n, hn, hasset⟩
    have hdenoted : n.DenotedBy offer.network :=
      ChainNumber.exists_resolve?_iff.1 ⟨chain, hchain, hn⟩
    cases ofOffer_eq_error_iff.1 hoffer with
    | network unknown => exact unknown n hdenoted
    | noAsset network assetless unknown =>
      cases network.unique hdenoted
      obtain hne | ⟨token, htoken⟩ := hasset
      · exact hne (GenericOffer.assetless_iff.1 assetless)
      · cases unknown.symm.trans htoken
    | asset | payTo | amount => cases he
  · intro hroutes
    by_cases hdenoted : ∃ n : ChainNumber, n.DenotedBy offer.network
    · obtain ⟨n, hdenoted⟩ := hdenoted
      have hn : ChainNumber.ofChainId chain = .ok n := by
        obtain ⟨id, hid, hn⟩ := ChainNumber.exists_resolve?_iff.2 hdenoted
        cases hchain.symm.trans hid
        exact hn
      have hassetless : offer.Assetless := by
        rw [GenericOffer.assetless_iff]
        by_contra hne
        exact hroutes ⟨n, hn, .inl hne⟩
      have hnone : Token.default? n = none := by
        by_contra hsome
        exact hroutes ⟨n, hn, .inr (Option.ne_none_iff_exists'.1 hsome)⟩
      exact ⟨_, .asset n, ofOffer_of_flaw (.noAsset hdenoted hassetless hnone)⟩
    · exact ⟨_, .network _, ofOffer_of_flaw (.network (not_exists.1 hdenoted))⟩

end ExactTerms

/-! ## Signing

What may fail after the terms fails for another reason, which is seen from the runs of the resolver
and of the signer. -/

variable {events : List Event} {occasion : Occasion} {e : PaymentError}

/-- Whoever signs an authorization has nothing to do with networks. -/
theorem Signer.not_isUnsupported {signer : Signer} {a : Authorization} {s : Separator}
    (h : Yields (signer.signAuthorization a s) events (.error e)) : ¬ e.IsUnsupported := by
  cases hterms : a.transfer with
  | error e' =>
    rw [signAuthorization_of_error hterms] at h
    cases (Dialogue.yields_done.1 h).2
    obtain rfl | ⟨flaw, rfl⟩ := Authorization.transfer_eq_error hterms
    · exact nofun
    · exact nofun
  | ok t =>
    rw [signAuthorization_of_ok hterms, signDigest_eq] at h
    obtain ⟨x, -, hx⟩ := Dialogue.yields_bind_pure.1 h
    cases x with
    | error reason =>
      cases hx
      exact nofun
    | ok signature => cases hx

theorem DomainResolver.not_isUnsupported {r : DomainResolver} {q : DomainQuery}
    (h : Yields (r.resolve q) events (.error e)) : ¬ e.IsUnsupported := by
  cases yields_resolve.1 h with
  | missing => exact nofun

namespace ExactClient

variable {client : ExactClient} {offer : GenericOffer} {original : Verbatim}
  {resource : Option ResourceInfo}

/-- Once there are terms, nothing fails for the network. -/
theorem not_isUnsupported_of_signTransfer {terms : ExactTerms}
    (h : Yields (client.signTransfer occasion terms) events (.error e)) : ¬ e.IsUnsupported := by
  obtain ⟨asking, signing, domain, rfl, hresolve, hrest⟩ := Dialogue.yields_bind.1 h
  cases domain with
  | error e' =>
    cases (Dialogue.yields_done.1 hrest).2
    exact DomainResolver.not_isUnsupported hresolve
  | ok domain =>
    obtain ⟨first, rest, signature, rfl, hsign, hrest⟩ := Dialogue.yields_bind.1 hrest
    cases signature with
    | error e' =>
      cases (Dialogue.yields_done.1 hrest).2
      exact Signer.not_isUnsupported hsign
    | ok signature => cases (Dialogue.yields_done.1 hrest).2

/-- A payment fails for the network only if the offer has no terms for it. -/
theorem ofOffer_of_build (he : e.IsUnsupported)
    (h : Yields (client.build occasion offer original resource) events (.error e)) :
    ExactTerms.ofOffer offer = .error e := by
  rw [build] at h
  cases hterms : ExactTerms.ofOffer offer with
  | error e' =>
    rw [hterms] at h
    cases (Dialogue.yields_done.1 h).2
    rfl
  | ok terms =>
    rw [hterms] at h
    obtain ⟨first, rest, signed, rfl, hsign, hrest⟩ := Dialogue.yields_bind.1 h
    cases signed with
    | error e' =>
      cases (Dialogue.yields_done.1 hrest).2
      exact absurd he (not_isUnsupported_of_signTransfer hsign)
    | ok signed => cases (Dialogue.yields_done.1 hrest).2

variable {index : Nat} {chain : ChainId}

theorem build_of_sign
    (h : Yields ((client.candidate resource index original offer chain).sign occasion) events
      (.error e)) :
    Yields (client.build occasion offer original resource) events (.error e) := by
  obtain ⟨first, rest, payment, rfl, hbuild, hrest⟩ := Dialogue.yields_bind.1 h
  cases payment with
  | error e' =>
    obtain ⟨rfl, ⟨⟩⟩ := Dialogue.yields_done.1 hrest
    rwa [List.append_nil]
  | ok payment => cases (Dialogue.yields_done.1 hrest).2

theorem sign_of_error (h : ExactTerms.ofOffer offer = .error e) :
    (client.candidate resource index original offer chain).sign occasion = .done (.error e) := by
  show client.build occasion offer original resource >>= _ = _
  rw [build, h]
  rfl

end ExactClient

/-- **A candidate has a route, or cannot be paid.**  If the chain of a candidate has a number, and
there is a token to pay with, signing never fails for the network, whatever the resolver knows and
whoever signs.  Otherwise it fails for the network at once, and always. -/
theorem accept_routes {client : ExactClient} {demand : DemandV2 Verbatim} {c : Candidate}
    (hc : c ∈ client.accept (.v2 demand)) (occasion : Occasion) :
    (Routes c.chain c.asset → ∀ events e, Yields (c.sign occasion) events (.error e) →
      ¬ e.IsUnsupported) ∧
    (¬ Routes c.chain c.asset → ∃ e, e.IsUnsupported ∧ c.sign occasion = .done (.error e)) := by
  obtain ⟨⟨original, index⟩, -, hcandidate⟩ := List.mem_filterMap.1 hc
  obtain ⟨offer, chain, -, -, hchain, -, rfl⟩ := ExactClient.candidate?_eq_some_iff.1 hcandidate
  have hroutes := ExactTerms.isUnsupported_iff hchain
  constructor
  · intro hroute events e hsign he
    have hoffer := ExactClient.ofOffer_of_build he (ExactClient.build_of_sign hsign)
    exact hroutes.1 ⟨e, he, hoffer⟩ hroute
  · intro hroute
    obtain ⟨e, he, hoffer⟩ := hroutes.2 hroute
    exact ⟨e, he, ExactClient.sign_of_error hoffer⟩

/-! ## An offer without a route

The chain has a number, but no token is known for it, and the offer names none. -/

/-- An offer that names no asset, on a chain without a default token. -/
def assetlessOffer : GenericOffer := { plainOffer with asset := none }

/-- The offer as it is made. -/
def assetlessOfferDoc : Doc :=
  .ofMembers [("scheme", .ofString plainOffer.scheme), ("network", .ofString plainOffer.network),
    ("amount", .ofString plainOffer.amount), ("payTo", .ofString plainOffer.payTo)]

theorem assetlessOffer_made : ∃ original : Verbatim,
    original.readAs GenericOffer.read = .ok assetlessOffer := by
  obtain ⟨original, hdoc⟩ : ∃ original : Verbatim, original.doc = assetlessOfferDoc :=
    Verbatim.exists_doc (by decide +kernel) (by decide +kernel)
  exact ⟨original, by rw [Verbatim.readAs, hdoc]; rfl⟩

theorem not_routes_mainChain : ¬ Routes mainChain "" := by
  rintro ⟨n, hn, hne | ⟨token, htoken⟩⟩
  · exact hne rfl
  · cases hn
    cases htoken

theorem assetless_mem_accept {original : Verbatim}
    (h : original.readAs GenericOffer.read = .ok assetlessOffer) :
    constantClient.candidate none 0 original assetlessOffer mainChain ∈
      constantClient.accept (.v2 ⟨none, none, [original]⟩) :=
  List.mem_filterMap.2 ⟨(original, 0), List.mem_singleton.2 rfl,
    ExactClient.candidate?_eq_some_iff.2 ⟨assetlessOffer, mainChain, h, rfl, rfl, rfl, rfl⟩⟩

/-- The client takes up the offer, and fails to sign for it. -/
theorem accept_routes_assetless : ∃ demand c, c ∈ constantClient.accept (.v2 demand) ∧
    ¬ Routes c.chain c.asset ∧ ∀ occasion, ∃ e, e.IsUnsupported ∧
      c.sign occasion = .done (.error e) := by
  obtain ⟨original, hmade⟩ := assetlessOffer_made
  exact ⟨_, _, assetless_mem_accept hmade, not_routes_mainChain, fun occasion =>
    (accept_routes (assetless_mem_accept hmade) occasion).2 not_routes_mainChain⟩

/-- Not every offer that is taken up can be paid on its network. -/
theorem accepted_offer_unroutable : ¬ ∀ (client : ExactClient) (demand : DemandV2 Verbatim),
    ∀ c ∈ client.accept (.v2 demand), ∀ occasion events e,
      Yields (c.sign occasion) events (.error e) → ¬ e.IsUnsupported := by
  intro h
  obtain ⟨original, hmade⟩ := assetlessOffer_made
  have hchain : ChainId.resolve? assetlessOffer.network = some mainChain := rfl
  obtain ⟨e, he, hoffer⟩ := (ExactTerms.isUnsupported_iff hchain).2 not_routes_mainChain
  refine h _ _ _ (assetless_mem_accept hmade) ⟨default, default⟩ [] e ?_ he
  rw [ExactClient.sign_of_error hoffer]
  exact Dialogue.yields_done.2 ⟨rfl, rfl⟩

end Tollbooth
