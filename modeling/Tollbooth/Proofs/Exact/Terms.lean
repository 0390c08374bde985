import Tollbooth.Proofs.Chain.Address
import Tollbooth.Proofs.Chain.Network
import Tollbooth.Proofs.Exact.Client
/-!
# What an offer means

The texts of an offer denote a chain, a token, a payee and an amount, whatever way they are spelled,
or one of them denotes nothing.  Of several flaws the first counts, in this order: network, asset,
payee, amount.

To say what an offer means without saying how it is read takes a relation between texts and what
they denote, for each of its fields: `ChainNumber.DenotedBy`, `Address.SpelledBy`, `Decimal.Spells`.
The meaning of an offer is that all of these hold at once.  The constructors of `Flaw` say what is
the first of them to fail, so the order of the checks is part of the description.

The asset is the only field with a default, and the default brings the names of the token with it,
which the offer may override.

* `GenericOffer.Means` — the terms that an offer spells.
* `GenericOffer.Flaw` — the first flaw of an offer.
* `ofOffer_eq_ok_iff`, `ofOffer_eq_error_iff` — an offer is read as what it means, or for its flaw
  it is not read.
-/

set_option autoImplicit false

namespace Tollbooth

namespace GenericOffer

variable {offer : GenericOffer} {n : ChainNumber}

/-! ## Meaning

An offer has a meaning or a flaw, and this is shown field by field in the order of the checks. -/

/-- The offer names no asset. -/
def Assetless (offer : GenericOffer) : Prop := offer.asset = none ∨ offer.asset = some ""

theorem assetless_iff : offer.Assetless ↔ offer.asset.getD "" = "" := by
  rw [Assetless]
  cases offer.asset <;> simp

/-- The token that is paid in on a chain: the one whose address the offer spells, or the default of
the chain if it names none. -/
inductive PaysIn (offer : GenericOffer) (n : ChainNumber) : Address → Prop
  | named {text : String} {a : Address} (given : offer.asset = some text)
      (spelled : a.SpelledBy text) : PaysIn offer n a
  | default {token : Token} (assetless : offer.Assetless)
      (known : Token.default? n = some token) : PaysIn offer n token.address

/-- The terms are those that the offer spells.  A name of the signing domain that it does not give
is that of the token, if the token is the default of the chain. -/
structure Means (offer : GenericOffer) (t : ExactTerms) : Prop where
  network : t.chain.DenotedBy offer.network
  asset : offer.PaysIn t.chain t.asset
  payTo : t.payTo.SpelledBy offer.payTo
  amount : Decimal.Spells offer.amount t.amount.toNat
  names : t.names =
    { name := (DomainNames.ofExtra offer.extra).name.or
        ((knownToken t.chain t.asset).map (·.domainName))
      version := (DomainNames.ofExtra offer.extra).version.or
        ((knownToken t.chain t.asset).map (·.domainVersion)) }

/-- The first flaw of an offer, and the error that names it. -/
inductive Flaw (offer : GenericOffer) : PaymentError → Prop
  /-- The network denotes no chain that has a number. -/
  | network (unknown : ∀ n : ChainNumber, ¬ n.DenotedBy offer.network) :
      Flaw offer (.unsupportedNetwork offer.network)
  /-- There is no asset, and the chain has no default token: nothing can be paid on the network. -/
  | noAsset {n : ChainNumber} (network : n.DenotedBy offer.network) (assetless : offer.Assetless)
      (unknown : Token.default? n = none) : Flaw offer (.noDefaultAsset n)
  /-- The asset is no address. -/
  | asset {n : ChainNumber} {text : String} (network : n.DenotedBy offer.network)
      (given : offer.asset = some text) (nonempty : text ≠ "")
      (spoiled : ∀ a : Address, ¬ a.SpelledBy text) :
      Flaw offer (.invalidAuthorization (.asset text))
  /-- The payee is no address. -/
  | payTo {n : ChainNumber} {a : Address} (network : n.DenotedBy offer.network)
      (asset : offer.PaysIn n a) (spoiled : ∀ p : Address, ¬ p.SpelledBy offer.payTo) :
      Flaw offer (.invalidAuthorization (.payTo offer.payTo))
  /-- The amount is no number of 256 bits in decimal digits. -/
  | amount {n : ChainNumber} {a p : Address} (network : n.DenotedBy offer.network)
      (asset : offer.PaysIn n a) (payTo : p.SpelledBy offer.payTo)
      (spoiled : ∀ v : Amount, ¬ Decimal.Spells offer.amount v.toNat) :
      Flaw offer (.invalidAmount offer.amount)

theorem paysIn_or_flaw (hn : n.DenotedBy offer.network) :
    (∃ a, offer.PaysIn n a) ∨ ∃ e, offer.Flaw e := by
  by_cases hless : offer.Assetless
  · cases hdefault : Token.default? n with
    | none => exact .inr ⟨_, .noAsset hn hless hdefault⟩
    | some token => exact .inl ⟨_, .default hless hdefault⟩
  · rw [Assetless, not_or] at hless
    obtain ⟨text, htext⟩ := Option.ne_none_iff_exists'.1 hless.1
    by_cases hspelled : ∃ a : Address, a.SpelledBy text
    · obtain ⟨a, ha⟩ := hspelled
      exact .inl ⟨a, .named htext ha⟩
    · have hne : text ≠ "" := fun h => hless.2 (h ▸ htext)
      exact .inr ⟨_, .asset hn htext hne (not_exists.1 hspelled)⟩

/-- An offer has a meaning, or a flaw. -/
theorem means_or_flaw (offer : GenericOffer) :
    (∃ t, offer.Means t) ∨ ∃ e, offer.Flaw e := by
  by_cases hn : ∃ n : ChainNumber, n.DenotedBy offer.network
  · obtain ⟨n, hn⟩ := hn
    obtain ⟨a, ha⟩ | hflaw := paysIn_or_flaw hn
    · by_cases hp : ∃ p : Address, p.SpelledBy offer.payTo
      · obtain ⟨p, hp⟩ := hp
        by_cases hv : ∃ v : Amount, Decimal.Spells offer.amount v.toNat
        · obtain ⟨v, hv⟩ := hv
          let names := ExactTerms.namesFor offer.extra (knownToken n a)
          exact .inl ⟨⟨n, a, p, v, names⟩, hn, ha, hp, hv, rfl⟩
        · exact .inr ⟨_, .amount hn ha hp (not_exists.1 hv)⟩
      · exact .inr ⟨_, .payTo hn ha (not_exists.1 hp)⟩
    · exact .inr hflaw
  · exact .inr ⟨_, .network (not_exists.1 hn)⟩

end GenericOffer

/-! ## Reading

Once it is known that an offer has a meaning or a flaw, and how it is read in either case, both
equivalences follow: the reader cannot say one thing where the other is the case. -/

namespace ExactTerms

variable {offer : GenericOffer} {n : ChainNumber} {a : Address} {t : ExactTerms}
  {e : PaymentError}

theorem chain?_eq_ok_iff {network : String} :
    chain? network = .ok n ↔ n.DenotedBy network := by
  rw [← ChainNumber.exists_resolve?_iff]
  constructor
  · exact chain?_eq_ok
  · rintro ⟨id, hid, hn⟩
    simp only [chain?, hid, hn]

theorem chain?_of_unknown {network : String} (h : ∀ n : ChainNumber, ¬ n.DenotedBy network) :
    chain? network = .error (.unsupportedNetwork network) := by
  cases hchain : chain? network with
  | error e =>
    rw [chain?] at hchain
    split at hchain
    · exact hchain.symm
    · split at hchain
      · cases hchain
      · exact hchain.symm
  | ok n => exact absurd (chain?_eq_ok_iff.1 hchain) (h n)

theorem asset?_of_named {text : String} (h : a.SpelledBy text) :
    asset? n (some text) = .ok (a, knownToken n a) := by
  have hparse := Address.parse?_eq_some_iff.2 h
  have hne : text ≠ "" := by
    rintro rfl
    cases hparse
  rw [asset?, Option.filter_some, if_pos (decide_eq_true hne)]
  simp only [hparse, knownToken]

theorem asset?_of_spoiled {text : String} (hne : text ≠ "")
    (h : ∀ a : Address, ¬ a.SpelledBy text) :
    asset? n (some text) = .error (.invalidAuthorization (.asset text)) := by
  have hparse : Address.parse? text = none := by
    by_contra hsome
    obtain ⟨a, ha⟩ := Option.ne_none_iff_exists'.1 hsome
    exact h a (Address.parse?_eq_some_iff.1 ha)
  rw [asset?, Option.filter_some, if_pos (decide_eq_true hne)]
  simp only [hparse]

theorem filter_of_assetless (h : offer.Assetless) : offer.asset.filter (· ≠ "") = none := by
  obtain h | h := h
  · rw [h, Option.filter_none]
  · rw [h]
    rfl

theorem asset?_of_assetless {token : Token} (h : offer.Assetless)
    (htoken : Token.default? n = some token) :
    asset? n offer.asset = .ok (token.address, knownToken n token.address) := by
  rw [asset?, filter_of_assetless h, knownToken, htoken, Option.filter_some,
    if_pos (decide_eq_true rfl)]

theorem asset?_of_paysIn (h : offer.PaysIn n a) :
    asset? n offer.asset = .ok (a, knownToken n a) := by
  cases h with
  | named hasset hspelled => rw [hasset, asset?_of_named hspelled]
  | default hless htoken => exact asset?_of_assetless hless htoken

/-- Once the chain and the asset are known, the payee and the amount are read. -/
theorem ofOffer_of_paysIn (hn : n.DenotedBy offer.network) (ha : offer.PaysIn n a) :
    ofOffer offer =
      (Address.parse? offer.payTo).elim (.error (.invalidAuthorization (.payTo offer.payTo)))
        fun payTo => (Amount.parse? offer.amount).elim (.error (.invalidAmount offer.amount))
          fun amount => .ok ⟨n, a, payTo, amount, namesFor offer.extra (knownToken n a)⟩ := by
  rw [ofOffer, chain?_eq_ok_iff.2 hn]
  show (asset? n offer.asset >>= _) = _
  rw [asset?_of_paysIn ha]
  cases Address.parse? offer.payTo with
  | none => rfl
  | some payTo => cases Amount.parse? offer.amount <;> rfl

/-- An offer is read as what it means. -/
theorem ofOffer_of_means (h : offer.Means t) : ofOffer offer = .ok t := by
  have hnames : t.names = namesFor offer.extra (knownToken t.chain t.asset) := h.names
  rw [ofOffer_of_paysIn h.network h.asset, Address.parse?_eq_some_iff.2 h.payTo,
    Amount.parse?_eq_some_iff.2 h.amount, ← hnames, Option.elim_some, Option.elim_some]

/-- An offer is not read if it has a flaw, and the flaw is named. -/
theorem ofOffer_of_flaw (h : offer.Flaw e) : ofOffer offer = .error e := by
  cases h with
  | network h => exact bind_eq_error.2 (.inl (chain?_of_unknown h))
  | @noAsset n hn hless hnone =>
    refine bind_eq_error.2 (.inr ⟨n, chain?_eq_ok_iff.2 hn, bind_eq_error.2 (.inl ?_)⟩)
    rw [asset?, filter_of_assetless hless, hnone]
  | @asset n text hn htext hne hspoiled =>
    refine bind_eq_error.2 (.inr ⟨n, chain?_eq_ok_iff.2 hn, bind_eq_error.2 (.inl ?_)⟩)
    rw [htext, asset?_of_spoiled hne hspoiled]
  | payTo hn ha hspoiled =>
    have hnone : Address.parse? offer.payTo = none := by
      by_contra hsome
      obtain ⟨p, hp⟩ := Option.ne_none_iff_exists'.1 hsome
      exact hspoiled p (Address.parse?_eq_some_iff.1 hp)
    rw [ofOffer_of_paysIn hn ha, hnone, Option.elim_none]
  | amount hn ha hp hspoiled =>
    have hnone : Amount.parse? offer.amount = none := by
      by_contra hsome
      obtain ⟨v, hv⟩ := Option.ne_none_iff_exists'.1 hsome
      exact hspoiled v (Amount.parse?_eq_some_iff.1 hv)
    rw [ofOffer_of_paysIn hn ha, Address.parse?_eq_some_iff.2 hp, hnone, Option.elim_some,
      Option.elim_none]

/-- **An offer is read as what it means**, and as nothing else. -/
theorem ofOffer_eq_ok_iff : ofOffer offer = .ok t ↔ offer.Means t := by
  constructor
  · intro h
    obtain ⟨t', ht'⟩ | ⟨e, he⟩ := offer.means_or_flaw
    · cases h.symm.trans (ofOffer_of_means ht')
      exact ht'
    · cases h.symm.trans (ofOffer_of_flaw he)
  · exact ofOffer_of_means

/-- **An offer is refused for its flaw**, and for nothing else. -/
theorem ofOffer_eq_error_iff : ofOffer offer = .error e ↔ offer.Flaw e := by
  constructor
  · intro h
    obtain ⟨t, ht⟩ | ⟨e', he'⟩ := offer.means_or_flaw
    · cases h.symm.trans (ofOffer_of_means ht)
    · cases h.symm.trans (ofOffer_of_flaw he')
      exact he'
  · exact ofOffer_of_flaw

end ExactTerms

end Tollbooth
