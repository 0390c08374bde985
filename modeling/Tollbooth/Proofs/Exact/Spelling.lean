import Tollbooth.Proofs.Exact.Making
/-!
# Spelling does not change what is paid

An offer can be written in many ways: its network by name or by number, its asset and its payee in
any case, its amount with zeros in front, and its asset not at all where the default token is meant.
What is signed for it is the same, in the same domain and with the same questions on the way.

An offer is read into terms, and from then on its texts are not looked at again.  So all that has to
be shown is that offers which say the same have the same terms.  That is where it is used that
reading is described by what the texts denote (`GenericOffer.Means`) and not by the functions that
read them: an offer's meaning is carried over to the other spelling field by field.

The offers may fail instead.  Then they lack a default token, both of them, since everything else
that can be wrong with an offer is excluded by saying the same as another one on a chain.

* `GenericOffer.Alike` — two offers say the same on a chain.
* `Alike.means_or_flaw` — then they mean the same, or lack the same token.
* `spelling_changes_nothing` — then they are paid in the same way.
-/

set_option autoImplicit false

namespace Tollbooth

namespace GenericOffer

variable {o o' : GenericOffer} {n : ChainNumber}

/-- Two offers say the same on a chain, in texts that may differ. -/
structure Alike (o o' : GenericOffer) (n : ChainNumber) : Prop where
  network : n.DenotedBy o.network ∧ n.DenotedBy o'.network
  asset : (o.Assetless ∧ o'.Assetless) ∨ ∃ a, o.PaysIn n a ∧ o'.PaysIn n a
  payTo : ∃ p : Address, p.SpelledBy o.payTo ∧ p.SpelledBy o'.payTo
  amount : ∃ v, v < Word.bound256 ∧ Decimal.Spells o.amount v ∧ Decimal.Spells o'.amount v
  names : DomainNames.ofExtra o.extra = DomainNames.ofExtra o'.extra

/-- Offers that name no asset are paid in the same token, unless the chain has no default. -/
theorem Alike.paysIn_or (h : o.Alike o' n) :
    (∃ a, o.PaysIn n a ∧ o'.PaysIn n a) ∨
      (o.Assetless ∧ o'.Assetless ∧ Token.default? n = none) := by
  obtain ⟨hless, hless'⟩ | hpays := h.asset
  · cases htoken : Token.default? n with
    | none => exact .inr ⟨hless, hless', rfl⟩
    | some token => exact .inl ⟨_, .default hless htoken, .default hless' htoken⟩
  · exact .inl hpays

/-- **Offers that say the same mean the same**, or lack the same token. -/
theorem Alike.means_or_flaw (h : o.Alike o' n) :
    (∃ t, o.Means t ∧ o'.Means t) ∨
      (o.Flaw (.noDefaultAsset n) ∧ o'.Flaw (.noDefaultAsset n)) := by
  obtain ⟨hn, hn'⟩ := h.network
  obtain ⟨a, ha, ha'⟩ | ⟨hless, hless', hnone⟩ := h.paysIn_or
  · obtain ⟨p, hp, hp'⟩ := h.payTo
    obtain ⟨v, hword, hv, hv'⟩ := h.amount
    have hnames : ExactTerms.namesFor o.extra (knownToken n a) =
        ExactTerms.namesFor o'.extra (knownToken n a) := by
      rw [ExactTerms.namesFor, ExactTerms.namesFor, h.names]
    exact .inl ⟨⟨n, a, p, ⟨v, hword⟩, ExactTerms.namesFor o.extra (knownToken n a)⟩,
      ⟨hn, ha, hp, hv, rfl⟩, ⟨hn', ha', hp', hv', hnames⟩⟩
  · exact .inr ⟨.noAsset hn hless hnone, .noAsset hn' hless' hnone⟩

theorem Alike.ofOffer_eq (h : o.Alike o' n) : ExactTerms.ofOffer o = ExactTerms.ofOffer o' := by
  obtain ⟨t, ht, ht'⟩ | ⟨he, he'⟩ := h.means_or_flaw
  · rw [ExactTerms.ofOffer_of_means ht, ExactTerms.ofOffer_of_means ht']
  · rw [ExactTerms.ofOffer_of_flaw he, ExactTerms.ofOffer_of_flaw he']

end GenericOffer

/-- **Spelling does not change what is paid.**  Two offers that say the same have the same terms, or
both lack a default token, whatever client they are made to and on whatever occasion.  What is done
for one of them is what is done for the other: the same chains are read, the same digest is signed,
and what comes of it is the same authorization and signature in the same domain of the same
provenance, or the same error.  The payments differ in the offer that they repeat, and in nothing
else. -/
theorem spelling_changes_nothing {o o' : GenericOffer} {n : ChainNumber} (h : o.Alike o' n)
    (client : ExactClient) (occasion : Occasion) :
    ((∃ t, o.Means t ∧ o'.Means t) ∨
      (o.Flaw (.noDefaultAsset n) ∧ o'.Flaw (.noDefaultAsset n))) ∧
    client.transferFor occasion o = client.transferFor occasion o' ∧
    (∀ accepted resource, client.build occasion o accepted resource =
      client.build occasion o' accepted resource) ∧
    ∀ resource, client.createPayment occasion o' resource =
      (client.createPayment occasion o resource >>= fun x =>
        pure (x.map fun payment => { payment with accepted := .written o'.toDoc })) := by
  have htransfer : client.transferFor occasion o = client.transferFor occasion o' := by
    rw [ExactClient.transferFor, ExactClient.transferFor, h.ofOffer_eq]
  refine ⟨h.means_or_flaw, htransfer, fun accepted resource => ?_, fun resource => ?_⟩
  · rw [ExactClient.build_eq, ExactClient.build_eq, htransfer]
  · rw [ExactClient.createPayment_eq, ExactClient.createPayment_eq, ← htransfer,
      Dialogue.bind_assoc]
    refine congrArg (client.transferFor occasion o >>= ·) (funext fun x => ?_)
    cases x <;> rfl

/-! ## An offer in two spellings

Everything is spelled in two ways that can be: a network by its name and by its number, a token by
leaving it out, an address in another case, and an amount with zeros in front. -/

/-- The chain of the network that is called base. -/
def baseChain : ChainNumber := ⟨8453, by decide⟩

/-- An offer in the default token, on a network that is called by its name. -/
def namedOffer : GenericOffer := { plainOffer with network := "base", asset := none }

/-- The same offer with everything spelled out. -/
def numberedOffer : GenericOffer :=
  { plainOffer with
    network := "eip155:+08453"
    amount := "005"
    payTo := "0X0000000000000000000000000000000000000000"
    asset := some "833589FCD6EDB6E08F4C7C32D4F71B54BDA02913" }

theorem alike_namedOffer : namedOffer.Alike numberedOffer baseChain := by
  obtain ⟨token, htoken, haddress⟩ : ∃ token, Token.default? baseChain = some token ∧
      Address.parse? "833589FCD6EDB6E08F4C7C32D4F71B54BDA02913" = some token.address :=
    ⟨_, rfl, rfl⟩
  constructor
  · exact ⟨ChainNumber.exists_resolve?_iff.1 ⟨_, rfl, rfl⟩,
      ChainNumber.exists_resolve?_iff.1 ⟨_, rfl, rfl⟩⟩
  · exact .inr ⟨token.address, .default (.inl rfl) htoken,
      .named rfl (Address.parse?_eq_some_iff.1 haddress)⟩
  · exact ⟨.zero, Address.parse?_eq_some_iff.1 rfl, Address.parse?_eq_some_iff.1 rfl⟩
  · exact ⟨5, by decide, Decimal.digits?_eq_some_iff.1 rfl, Decimal.digits?_eq_some_iff.1 rfl⟩
  · rfl

/-- Two spellings of an offer, with a different text for the network, the asset, the payee and the
amount. -/
theorem spelling_changes_nothing_base :
    namedOffer.Alike numberedOffer baseChain ∧ ∀ client occasion,
      ExactClient.transferFor client occasion namedOffer =
        client.transferFor occasion numberedOffer :=
  ⟨alike_namedOffer, fun client occasion =>
    (spelling_changes_nothing alike_namedOffer client occasion).2.1⟩

end Tollbooth
