import Mathlib.Logic.ExistsUnique
import Tollbooth.Proofs.Exact.Resolution
import Tollbooth.Proofs.Exact.Signing
import Tollbooth.Proofs.Exact.Terms
/-!
# Making a payment

A payment is made in three stages: the offer is read, the signing domain is resolved, and the
signer is asked.  Each stage is reached only if the one before it has come to something, so a bad
offer is refused before anybody is asked anything, and nobody signs for an unknown domain or for an
authorization that has expired.

Two things are to be said of a computation that fails early: which error it fails with, and that
nothing is done after that.  `Transfers` says both at once, with a constructor for each way to end,
which names what was asked of chains and what was asked of the signer.  A stage that is not reached
has no events.

The stages meet at two points, and what goes over is small: the terms that were read, and the domain
that was resolved.  So it is enough to know the runs of resolving (`Resolves`) and those of the
signer, and to put them one behind the other.

* `ExactClient.transferFor` — the signed transfer for an offer, apart from the payment that it goes
  into.
* `ExactClient.Transfers` — all that can come of it: what is asked of chains, what is asked of the
  signer, and the result.
* `createPayment_runs` — a payment is made as this says.
-/

set_option autoImplicit false

namespace Tollbooth

open Dialogue (Event Yields World Live)

variable {client : ExactClient} {occasion : Occasion} {offer : GenericOffer} {t t' : ExactTerms}
  {e e' : PaymentError} {asking signing events : List Event}

/-! ## Exactly one meaning, or exactly one flaw

Meaning and flaw of an offer are defined by themselves, without the function that reads it.  That
there is always one of them, and never two, makes the error of a bad offer a matter of the offer
alone. -/

namespace GenericOffer

theorem Means.unique (h : offer.Means t) (h' : offer.Means t') : t = t' :=
  Except.ok.inj ((ExactTerms.ofOffer_of_means h).symm.trans (ExactTerms.ofOffer_of_means h'))

theorem Flaw.unique (h : offer.Flaw e) (h' : offer.Flaw e') : e = e' :=
  Except.error.inj ((ExactTerms.ofOffer_of_flaw h).symm.trans (ExactTerms.ofOffer_of_flaw h'))

theorem Flaw.not_means (h : offer.Flaw e) : ¬ offer.Means t := by
  intro ht
  cases (ExactTerms.ofOffer_of_flaw h).symm.trans (ExactTerms.ofOffer_of_means ht)

theorem exists_unique_means_or_flaw (offer : GenericOffer) :
    ((∃! e, offer.Flaw e) ∧ ¬ ∃ t, offer.Means t) ∨
      ((∃! t, offer.Means t) ∧ ¬ ∃ e, offer.Flaw e) := by
  obtain ⟨t, ht⟩ | ⟨e, he⟩ := offer.means_or_flaw
  · exact .inr ⟨⟨t, ht, fun t' ht' => ht'.unique ht⟩, fun ⟨e, he⟩ => he.not_means ht⟩
  · exact .inl ⟨⟨e, he, fun e' he' => he'.unique he⟩, fun ⟨t, ht⟩ => he.not_means ht⟩

end GenericOffer

namespace ExactClient

/-! ## What comes of it

The transfer depends on the offer and the occasion, and on nothing that anybody answers.  Its window
begins now, and ends where what the client lets it have is over, or the clock. -/

/-- The transfer that a client has signed for the terms of an offer. -/
def transfer (client : ExactClient) (occasion : Occasion) (t : ExactTerms) : Transfer where
  payer := client.signer.address
  payee := t.payTo
  value := t.amount
  validAfter := ⟨occasion.now.seconds, occasion.now.seconds_lt_bound256⟩
  validBefore := ⟨(occasion.now.add client.validity).seconds, Timestamp.seconds_lt_bound256 _⟩
  nonce := occasion.nonce

/-- All that can come of making a transfer for an offer: what happens while the signing domain is
resolved, what happens while the signer is asked, and the result. -/
inductive Transfers (client : ExactClient) (occasion : Occasion) (offer : GenericOffer) :
    List Event → List Event → Except PaymentError SignedTransfer → Prop
  /-- The offer has a flaw.  Nobody is asked anything. -/
  | flawed {e : PaymentError} (flaw : offer.Flaw e) :
      Transfers client occasion offer [] [] (.error e)
  /-- The domain is not pinned, its chain does not tell it, and there are no names to compute it
  from.  Nobody signs. -/
  | unnamed {t : ExactTerms} {asking : List Event} (terms : offer.Means t)
      (unpinned : client.resolver.pins.get? t.query.key = none)
      (passed : client.resolver.readers.Passes t.query asking)
      (unnamed : t.names.name = none ∨ t.names.version = none) :
      Transfers client occasion offer asking [] (.error (.metadataMissing t.chain t.asset))
  /-- The authorization would be valid for less than a second.  Nobody signs. -/
  | expired {t : ExactTerms} {asking : List Event} {domain : ResolvedDomain}
      (terms : offer.Means t)
      (resolved : Resolves client.resolver.readers client.resolver.pins.get? t.query asking
        (.ok domain))
      (short : client.validity.seconds = 0) :
      Transfers client occasion offer asking [] (.error (.invalidAuthorization .emptyWindow))
  /-- The signer is shown the digest of the transfer, and refuses to sign it. -/
  | refused {t : ExactTerms} {asking signing : List Event} {domain : ResolvedDomain}
      {reason : String} (terms : offer.Means t)
      (resolved : Resolves client.resolver.readers client.resolver.pins.get? t.query asking
        (.ok domain))
      (long : client.validity.seconds ≠ 0)
      (asked : Yields (client.signer.sign ((client.transfer occasion t).digest domain.separator))
        signing (.error reason)) :
      Transfers client occasion offer asking signing (.error (.signingFailed reason))
  /-- The signer is shown the digest of the transfer, and signs it. -/
  | signed {t : ExactTerms} {asking signing : List Event} {domain : ResolvedDomain}
      {signature : Signature} (terms : offer.Means t)
      (resolved : Resolves client.resolver.readers client.resolver.pins.get? t.query asking
        (.ok domain))
      (long : client.validity.seconds ≠ 0)
      (asked : Yields (client.signer.sign ((client.transfer occasion t).digest domain.separator))
        signing (.ok signature)) :
      Transfers client occasion offer asking signing
        (.ok ⟨⟨signature.toBytes, client.authorization occasion t⟩, domain⟩)

/-! ## The signer

An authorization whose window is empty is refused before the signer sees it. -/

variable {s : Separator} {y : Except PaymentError Signature}

/-- The signer is shown one digest, that of the transfer, or none if the authorization has
expired. -/
theorem yields_signAuthorization_authorization (hnow : occasion.now.seconds < Word.bound64 - 1) :
    Yields (client.signer.signAuthorization (client.authorization occasion t) s) signing y ↔
      (client.validity.seconds = 0 ∧ signing = [] ∧
        y = .error (.invalidAuthorization .emptyWindow)) ∨
      (client.validity.seconds ≠ 0 ∧ ∃ x,
        Yields (client.signer.sign ((client.transfer occasion t).digest s)) signing x ∧
          y = x.mapError .signingFailed) := by
  have hwindow := @Timestamp.lt_add_iff _ client.validity hnow
  by_cases hzero : client.validity.seconds = 0
  · have hclosed : (client.authorization occasion t).transfer =
        .error (.invalidAuthorization .emptyWindow) :=
      Authorization.transfer_fresh_of_le (by simpa [hzero] using hwindow)
    rw [Signer.signAuthorization_of_error hclosed, Dialogue.yields_done]
    simp [hzero]
  · have hopen : (client.authorization occasion t).transfer = .ok (client.transfer occasion t) :=
      Authorization.transfer_fresh.2 ⟨hwindow.2 hzero, rfl⟩
    rw [Signer.signAuthorization_of_ok hopen, Signer.signDigest_eq, Dialogue.yields_bind_pure]
    simp [hzero]

/-! ## One stage after the other

A run is taken apart stage by stage, and then each constructor is put together from the runs of its
stages.  `signIn` is the second stage as a function of the result of the first. -/

/-- The signed transfer for an offer. -/
def transferFor (client : ExactClient) (occasion : Occasion) (offer : GenericOffer) :
    Dialogue (Except PaymentError SignedTransfer) :=
  match ExactTerms.ofOffer offer with
  | .error e => return .error e
  | .ok terms => client.signTransfer occasion terms

/-- A payment repeats the offer, and carries the signed transfer for it. -/
theorem build_eq (accepted : Json.Verbatim) (resource : Option ResourceInfo) :
    client.build occasion offer accepted resource =
      (client.transferFor occasion offer >>= fun x =>
        pure (x.map fun signed => ⟨accepted, signed.payload, resource⟩)) := by
  rw [build, transferFor]
  cases ExactTerms.ofOffer offer with
  | error e => rfl
  | ok terms =>
    refine congrArg (client.signTransfer occasion terms >>= ·) (funext fun x => ?_)
    cases x <;> rfl

/-- What is done once the signing domain is resolved, or not. -/
def signIn (client : ExactClient) (occasion : Occasion) (t : ExactTerms) :
    Except PaymentError ResolvedDomain → Dialogue (Except PaymentError SignedTransfer)
  | .error e => pure (.error e)
  | .ok domain =>
    client.signer.signAuthorization (client.authorization occasion t) domain.separator >>= fun y =>
      pure (y.map fun signature =>
        ⟨⟨signature.toBytes, client.authorization occasion t⟩, domain⟩)

theorem signTransfer_eq :
    client.signTransfer occasion t =
      (client.resolver.resolve t.query >>= client.signIn occasion t) := by
  refine congrArg (client.resolver.resolve t.query >>= ·) (funext fun resolved => ?_)
  cases resolved with
  | error e => rfl
  | ok domain =>
    refine congrArg (client.signer.signAuthorization _ _ >>= ·) (funext fun y => ?_)
    cases y <;> rfl

theorem transferFor_of_flaw (h : offer.Flaw e) :
    client.transferFor occasion offer = .done (.error e) := by
  rw [transferFor, ExactTerms.ofOffer_of_flaw h]
  rfl

theorem transferFor_of_means (h : offer.Means t) :
    client.transferFor occasion offer =
      (client.resolver.resolve t.query >>= client.signIn occasion t) := by
  rw [transferFor, ExactTerms.ofOffer_of_means h]
  exact signTransfer_eq

variable {x : Except PaymentError SignedTransfer}

theorem yields_signIn_ok {domain : ResolvedDomain} :
    Yields (client.signIn occasion t (.ok domain)) signing x ↔
      ∃ y, Yields (client.signer.signAuthorization (client.authorization occasion t)
        domain.separator) signing y ∧
        x = y.map fun signature =>
          ⟨⟨signature.toBytes, client.authorization occasion t⟩, domain⟩ :=
  Dialogue.yields_bind_pure

/-- Making a transfer does no more than it should. -/
theorem transfers_of_yields (hnow : occasion.now.seconds < Word.bound64 - 1)
    (h : Yields (client.transferFor occasion offer) events x) :
    ∃ asking signing, events = asking ++ signing ∧
      client.Transfers occasion offer asking signing x := by
  obtain ⟨t, ht⟩ | ⟨e, he⟩ := offer.means_or_flaw
  · rw [transferFor_of_means ht] at h
    obtain ⟨asking, signing, resolved, rfl, hresolve, hsign⟩ := Dialogue.yields_bind.1 h
    refine ⟨asking, signing, rfl, ?_⟩
    have hresolved := DomainResolver.yields_resolve.1 hresolve
    cases resolved with
    | error e =>
      obtain ⟨rfl, rfl⟩ := Dialogue.yields_pure.1 hsign
      cases hresolved with
      | missing unpinned passed unnamed => exact .unnamed ht unpinned passed unnamed
    | ok domain =>
      obtain ⟨y, hy, rfl⟩ := yields_signIn_ok.1 hsign
      obtain ⟨hshort, rfl, rfl⟩ | ⟨hlong, answer, hasked, rfl⟩ :=
        (yields_signAuthorization_authorization hnow).1 hy
      · exact .expired ht hresolved hshort
      · cases answer with
        | error reason => exact .refused ht hresolved hlong hasked
        | ok signature => exact .signed ht hresolved hlong hasked
  · rw [transferFor_of_flaw he] at h
    obtain ⟨rfl, rfl⟩ := Dialogue.yields_done.1 h
    exact ⟨[], [], rfl, .flawed he⟩

theorem yields_of_resolved {domain : ResolvedDomain} (y : Except PaymentError Signature)
    (ht : offer.Means t)
    (resolved : Resolves client.resolver.readers client.resolver.pins.get? t.query asking
      (.ok domain))
    (hy : Yields (client.signer.signAuthorization (client.authorization occasion t)
      domain.separator) signing y) :
    Yields (client.transferFor occasion offer) (asking ++ signing)
      (y.map fun signature => ⟨⟨signature.toBytes, client.authorization occasion t⟩, domain⟩) := by
  rw [transferFor_of_means ht, Dialogue.yields_bind]
  exact ⟨asking, signing, .ok domain, rfl, DomainResolver.yields_resolve.2 resolved,
    yields_signIn_ok.2 ⟨y, hy, rfl⟩⟩

/-- Making a transfer can do all that it should. -/
theorem Transfers.yields (hnow : occasion.now.seconds < Word.bound64 - 1)
    (h : client.Transfers occasion offer asking signing x) :
    Yields (client.transferFor occasion offer) (asking ++ signing) x := by
  cases h with
  | flawed he =>
    rw [transferFor_of_flaw he]
    exact Dialogue.yields_done.2 ⟨rfl, rfl⟩
  | unnamed ht unpinned passed unnamed =>
    rw [transferFor_of_means ht, Dialogue.yields_bind]
    exact ⟨asking, [], .error _, rfl,
      DomainResolver.yields_resolve.2 (.missing unpinned passed unnamed),
      Dialogue.yields_pure.2 ⟨rfl, rfl⟩⟩
  | expired ht resolved hshort =>
    exact yields_of_resolved (.error _) ht resolved
      ((yields_signAuthorization_authorization hnow).2 (.inl ⟨hshort, rfl, rfl⟩))
  | @refused t _ _ domain reason ht resolved hlong hasked =>
    exact yields_of_resolved (.error _) ht resolved
      ((yields_signAuthorization_authorization hnow).2 (.inr ⟨hlong, _, hasked, rfl⟩))
  | @signed t _ _ domain signature ht resolved hlong hasked =>
    exact yields_of_resolved (.ok signature) ht resolved
      ((yields_signAuthorization_authorization hnow).2 (.inr ⟨hlong, _, hasked, rfl⟩))

/-! ## How often anybody is asked

A chain is asked by its reader, and how often is a matter of the reader; so something is demanded of
the readers here.  The holder of a key is asked by the signer itself. -/

/-- Chains are asked once at most. -/
theorem Transfers.length_reads_le (h : client.Transfers occasion offer asking signing x)
    (hreaders : ∀ chain reader, client.resolver.readers.get? chain = some reader →
      reader.Asks chain) :
    (reads asking).length ≤ 1 := by
  have hone {p : Prop} [Decidable p] (q : DomainQuery) :
      (if p then [(q.chain, q.asset)] else []).length ≤ 1 := by
    split <;> simp
  cases h with
  | flawed => exact Nat.zero_le 1
  | unnamed _ _ passed =>
    rw [passed.reads_eq hreaders]
    exact hone _
  | expired _ resolved | refused _ resolved | signed _ resolved =>
    rw [resolved.reads_eq hreaders]
    exact hone _

/-- The holder of a key is asked once at most, and then either signs or refuses. -/
theorem Transfers.signing_of_remote {account : Address}
    (h : client.Transfers occasion offer asking signing x)
    (hremote : client.signer = .remote account) :
    signing.length ≤ 1 ∧
      (signing = [] ↔ ∃ e, x = .error e ∧ ∀ reason, e ≠ .signingFailed reason) := by
  cases h with
  | flawed flaw =>
    refine ⟨Nat.zero_le 1, iff_of_true rfl ⟨_, rfl, fun reason he => ?_⟩⟩
    subst he
    cases flaw
  | unnamed | expired => exact ⟨Nat.zero_le 1, iff_of_true rfl ⟨_, rfl, nofun⟩⟩
  | @refused _ _ _ _ reason _ _ _ hasked =>
    rw [hremote, Signer.yields_sign_remote] at hasked
    subst hasked
    refine ⟨Nat.le_refl 1, iff_of_false nofun ?_⟩
    rintro ⟨e, ⟨⟩, he⟩
    exact he reason rfl
  | signed _ _ _ hasked =>
    rw [hremote, Signer.yields_sign_remote] at hasked
    subst hasked
    exact ⟨Nat.le_refl 1, iff_of_false nofun nofun⟩

/-- If the signer always answers, a transfer always comes to an end. -/
theorem live_transferFor (hsigner : ∀ digest, Live (client.signer.sign digest)) :
    Live (client.transferFor occasion offer) := by
  have hanswers (a : Authorization) (s : Separator) :
      Live (client.signer.signAuthorization a s) := by
    cases hterms : a.transfer with
    | error e =>
      rw [Signer.signAuthorization_of_error hterms]
      exact Dialogue.live_done _
    | ok transfer =>
      rw [Signer.signAuthorization_of_ok hterms, Signer.signDigest_eq]
      exact (hsigner _).bind fun y => Dialogue.live_done _
  obtain ⟨t, ht⟩ | ⟨e, he⟩ := offer.means_or_flaw
  · rw [transferFor_of_means ht]
    refine (DomainResolver.live_resolve _ _).bind fun resolved => ?_
    cases resolved with
    | error e => exact Dialogue.live_done _
    | ok domain => exact (hanswers _ _).bind fun y => Dialogue.live_done _
  · rw [transferFor_of_flaw he]
    exact Dialogue.live_done _

/-! ## The payment

What is left is to put the transfer into a payment, for which nobody is asked. -/

theorem createPayment_eq (resource : Option ResourceInfo) :
    client.createPayment occasion offer resource =
      (client.transferFor occasion offer >>= fun x =>
        pure (x.map fun signed => ⟨.written offer.toDoc, signed.payload, resource⟩)) :=
  build_eq _ resource

end ExactClient

/-- **A payment is made in stages, and fails at the first that fails.**  Every offer either has
exactly one flaw, and then the error is that flaw and nobody is asked anything, or exactly one
meaning.  The signing domain is resolved once and then the signer asked once, by which chains are
read at most once and the holder of a key signs at most once: exactly then if the payment is made
or the signer refuses.  What happens is always one of these courses, each of them can happen, and
if the signer always answers one of them comes to its end in every world. -/
theorem createPayment_runs (client : ExactClient) (offer : GenericOffer)
    (resource : Option ResourceInfo) {occasion : Occasion}
    (hnow : occasion.now.seconds < Word.bound64 - 1) :
    (((∃! e, offer.Flaw e) ∧ ¬ ∃ t, offer.Means t) ∨
      ((∃! t, offer.Means t) ∧ ¬ ∃ e, offer.Flaw e)) ∧
    (∀ e, offer.Flaw e → client.createPayment occasion offer resource = .done (.error e)) ∧
    (∀ events result, Yields (client.createPayment occasion offer resource) events result ↔
      ∃ asking signing x, events = asking ++ signing ∧
        client.Transfers occasion offer asking signing x ∧
        result = x.map fun signed => ⟨.written offer.toDoc, signed.payload, resource⟩) ∧
    ((∀ chain reader, client.resolver.readers.get? chain = some reader → reader.Asks chain) →
      ∀ asking signing x, client.Transfers occasion offer asking signing x →
        (reads asking).length ≤ 1) ∧
    (∀ account, client.signer = .remote account → ∀ asking signing x,
      client.Transfers occasion offer asking signing x → signing.length ≤ 1 ∧
        (signing = [] ↔ ∃ e, x = .error e ∧ ∀ reason, e ≠ .signingFailed reason)) ∧
    ((∀ digest, Live (client.signer.sign digest)) →
      ∀ (σ : Type) (world : World (StateM σ)) (s : σ), ∃ events result,
        Yields (client.createPayment occasion offer resource) events result ∧
          ((client.createPayment occasion offer resource).run world s).1 = some result) := by
  refine ⟨offer.exists_unique_means_or_flaw, fun e he => ?_, fun events result => ?_,
    fun hreaders asking signing x h => h.length_reads_le hreaders,
    fun account hremote asking signing x h => h.signing_of_remote hremote,
    fun hsigner σ world s => ?_⟩
  · rw [ExactClient.createPayment_eq, ExactClient.transferFor_of_flaw he]
    rfl
  · rw [ExactClient.createPayment_eq, Dialogue.yields_bind_pure]
    constructor
    · rintro ⟨x, hx, rfl⟩
      obtain ⟨asking, signing, rfl, htransfers⟩ := ExactClient.transfers_of_yields hnow hx
      exact ⟨asking, signing, x, rfl, htransfers, rfl⟩
    · rintro ⟨asking, signing, x, rfl, htransfers, rfl⟩
      exact ⟨x, htransfers.yields hnow, rfl⟩
  · rw [ExactClient.createPayment_eq]
    exact ((ExactClient.live_transferFor hsigner).bind fun x => Dialogue.live_done _).run world s

theorem means_plainOffer : plainOffer.Means plainTerms :=
  ExactTerms.ofOffer_eq_ok_iff.1 ofOffer_plainOffer

/-- The beginning of time. -/
def plainOccasion : Occasion := ⟨default, default⟩

/-- An offer in which the payee and the amount are no such thing. -/
def spoiledOffer : GenericOffer := { plainOffer with payTo := "", amount := "-1" }

theorem flaw_spoiledOffer : spoiledOffer.Flaw (.invalidAuthorization (.payTo "")) :=
  ExactTerms.ofOffer_eq_error_iff.1 rfl

/-- A payment is made, and another is refused for the first of two flaws. -/
theorem createPayment_runs_constant :
    (∃ payment,
      Yields (constantClient.createPayment plainOccasion plainOffer none) [] (.ok payment)) ∧
      constantClient.createPayment plainOccasion spoiledOffer none =
        .done (.error (.invalidAuthorization (.payTo ""))) := by
  have hnow : plainOccasion.now.seconds < Word.bound64 - 1 := by decide
  have hpin : constantClient.resolver.pins.get? plainTerms.query.key = some default := by
    rw [constantClient, Pins.get?_pin]
    exact if_pos rfl
  obtain ⟨-, -, hruns, -⟩ := createPayment_runs constantClient plainOffer none hnow
  obtain ⟨-, hflaw, -⟩ := createPayment_runs constantClient spoiledOffer none hnow
  have hsigned : constantClient.Transfers plainOccasion plainOffer [] []
      (.ok ⟨⟨List.replicate 65 0, constantClient.authorization plainOccasion plainTerms⟩,
        ⟨default, .pinned⟩⟩) :=
    .signed means_plainOffer (.pinned hpin) (by decide) (Dialogue.yields_done.2 ⟨rfl, rfl⟩)
  exact ⟨⟨_, (hruns _ _).2 ⟨[], [], _, rfl, hsigned, rfl⟩⟩, hflaw _ flaw_spoiledOffer⟩

end Tollbooth
