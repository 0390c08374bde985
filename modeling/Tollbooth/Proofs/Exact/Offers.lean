import Tollbooth.Proofs.Exact.Client
import Tollbooth.Proofs.Json.Parts
import Tollbooth.Proofs.Json.Sound
/-!
# Each offer stands alone

A demand keeps its offers as they were spelled, whatever they are, so that one which cannot be read
spoils none of the others.  The client reads each of them by itself.

That offers are kept as they are is a matter of types, but not only.  A demand is one record, and a
record can be lost because of one member: that no offer does this is because any value at all can be
kept, and because the values within a text that is JSON are JSON themselves.  So a text is first
taken for a demand whose offers are nothing in particular, which `readAny` does, and then for one
that keeps them.

* `DemandV2.readWith_verbatim` — a demand is read with its offers, whatever they are.
* `TakesUp` — an offer that the client takes up, by what is spelled in it.
* `offers_stand_alone` — the candidates are those of the offers that are taken up, each of which
  depends on nothing but its own offer.
-/

set_option autoImplicit false

namespace Tollbooth

open Json

/-! ## Reading

Two readers of a demand differ only in what they do with the offers.  They find the same members,
because members are found by their names. -/

namespace DemandV2

variable {d : Doc} {plain : DemandV2 Doc}

/-- The members of a demand. -/
def fields {O : Type} (offer : Reader O) : List Field :=
  [versionSlot.field, errorSlot.field, resourceSlot.field, (acceptsSlot offer).field]

/-- How the offers are read makes no difference to the names. -/
theorem fields_alike {O O' : Type} (offer : Reader O) (offer' : Reader O') :
    List.Forall₂ Field.Alike (fields offer) (fields offer') :=
  .cons ⟨rfl, rfl, rfl⟩ (.cons ⟨rfl, rfl, rfl⟩ (.cons ⟨rfl, rfl, rfl⟩
    (.cons ⟨rfl, rfl, rfl⟩ .nil)))

theorem nodup_fields {O : Type} (offer : Reader O) : ((fields offer).map (·.name)).Nodup := by
  show ["x402Version", "error", "resource", "accepts"].Nodup
  decide

/-- What a record gives for the offers, it gives when they are kept. -/
theorem get_accepts {r : Record} {ds : List Doc} (h : r.get (acceptsSlot readAny) = .ok ds)
    (hkept : ∀ m ∈ r.found, m.2.IsKept) :
    ∃ offers : List Verbatim, offers.map (·.doc) = ds ∧
      r.get (acceptsSlot Verbatim.read) = .ok offers := by
  have hname : (acceptsSlot readAny).name = (acceptsSlot Verbatim.read).name := rfl
  rw [Record.get, hname] at h
  rw [Record.get]
  split at h
  · next name d hfind => exact readList_verbatim h (hkept _ (List.mem_of_find?_eq_some hfind))
  · cases h
    exact ⟨[], rfl, rfl⟩

/-- **A demand is read with its offers, whatever they are.** -/
theorem readWith_verbatim (h : readWith readAny .start d = .ok plain) (hd : d.IsKept) :
    ∃ offers : List Verbatim, offers.map (·.doc) = plain.accepts ∧
      readWith Verbatim.read .start d = .ok { plain with accepts := offers } := by
  obtain ⟨record, hrecord, h⟩ := bind_eq_ok.1 h
  obtain ⟨⟨⟩, hversion, h⟩ := bind_eq_ok.1 h
  obtain ⟨error, herror, h⟩ := bind_eq_ok.1 h
  obtain ⟨resource, hresource, h⟩ := bind_eq_ok.1 h
  obtain ⟨ds, hds, h⟩ := bind_eq_ok.1 h
  cases h
  obtain ⟨hfound, hkept⟩ := collect_found hrecord (nodup_fields readAny) hd
  obtain ⟨offers, hoffers, haccepts⟩ := get_accepts hds hkept
  -- The record that was collected is collected again: only the offers are read in another way.
  have hreadable : Readable (fields Verbatim.read) record.site record.found := by
    intro m hm field hfield hname
    simp only [fields, List.mem_cons, List.not_mem_nil, or_false] at hfield
    obtain rfl | rfl | rfl | rfl := hfield
    · exact Record.check_of_get hversion hfound hm hname
    · exact Record.check_of_get herror hfound hm hname
    · exact Record.check_of_get hresource hfound hm hname
    · exact Record.check_of_get haccepts hfound hm hname
  have hrecord' := collect_alike hrecord (fields_alike readAny Verbatim.read) hreadable
  refine ⟨offers, hoffers, bind_eq_ok.2 ⟨record, hrecord', bind_eq_ok.2 ⟨(), hversion, ?_⟩⟩⟩
  exact bind_eq_ok.2 ⟨error, herror, bind_eq_ok.2 ⟨resource, hresource,
    bind_eq_ok.2 ⟨offers, haccepts, rfl⟩⟩⟩

end DemandV2

/-! ## Candidates

The offers are gone through in their order, each with its place, and what becomes of one is a
function of it and its place alone. -/

/-- What is spelled reads by itself as an offer of the exact scheme, on a chain of the namespace
that the scheme is for. -/
structure TakesUp (original : Verbatim) (offer : GenericOffer) (chain : ChainId) : Prop where
  reads : GenericOffer.read.ofText (Bytes.ofString original.text) = .ok offer
  scheme : offer.scheme = "exact"
  network : ChainId.resolve? offer.network = some chain
  ns : chain.ns = "eip155"

namespace ExactClient

variable {client : ExactClient} {resource : Option ResourceInfo} {index : Nat}
  {original : Verbatim} {c : Candidate} {demand : DemandV2 Verbatim}

theorem candidate?_eq_some_iff_takesUp :
    client.candidate? resource index original = some c ↔
      ∃ offer chain, TakesUp original offer chain ∧
        c = client.candidate resource index original offer chain := by
  have hread : GenericOffer.read.ofText (Bytes.ofString original.text) =
      original.readAs GenericOffer.read := by
    rw [Verbatim.ofString_text]
    exact Reader.ofText_text _ original.isJson
  rw [candidate?_eq_some_iff]
  constructor
  · rintro ⟨offer, chain, hoffer, hscheme, hchain, hns, hc⟩
    exact ⟨offer, chain, ⟨hread.trans hoffer, hscheme, hchain, hns⟩, hc⟩
  · rintro ⟨offer, chain, ⟨hoffer, hscheme, hchain, hns⟩, hc⟩
    exact ⟨offer, chain, hread.symm.trans hoffer, hscheme, hchain, hns, hc⟩

/-- The candidates are those of the offers that are taken up. -/
theorem mem_accept : c ∈ client.accept (.v2 demand) ↔
    ∃ original offer chain, demand.accepts[c.offerIndex]? = some original ∧
      TakesUp original offer chain ∧
      c = client.candidate demand.resource c.offerIndex original offer chain := by
  constructor
  · intro hc
    obtain ⟨⟨original, index⟩, hmem, hcandidate⟩ := List.mem_filterMap.1 hc
    obtain ⟨offer, chain, htakes, rfl⟩ := candidate?_eq_some_iff_takesUp.1 hcandidate
    exact ⟨original, offer, chain, List.mk_mem_zipIdx_iff_getElem?.1 hmem, htakes, rfl⟩
  · rintro ⟨original, offer, chain, horiginal, htakes, hc⟩
    exact List.mem_filterMap.2 ⟨(original, c.offerIndex),
      List.mk_mem_zipIdx_iff_getElem?.2 horiginal,
      candidate?_eq_some_iff_takesUp.2 ⟨offer, chain, htakes, hc⟩⟩

/-- The candidates come in the order of their offers. -/
theorem pairwise_accept (client : ExactClient) (demand : DemandV2 Verbatim) :
    (client.accept (.v2 demand)).Pairwise fun c c' => c.offerIndex < c'.offerIndex := by
  have hindices : demand.accepts.zipIdx.Pairwise fun o o' => o.2 < o'.2 := by
    rw [← List.pairwise_map (f := Prod.snd) (R := (· < ·)), List.zipIdx_map_snd]
    exact List.pairwise_lt_range'
  refine List.pairwise_filterMap.2 (hindices.imp fun hlt c hc c' hc' => ?_)
  rwa [(candidate?_eq_some hc).1, (candidate?_eq_some hc').1]

end ExactClient

/-- **Each offer stands alone.**  If a text is a demand but for what its offers are, it is read as
one with these offers.  A client takes up just those of them which read by themselves as an offer of
the exact scheme on a chain of the right namespace, in their order, and its candidate for one is the
same in any other demand that has this offer at the same place.  It takes up nothing in a demand of
the first version. -/
theorem offers_stand_alone (client : ExactClient) {s : Bytes} {whole : Verbatim}
    {plain : DemandV2 Doc} (hs : whole.StandsIn s)
    (hplain : (DemandV2.readWith readAny).ofText s = .ok plain) :
    ∃ demand : DemandV2 Verbatim, (Demand.read .v2).ofText s = .ok (.v2 demand) ∧
      demand.error = plain.error ∧ demand.resource = plain.resource ∧
      demand.accepts.map (·.doc) = plain.accepts ∧
      ((client.accept (.v2 demand)).Pairwise fun c c' => c.offerIndex < c'.offerIndex) ∧
      (∀ c, c ∈ client.accept (.v2 demand) ↔
        ∃ original offer chain, demand.accepts[c.offerIndex]? = some original ∧
          TakesUp original offer chain ∧
          c = client.candidate demand.resource c.offerIndex original offer chain) ∧
      (∀ other : DemandV2 Verbatim, other.resource = demand.resource →
        ∀ c, other.accepts[c.offerIndex]? = demand.accepts[c.offerIndex]? →
          (c ∈ client.accept (.v2 other) ↔ c ∈ client.accept (.v2 demand))) ∧
      ∀ first, client.accept (.v1 first) = [] := by
  rw [hs.ofText] at hplain
  obtain ⟨offers, hoffers, hread⟩ := DemandV2.readWith_verbatim hplain ⟨whole, rfl⟩
  refine ⟨{ plain with accepts := offers }, ?_, rfl, rfl, hoffers,
    ExactClient.pairwise_accept client _, fun c => ExactClient.mem_accept,
    fun other hresource c hoffer => ?_, fun first => rfl⟩
  · rw [hs.ofText]
    show Demand.v2 <$> DemandV2.readWith Verbatim.read .start whole.doc = _
    rw [hread]
    rfl
  · rw [ExactClient.mem_accept, ExactClient.mem_accept, hresource, hoffer]

/-- A demand with a number among its offers. -/
def spoiledDemandDoc : Doc :=
  .ofMembers [("x402Version", ProtocolVersion.toDoc .v2),
    ("accepts", .ofList [.number [0x37], plainOfferDoc])]

/-- The number hides nothing: the offer behind it is taken up. -/
theorem offers_stand_alone_spoiled : ∃ s demand,
    (Demand.read .v2).ofText s = .ok (.v2 demand) ∧
      demand.accepts.map (·.doc) = [.number [0x37], plainOfferDoc] ∧
      ∃ c ∈ constantClient.accept (.v2 demand), c.offerIndex = 1 := by
  obtain ⟨whole, hdoc⟩ : ∃ whole : Verbatim, whole.doc = spoiledDemandDoc :=
    Verbatim.exists_doc (by decide +kernel) (by decide +kernel)
  have hs : whole.StandsIn (Bytes.ofString whole.text) := ⟨[], [], rfl, rfl, by simp⟩
  have hplain : (DemandV2.readWith readAny).ofText (Bytes.ofString whole.text) =
      .ok ⟨none, none, [.number [0x37], plainOfferDoc]⟩ := by
    rw [hs.ofText, hdoc]
    rfl
  obtain ⟨demand, hread, -, -, hoffers, -, hmem, -⟩ := offers_stand_alone constantClient hs hplain
  refine ⟨_, demand, hread, hoffers, ?_⟩
  have hsecond : (demand.accepts.map (·.doc))[1]? = some plainOfferDoc := by rw [hoffers]; rfl
  rw [List.getElem?_map] at hsecond
  obtain ⟨original, horiginal, hmade⟩ := Option.map_eq_some_iff.1 hsecond
  have htakes : TakesUp original plainOffer mainChain := by
    refine ⟨?_, rfl, rfl, rfl⟩
    rw [Verbatim.ofString_text, Reader.ofText_text _ original.isJson, hmade]
    rfl
  exact ⟨constantClient.candidate demand.resource 1 original plainOffer mainChain,
    (hmem _).2 ⟨original, plainOffer, mainChain, horiginal, htakes, rfl⟩, rfl⟩

end Tollbooth
