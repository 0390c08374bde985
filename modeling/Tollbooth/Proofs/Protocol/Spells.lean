import Tollbooth.Proofs.Json.Spells
import Tollbooth.Protocol.Demand
import Tollbooth.Protocol.Outcome
/-!
# What the documents of the protocol spell

Outcomes, demands and payments are spelled by the documents that are written for them.  Offers and
payloads may be of any type of which this holds already.

Each lemma is about one type and is put together from those about its members: a slot for each
member, with what is written for it.  Nothing is said about how a record is searched, which is done
once in `Json.Spells`.
-/

set_option autoImplicit false

namespace Tollbooth

open Json

/-! ## Outcomes

The outcome of a settlement or a verification is a sum, written as a record with a flag.  Which
members are there depends on the flag, so there is one case for each side. -/

namespace Verification

/-- A verification is spelled by its document. -/
theorem spells_toDoc (v : Verification) : Spells 1 read v.toDoc v := by
  cases v with
  | valid payer =>
    have hflag : flagSlot.Gives 0 (some (.bool true)) true := (spells_bool true).gives
    have hpayer : payerSlot.Gives 0 (some (.ofString payer)) (some payer) :=
      Slot.gives_string (some payer) rfl rfl
    have hreason : reasonSlot.Gives 0 none none := Slot.gives_string none rfl rfl
    have hnames : ["isValid", "payer"].Nodup := by decide
    refine spells_record [("isValid", some (.bool true)), ("payer", some (.ofString payer))]
      hnames ?_ fun r hr => ?_
    · simp only [List.forall_mem_cons]
      exact ⟨hflag.fills rfl, hpayer.fills rfl, nofun⟩
    · rw [hr hflag rfl, hr hpayer rfl, hr hreason rfl]
      rfl
  | invalid reason payer =>
    have hflag : flagSlot.Gives 0 (some (.bool false)) false := (spells_bool false).gives
    have hpayer : payerSlot.Gives 0 (payer.map .ofString) payer :=
      Slot.gives_string payer rfl rfl
    have hreason : reasonSlot.Gives 0 (some (.ofString reason)) (some reason) :=
      Slot.gives_string (some reason) rfl rfl
    have hnames : ["isValid", "payer", "invalidReason"].Nodup := by decide
    refine spells_record _ hnames ?_ fun r hr => ?_
    · simp only [List.forall_mem_cons]
      exact ⟨hflag.fills rfl, hpayer.fills rfl, hreason.fills rfl, nofun⟩
    · rw [hr hflag rfl, hr hpayer rfl, hr hreason rfl]
      rfl

end Verification

namespace Settlement

/-- A settlement is spelled by its document. -/
theorem spells_toDoc (s : Settlement) : Spells 1 read s.toDoc s := by
  cases s with
  | settled transaction network payer =>
    have hflag : flagSlot.Gives 0 (some (.bool true)) true := (spells_bool true).gives
    have hreason : reasonSlot.Gives 0 none none := Slot.gives_string none rfl rfl
    have hpayer : payerSlot.Gives 0 (payer.map .ofString) payer :=
      Slot.gives_string payer rfl rfl
    have htransaction : transactionSlot.Gives 0 (some (.ofString transaction))
        (some transaction) := Slot.gives_string (some transaction) rfl rfl
    have hnetwork : networkSlot.Gives 0 (some (.ofString network)) network :=
      (spells_ofString network).gives
    have hnames : ["success", "payer", "transaction", "network"].Nodup := by decide
    refine spells_record _ hnames ?_ fun r hr => ?_
    · simp only [List.forall_mem_cons]
      exact ⟨hflag.fills rfl, hpayer.fills rfl, htransaction.fills rfl, hnetwork.fills rfl, nofun⟩
    · rw [hr hflag rfl, hr hreason rfl, hr hpayer rfl,
        hr htransaction rfl, hr hnetwork rfl]
      rfl
  | failed reason network payer transaction =>
    have hflag : flagSlot.Gives 0 (some (.bool false)) false := (spells_bool false).gives
    have hreason : reasonSlot.Gives 0 (some (.ofString reason)) (some reason) :=
      Slot.gives_string (some reason) rfl rfl
    have hpayer : payerSlot.Gives 0 (payer.map .ofString) payer :=
      Slot.gives_string payer rfl rfl
    have htransaction : transactionSlot.Gives 0 (transaction.map .ofString) transaction :=
      Slot.gives_string transaction rfl rfl
    have hnetwork : networkSlot.Gives 0 (some (.ofString network)) network :=
      (spells_ofString network).gives
    have hnames : ["success", "errorReason", "payer", "transaction", "network"].Nodup := by decide
    refine spells_record _ hnames ?_ fun r hr => ?_
    · simp only [List.forall_mem_cons]
      exact ⟨hflag.fills rfl, hreason.fills rfl, hpayer.fills rfl, htransaction.fills rfl,
        hnetwork.fills rfl, nofun⟩
    · rw [hr hflag rfl, hr hreason rfl, hr hpayer rfl,
        hr htransaction rfl, hr hnetwork rfl]
      rfl

end Settlement

/-! ## Demands

Offers may be of any type that can be spelled, so that demands of typed offers and of offers that
are kept as they are need no lemmas of their own. -/

/-- A resource is spelled by its document. -/
theorem ResourceInfo.spells_toDoc (i : ResourceInfo) : Spells 1 read i.toDoc i := by
  have hdescription : descriptionSlot.Gives 0 (some (.ofString i.description)) i.description :=
    (spells_ofString _).gives
  have hmimeType : mimeTypeSlot.Gives 0 (some (.ofString i.mimeType)) i.mimeType :=
    (spells_ofString _).gives
  have hurl : urlSlot.Gives 0 (some (.ofString i.url)) i.url := (spells_ofString _).gives
  have hnames : ["description", "mimeType", "url"].Nodup := by decide
  refine spells_record [("description", some (.ofString i.description)),
    ("mimeType", some (.ofString i.mimeType)), ("url", some (.ofString i.url))]
    hnames ?_ fun r hr => ?_
  · simp only [List.forall_mem_cons]
    exact ⟨hdescription.fills rfl, hmimeType.fills rfl, hurl.fills rfl, nofun⟩
  · rw [hr hdescription rfl, hr hmimeType rfl, hr hurl rfl]
    rfl

/-- The number of a version spells whatever it is read as. -/
theorem ProtocolVersion.spells_of_toDoc {α : Type} {read : Reader α} {a : α} (v : ProtocolVersion)
    (h : ∀ levels, read (.text levels) v.toDoc = .ok a) : Spells 0 read v.toDoc a :=
  ⟨by cases v <;> decide +kernel, Bytes.isText_ofString (toString v.number), h⟩

/-- The marker of a version is spelled by its number. -/
theorem ProtocolVersion.spells_toDoc (v : ProtocolVersion) : Spells 0 (readMarker v) v.toDoc () :=
  v.spells_of_toDoc fun _ => by cases v <;> rfl

/-- A version is spelled by its number where either may stand. -/
theorem ProtocolVersion.spells_number (v : ProtocolVersion) : Spells 0 read v.toDoc v :=
  v.spells_of_toDoc fun _ => by cases v <;> rfl

/-- A resource that may be missing is given by a member that may be missing. -/
theorem ResourceInfo.gives_option {slot : Slot (Option ResourceInfo)} (i? : Option ResourceInfo)
    (hread : slot.read = readOption read) (habsent : slot.absent = .ok none) :
    slot.Gives 1 (i?.map toDoc) i? :=
  Slot.gives_option i? hread habsent spells_toDoc fun _ => nofun

section

variable {Offer : Type} {offer : Reader Offer} {write : Offer → Doc} {depth : Nat}

/-- A demand of the first version is spelled by its document if its offers are. -/
theorem DemandV1.spells_toDocWith (h : ∀ o, Spells depth offer (write o) o)
    (d : DemandV1 Offer) : Spells (depth + 2) (readWith offer) (d.toDocWith write) d := by
  have hversion : versionSlot.Gives (depth + 1) (some (ProtocolVersion.toDoc .v1)) () :=
    ((ProtocolVersion.spells_toDoc .v1).mono (Nat.zero_le _)).gives
  have haccepts : (acceptsSlot offer).Gives (depth + 1) (some (.ofList (d.accepts.map write)))
      d.accepts := (spells_ofList h d.accepts).gives
  have herror : errorSlot.Gives (depth + 1) (d.error.map .ofString) d.error :=
    (Slot.gives_string d.error rfl rfl).mono (Nat.zero_le _)
  have hnames : ["x402Version", "accepts", "error"].Nodup := by decide
  refine spells_record _ hnames ?_ fun r hr => ?_
  · simp only [List.forall_mem_cons]
    exact ⟨hversion.fills rfl, haccepts.fills rfl, herror.fills rfl, nofun⟩
  · rw [hr hversion rfl, hr haccepts rfl, hr herror rfl]
    rfl

/-- A demand of the second version is spelled by its document if its offers are. -/
theorem DemandV2.spells_toDocWith (h : ∀ o, Spells depth offer (write o) o)
    (d : DemandV2 Offer) : Spells (depth + 2) (readWith offer) (d.toDocWith write) d := by
  have hversion : versionSlot.Gives (depth + 1) (some (ProtocolVersion.toDoc .v2)) () :=
    ((ProtocolVersion.spells_toDoc .v2).mono (Nat.zero_le _)).gives
  have herror : errorSlot.Gives (depth + 1) (d.error.map .ofString) d.error :=
    (Slot.gives_string d.error rfl rfl).mono (Nat.zero_le _)
  have hresource : resourceSlot.Gives (depth + 1) (d.resource.map ResourceInfo.toDoc) d.resource :=
    (ResourceInfo.gives_option d.resource rfl rfl).mono (Nat.le_add_left 1 depth)
  have haccepts : (acceptsSlot offer).Gives (depth + 1) (some (.ofList (d.accepts.map write)))
      d.accepts := (spells_ofList h d.accepts).gives
  have hnames : ["x402Version", "error", "resource", "accepts"].Nodup := by decide
  refine spells_record _ hnames ?_ fun r hr => ?_
  · simp only [List.forall_mem_cons]
    exact ⟨hversion.fills rfl, herror.fills rfl, hresource.fills rfl, haccepts.fills rfl, nofun⟩
  · rw [hr hversion rfl, hr herror rfl, hr hresource rfl,
      hr haccepts rfl]
    rfl

end

/-! ## Payments

A payment is the accepted offer, the payload and the resource; the first two may be of any type. -/

/-- A payment is spelled by its document if the accepted offer and the payload are. -/
theorem Payment.spells_toDocWith {Accepted Payload : Type} {accepted : Reader Accepted}
    {payload : Reader Payload} {writeAccepted : Accepted → Doc} {writePayload : Payload → Doc}
    {depth : Nat} (hdepth : 1 ≤ depth) (p : Payment Accepted Payload)
    (haccepted : Spells depth accepted (writeAccepted p.accepted) p.accepted)
    (hpayload : Spells depth payload (writePayload p.payload) p.payload) :
    Spells (depth + 1) (readWith accepted payload) (p.toDocWith writeAccepted writePayload) p := by
  have haccepted : (acceptedSlot accepted).Gives depth (some (writeAccepted p.accepted))
      p.accepted := haccepted.gives
  have hpayload : (payloadSlot payload).Gives depth (some (writePayload p.payload)) p.payload :=
    hpayload.gives
  have hresource : resourceSlot.Gives depth (p.resource.map ResourceInfo.toDoc) p.resource :=
    (ResourceInfo.gives_option p.resource rfl rfl).mono hdepth
  have hversion : versionSlot.Gives depth (some (ProtocolVersion.toDoc .v2)) () :=
    ((ProtocolVersion.spells_toDoc .v2).mono (Nat.zero_le _)).gives
  have hnames : ["accepted", "payload", "resource", "x402Version"].Nodup := by decide
  refine spells_record _ hnames ?_ fun r hr => ?_
  · simp only [List.forall_mem_cons]
    exact ⟨haccepted.fills rfl, hpayload.fills rfl, hresource.fills rfl, hversion.fills rfl, nofun⟩
  · rw [hr haccepted rfl, hr hpayload rfl, hr hresource rfl,
      hr hversion rfl]
    rfl

end Tollbooth
