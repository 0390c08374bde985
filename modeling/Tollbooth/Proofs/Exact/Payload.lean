import Tollbooth.Exact.Payload
import Tollbooth.Proofs.Protocol.Spells
/-!
# Payments are read back

What a payer writes is what the other side reads: authorization, signature, the offer as it was
made, and the resource.

The parts of a payment are put together by `Protocol.Spells`, for any payload.  Here the payload is
that of the exact scheme: a signature, which may have any length, and an authorization, all of whose
members are written as texts.

* `Authorization.spells_toDoc`, `ExactPayload.spells_toDoc` — what the scheme adds to a payment.
* `ExactPayment.ofText_text` — a payment is read back from the text of its document.
-/

set_option autoImplicit false

namespace Tollbooth

open Json

/-- An authorization is spelled by its document. -/
theorem Authorization.spells_toDoc (a : Authorization) : Spells 1 read a.toDoc a := by
  have hpayer : payerSlot.Gives 0 (some (.ofString a.payer.checksum)) a.payer :=
    (spells_checksum a.payer).gives
  have hpayee : payeeSlot.Gives 0 (some (.ofString a.payee.checksum)) a.payee :=
    (spells_checksum a.payee).gives
  have hvalue : valueSlot.Gives 0 (some (.ofString a.value)) a.value := (spells_ofString _).gives
  have hafter : validAfterSlot.Gives 0 (some (.ofString a.validAfter)) a.validAfter :=
    (spells_ofString _).gives
  have hbefore : validBeforeSlot.Gives 0 (some (.ofString a.validBefore)) a.validBefore :=
    (spells_ofString _).gives
  have hnonce : nonceSlot.Gives 0 (some (.ofOctets a.nonce)) a.nonce := (spells_ofOctets _).gives
  have hnames : ["from", "to", "value", "validAfter", "validBefore", "nonce"].Nodup := by decide
  refine spells_record [("from", some (.ofString a.payer.checksum)),
    ("to", some (.ofString a.payee.checksum)), ("value", some (.ofString a.value)),
    ("validAfter", some (.ofString a.validAfter)), ("validBefore", some (.ofString a.validBefore)),
    ("nonce", some (.ofOctets a.nonce))] hnames ?_ fun r hr => ?_
  · simp only [List.forall_mem_cons]
    exact ⟨hpayer.fills rfl, hpayee.fills rfl, hvalue.fills rfl, hafter.fills rfl,
      hbefore.fills rfl, hnonce.fills rfl, nofun⟩
  · rw [hr hpayer rfl, hr hpayee rfl, hr hvalue rfl, hr hafter rfl, hr hbefore rfl, hr hnonce rfl]
    rfl

/-- A signed authorization is spelled by its document. -/
theorem ExactPayload.spells_toDoc (p : ExactPayload) : Spells 2 read p.toDoc p := by
  have hsignature : signatureSlot.Gives 1 (some (.ofBytes p.signature)) p.signature :=
    ((spells_ofBytes p.signature).mono (Nat.zero_le 1)).gives
  have hauthorization : authorizationSlot.Gives 1 (some p.authorization.toDoc) p.authorization :=
    p.authorization.spells_toDoc.gives
  have hnames : ["signature", "authorization"].Nodup := by decide
  refine spells_record [("signature", some (.ofBytes p.signature)),
    ("authorization", some p.authorization.toDoc)] hnames ?_ fun r hr => ?_
  · simp only [List.forall_mem_cons]
    exact ⟨hsignature.fills rfl, hauthorization.fills rfl, nofun⟩
  · rw [hr hsignature rfl, hr hauthorization rfl]
    rfl

namespace ExactPayment

/-- A payment is spelled by its document. -/
theorem spells_toDoc (p : ExactPayment) : Spells 3 read (toDoc p) p :=
  Payment.spells_toDocWith (by decide) p ((spells_verbatim p.accepted).mono (Nat.zero_le 2))
    p.payload.spells_toDoc

/-- **A payment is read back from the text of its document.** -/
theorem ofText_text (p : ExactPayment) : read.ofText (toDoc p).text = .ok p :=
  (spells_toDoc p).ofText (by decide)

end ExactPayment

end Tollbooth
