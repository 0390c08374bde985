import Tollbooth.Proofs.Exact.Payload
import Tollbooth.Proofs.Facilitator.Request
import Tollbooth.Proofs.Protocol.Detection
/-!
# Payments that are written are forwarded

A payment is written as an object with the accepted offer, the payload, a resource if there is one,
and the number of its version.  Whatever offer and payload are, that number is what the version is
told by when the text is read again, so a facilitator is asked about the payment under the version
that it was made for, with the text as it was written.

The version is told from the text alone, by whoever is to forward it, and the text has parts that
are nobody's business: the accepted offer and a payload that was made elsewhere stand in it as they
were.  They are values within members, though, and the members by which a version is told are those
of the payment itself.  What an offer says about a version is not seen from there, whatever it says.

* `Payment.detect_text` — a written payment is detected as one of the second version.
* `Payment.isKept_toDocWith` — its text can be kept.
* `Facilitator.ForwardRun` — all that can come of a call with given documents.
* `written_payment_forwarded` — a written payment makes a call, and every run of the call is one of
  these.
-/

set_option autoImplicit false

namespace Tollbooth

open Json
open Dialogue (Event Yields)

/-! ## What is written for a payment

The keys of a written payment are known, each is there once, and the number of the version is among
them.  So what is shown is a number and an accepted offer, and the number decides. -/

/-- What is written under a key is there under that key. -/
theorem Json.valuesAt_written (key : String) (ms : List (String × Doc)) :
    valuesAt key (ms.map fun m => (escape m.1, m.2)) = valuesOf key ms := by
  have hkeys : (fun m : String × Doc => unescape? (escape m.1) == some key) =
      fun m => m.1 == key := by
    funext m
    rw [unescape?_escape, Option.some_beq_some]
  rw [valuesAt, valuesOf, List.filter_map, List.map_map]
  exact congrArg (fun p => (ms.filter p).map (·.2)) hkeys

namespace Payment

variable {Payload : Type} {write : Payload → Doc}

/-- A written payment shows its number and the accepted offer, and no other sign. -/
theorem shows_toDocWith (p : Payment Verbatim Payload) :
    (p.toDocWith Verbatim.toDoc write).Shows
      ⟨some (ProtocolVersion.toDoc .v2), some p.accepted.doc, none, none⟩ := by
  have hentries : ∀ ms : List (String × Doc),
      (Members.ofList (ms.map fun m => (escape m.1, m.2))).entries =
        ms.map fun m => (escape m.1, m.2) := fun ms => Members.entries_ofList _
  refine .object ?_ ?_ ?_ ?_ ?_
  · rw [hentries]
    intro e he
    obtain ⟨m, -, rfl⟩ := List.mem_map.1 he
    rw [unescape?_escape]
    rfl
  all_goals
    rw [hentries, valuesAt_written]
    cases p.resource <;> rfl

/-- The text of a written payment can be kept, if what is written for the payload can. -/
theorem isKept_toDocWith (p : Payment Verbatim Payload) (h : (write p.payload).IsKept) :
    (p.toDocWith Verbatim.toDoc write).IsKept := by
  obtain ⟨v, hv⟩ := h
  -- It is written like a payment whose payload is kept verbatim.
  let raw : Payment Verbatim Verbatim := ⟨p.accepted, v, p.resource⟩
  have hraw : p.toDocWith Verbatim.toDoc write = raw.toDocWith Verbatim.toDoc Verbatim.toDoc := by
    rw [toDocWith, toDocWith, ← hv]
    rfl
  rw [hraw]
  exact (raw.spells_toDocWith (Nat.le_refl 1) ((spells_verbatim p.accepted).mono (Nat.zero_le 1))
    ((spells_verbatim v).mono (Nat.zero_le 1))).isKept

/-- The number of the second version is read as such. -/
theorem givesVersion_number : GivesVersion (some (ProtocolVersion.toDoc .v2))
    (some (.number (.natural ProtocolVersion.v2.number))) :=
  .value rfl nofun rfl

/-- The text that is written for a payment. -/
def text (write : Payload → Doc) (p : Payment Verbatim Payload) : Bytes :=
  (p.toDocWith Verbatim.toDoc write).text

/-- **A written payment is detected as one of the second version.** -/
theorem detect_text (p : Payment Verbatim Payload) (h : (write p.payload).IsKept) :
    ProtocolVersion.detect (p.text write) = .ok .v2 := by
  have hjson := (Doc.isKept_iff.1 (p.isKept_toDocWith h)).1
  exact detect_eq_ok_iff_tells.2 ⟨_, _, _, Doc.standsIn_text hjson, p.shows_toDocWith,
    givesVersion_number, .inl rfl⟩

/-- A payment makes a call with its text as it was written. -/
theorem exists_isOf (p : Payment Verbatim Payload) (h : (write p.payload).IsKept)
    {requirements : Bytes} {r : Verbatim} (hr : r.StandsIn requirements) :
    ∃ call : PaymentCall, call.IsOf (p.text write) requirements ∧ call.version = .v2 ∧
      Bytes.ofString call.payload.text = p.text write ∧ call.requirements = r := by
  obtain ⟨w, hw⟩ := p.isKept_toDocWith h
  have htext : Bytes.ofString w.text = p.text write := by
    rw [w.ofString_text, hw, text]
  have hstands : w.StandsIn (p.text write) :=
    ⟨[], [], rfl, rfl, by rw [htext, List.nil_append, List.append_nil]⟩
  exact ⟨⟨.v2, w, r⟩, ⟨p.detect_text h, hstands, hr⟩, rfl, htext, rfl⟩

end Payment

/-! ## What comes of forwarding

A payment whose text can be kept makes a call, if the requirements can be kept as well.  Then
nothing is left that could be refused for the sake of the documents. -/

namespace Facilitator

/-- All that can come of a call with these documents, up to what came of its request: the request has
no headers, or it is sent. -/
inductive ForwardRun (f : Facilitator) (action : Action) (stamp : Stamp) (call : PaymentCall) :
    List Event → Except FacilitatorError (Except Http.TransportFault Reply) → Prop
  | unheaded {events : List Event} {e : FacilitatorError}
      (h : HeaderRun f.credentials f.provider action stamp (action.request call.params).text events
        (.error e)) : ForwardRun f action stamp call events (.error e)
  | sent {headers : Http.Headers} {before after : List Event}
      {reply : Except Http.TransportFault Reply}
      (headed : HeaderRun f.credentials f.provider action stamp (action.request call.params).text
        before (.ok headers))
      (sent : f.Sends (f.httpRequest headers (action.request call.params).text) after reply) :
      ForwardRun f action stamp call (before ++ after) (.ok reply)

/-- Documents that make a call are not refused. -/
theorem paymentRun_iff_forwardRun {f : Facilitator} {action : Action} {stamp : Stamp}
    {payload requirements : Bytes} {call : PaymentCall} {events : List Event}
    {x : Except FacilitatorError (Except Http.TransportFault Reply)}
    (hcall : call.IsOf payload requirements) :
    f.PaymentRun action stamp payload requirements events x ↔
      f.ForwardRun action stamp call events x := by
  have hunique : ∀ {call' : PaymentCall}, call'.IsOf payload requirements → call' = call :=
    fun hcall' => Except.ok.inj ((PaymentCall.ofTexts_eq_ok.2 hcall').symm.trans
      (PaymentCall.ofTexts_eq_ok.2 hcall))
  constructor
  · intro h
    cases h with
    | refused h =>
      cases (PaymentCall.ofTexts_eq_ok.2 hcall).symm.trans (PaymentCall.ofTexts_eq_error.2 h)
    | unheaded hcall' h =>
      cases hunique hcall'
      exact .unheaded h
    | sent hcall' headed hsent =>
      cases hunique hcall'
      exact .sent headed hsent
  · intro h
    cases h with
    | unheaded h => exact .unheaded hcall h
    | sent headed hsent => exact .sent hcall headed hsent

end Facilitator

/-- **A written payment is forwarded as it is.**  The text that is written for a payment, whatever
offer it accepts and whatever its payload is, is detected as one of the second version.  With any
requirements it makes a call that has this text and this version, and every run of the call either
has no headers for its request or sends it once, with a body that says just that. -/
theorem written_payment_forwarded {Payload : Type} {write : Payload → Doc}
    (p : Payment Verbatim Payload) (hp : (write p.payload).IsKept) {requirements : Bytes}
    {r : Verbatim} (hr : r.StandsIn requirements) :
    ProtocolVersion.detect (p.text write) = .ok .v2 ∧
    ∃ call : PaymentCall, call.version = .v2 ∧
      Bytes.ofString call.payload.text = p.text write ∧ call.requirements = r ∧
      (∀ action, call.Says action (action.request call.params).text) ∧
      ∀ (f : Facilitator) (time : Nat) (random : Octets 16),
        (∀ events result,
          Yields (f.verify (.ofRandom time random) (p.text write) requirements) events result ↔
            ∃ x, f.ForwardRun .verify (.ofRandom time random) call events x ∧
              result = x.bind (Facilitator.verified requirements)) ∧
        ∀ events result,
          Yields (f.settle (.ofRandom time random) (p.text write) requirements) events result ↔
            ∃ x, f.ForwardRun .settle (.ofRandom time random) call events x ∧
              result = x.bind (Facilitator.settled requirements) := by
  obtain ⟨call, hcall, hversion, htext, hrequirements⟩ := p.exists_isOf hp hr
  refine ⟨p.detect_text hp, call, hversion, htext, hrequirements, call.says_request,
    fun f time random => ⟨fun events result => ?_, fun events result => ?_⟩⟩
  · rw [Facilitator.verify_eq_ask, Dialogue.yields_bind_pure]
    refine exists_congr fun x => and_congr_left' ?_
    rw [Facilitator.yields_ask (Stamp.isValue_requestId time random),
      Facilitator.paymentRun_iff_forwardRun hcall]
  · rw [Facilitator.settle_eq_ask, Dialogue.yields_bind_pure]
    refine exists_congr fun x => and_congr_left' ?_
    rw [Facilitator.yields_ask (Stamp.isValue_requestId time random),
      Facilitator.paymentRun_iff_forwardRun hcall]

/-- An offer that calls itself one of the first version, with a text and a number that stand for no
character and no number. -/
def oddOffer : Bytes :=
  Bytes.ofString "\x7b\"x402Version\":1,\"scheme\":\"\\ud800\",\"network\":1e999\x7d"

/-- A payload with an authorization that says nothing. -/
def blankPayload : ExactPayload := ⟨[], ⟨default, default, "", "", "", default⟩⟩

/-- A payment that accepts an odd offer is forwarded, whatever else it says. -/
theorem written_payment_forwarded_odd : ∃ (accepted : Verbatim) (events : List Event),
    accepted.StandsIn oddOffer ∧ blankPayload.toDoc.IsKept ∧
      ProtocolVersion.detect (Payment.text ExactPayload.toDoc ⟨accepted, blankPayload, none⟩) =
        .ok .v2 ∧
      Yields (plainFacilitator.verify (.ofRandom 7 default)
        (Payment.text ExactPayload.toDoc ⟨accepted, blankPayload, none⟩) bareOffer) events
        (.error (.transport .verify .undelivered)) := by
  obtain ⟨accepted, haccepted⟩ : ∃ v, Verbatim.read.ofText oddOffer = .ok v := ⟨_, rfl⟩
  obtain ⟨r, hr⟩ : ∃ r, Verbatim.read.ofText bareOffer = .ok r := ⟨_, rfl⟩
  have hpayload := blankPayload.spells_toDoc.isKept
  obtain ⟨hdetect, call, -, -, -, -, hruns⟩ := written_payment_forwarded
    ⟨accepted, blankPayload, none⟩ hpayload (Verbatim.ofText_eq_ok.1 hr)
  have hrun : plainFacilitator.ForwardRun .verify (.ofRandom 7 default) call _
      (.ok (.error .undelivered)) :=
    .sent (.made (by decide) .nothing)
      (.failed .undelivered (Facilitator.hasHost_httpRequest.trans rfl))
  exact ⟨accepted, _, Verbatim.ofText_eq_ok.1 haccepted, hpayload, hdetect,
    ((hruns plainFacilitator 7 default).1 _ _).2 ⟨_, hrun, rfl⟩⟩

end Tollbooth
