import Tollbooth.Proofs.Dialogue.Live
import Tollbooth.Proofs.Facilitator.Headers
import Tollbooth.Proofs.Facilitator.Settlement
import Tollbooth.Proofs.Json.Sound
import Tollbooth.Proofs.Protocol.Spells
/-!
# What a facilitator is asked about a payment

Payload and requirements are put into a larger document as they were received.  Whatever they are,
the request is one document, it has them at their places, and what is signed is what is sent.

A facilitator is asked about documents that somebody else has written, and that it may have to check
against a signature.  They must therefore not be changed on the way, not even where another spelling
would mean the same.  They are kept as texts, and put into the body as texts; that the body is one
document nevertheless, and has them where they belong, is a matter of how it is read back
(`PaymentCall.Says`).

The other half is that the request speaks of its own body.  The signature is made from the bytes
that are sent, and headers that are put over those of the credentials are the only thing that can
come between.

* `PaymentCall.IsOf`, `PaymentCall.Refuses` — which documents make a call, and why others make none.
* `PaymentCall.Says` — what the body of a request says when it is read back.
* `Facilitator.PaymentRun` — all that can come of a call up to what came of its request.
* `payment_request_intact` — every run of a call is one of these, and its request is intact.
-/

set_option autoImplicit false

namespace Tollbooth

open Json
open Dialogue (Event Live Yields)

/-! ## The documents of a call

Two texts and the version that the first of them shows make a call.  Texts that make none are
refused in a fixed order, which `Refuses` has from its constructors: each says that what is looked
at before it is all right. -/

namespace PaymentCall

variable {payload requirements : Bytes}

/-- The call has these documents: each of them is one value with nothing but blanks around it. -/
structure IsOf (call : PaymentCall) (payload requirements : Bytes) : Prop where
  version : ProtocolVersion.detect payload = .ok call.version
  payload : call.payload.StandsIn payload
  requirements : call.requirements.StandsIn requirements

/-- The documents make no call.  The version is looked at first, then the payload, then the
requirements. -/
inductive Refuses (payload requirements : Bytes) : FacilitatorError → Prop
  | version {e : DetectError} (h : ProtocolVersion.detect payload = .error e) :
      Refuses payload requirements (.versionUnknown e)
  | payload {version : ProtocolVersion} (known : ProtocolVersion.detect payload = .ok version)
      (h : ∀ v : Verbatim, ¬ v.StandsIn payload) :
      Refuses payload requirements (.invalidJson .payload .malformed)
  | requirements {version : ProtocolVersion} {v : Verbatim}
      (known : ProtocolVersion.detect payload = .ok version) (stands : v.StandsIn payload)
      (h : ∀ v : Verbatim, ¬ v.StandsIn requirements) :
      Refuses payload requirements (.invalidJson .requirements .malformed)

theorem readPart_eq_ok {part : CallPart} {s : Bytes} {v : Verbatim} :
    readPart part s = .ok v ↔ v.StandsIn s := by
  rw [← Verbatim.ofText_eq_ok, readPart]
  cases Verbatim.read.ofText s with
  | ok w => rw [Except.ok.injEq, Except.ok.injEq]
  | error fault => exact ⟨nofun, nofun⟩

theorem readPart_eq_error {part : CallPart} {s : Bytes} {e : FacilitatorError} :
    readPart part s = .error e ↔
      e = .invalidJson part .malformed ∧ ∀ v : Verbatim, ¬ v.StandsIn s := by
  rw [readPart]
  cases h : Verbatim.read.ofText s with
  | ok v => exact ⟨nofun, fun h' => (h'.2 v (Verbatim.ofText_eq_ok.1 h)).elim⟩
  | error fault =>
    obtain ⟨rfl, hno⟩ := Verbatim.ofText_eq_error.1 h
    exact ⟨fun h => ⟨(Except.error.inj h).symm, hno⟩, fun h => congrArg Except.error h.1.symm⟩

/-- **The documents of a call are what was given**, each of them whole. -/
theorem ofTexts_eq_ok {call : PaymentCall} :
    ofTexts payload requirements = .ok call ↔ call.IsOf payload requirements := by
  rw [ofTexts]
  cases hversion : ProtocolVersion.detect payload with
  | error e => exact ⟨nofun, fun h => by cases hversion.symm.trans h.version⟩
  | ok version =>
    constructor
    · intro h
      obtain ⟨p, hp, h⟩ := bind_eq_ok.1 h
      obtain ⟨r, hr, h⟩ := bind_eq_ok.1 h
      cases h
      exact ⟨hversion, readPart_eq_ok.1 hp, readPart_eq_ok.1 hr⟩
    · intro h
      cases hversion.symm.trans h.version
      exact bind_eq_ok.2 ⟨_, readPart_eq_ok.2 h.payload,
        bind_eq_ok.2 ⟨_, readPart_eq_ok.2 h.requirements, rfl⟩⟩

/-- Documents that make no call are refused for what is wrong with them first. -/
theorem ofTexts_eq_error {e : FacilitatorError} :
    ofTexts payload requirements = .error e ↔ Refuses payload requirements e := by
  rw [ofTexts]
  cases hversion : ProtocolVersion.detect payload with
  | error e' =>
    constructor
    · intro h
      cases h
      exact .version hversion
    · intro h
      cases h with
      | version h =>
        cases hversion.symm.trans h
        rfl
      | payload known | requirements known => cases hversion.symm.trans known
  | ok version =>
    constructor
    · intro h
      obtain hp | ⟨p, hp, h⟩ := bind_eq_error.1 h
      · obtain ⟨rfl, hno⟩ := readPart_eq_error.1 hp
        exact .payload hversion hno
      · obtain hr | ⟨r, -, h⟩ := bind_eq_error.1 h
        · obtain ⟨rfl, hno⟩ := readPart_eq_error.1 hr
          exact .requirements hversion (readPart_eq_ok.1 hp) hno
        · cases h
    · intro h
      cases h with
      | version h => cases hversion.symm.trans h
      | payload _ hno => exact bind_eq_error.2 (.inl (readPart_eq_error.2 ⟨rfl, hno⟩))
      | requirements _ stands hno =>
        exact bind_eq_error.2 (.inr ⟨_, readPart_eq_ok.2 stands,
          bind_eq_error.2 (.inl (readPart_eq_error.2 ⟨rfl, hno⟩))⟩)

/-! ## What the body says

To read the body back, its members are read as they stand, without a look into the values.  So that
both texts come out again is not owed to any knowledge of payments, and holds for every document
that can be read at all. -/

/-- The body of a request is one document.  Read back, with values as they stand, it names the
action and has the version and both documents of the call, and nothing else. -/
def Says (call : PaymentCall) (action : Action) (body : Bytes) : Prop :=
  ∃ whole name params version : Verbatim,
    body = Bytes.ofString whole.text ∧
    readMembers.ofText body = .ok [("action", name), ("params", params)] ∧
    readString.ofText (Bytes.ofString name.text) = .ok action.name ∧
    readMembers.ofText (Bytes.ofString params.text) = .ok [("x402Version", version),
      ("paymentPayload", call.payload), ("paymentRequirements", call.requirements)] ∧
    ProtocolVersion.read.ofText (Bytes.ofString version.text) = .ok call.version

/-- **The body says what it was made for.** -/
theorem says_request (call : PaymentCall) (action : Action) :
    call.Says action (action.request call.params).text := by
  obtain ⟨name, hname, -, hnameText⟩ := (spells_ofString action.name).exists_verbatim (by decide)
  obtain ⟨version, hversion, -, hversionText⟩ :=
    call.version.spells_number.exists_verbatim (by decide)
  have hparams : call.params = .ofVerbatims [("x402Version", version),
      ("paymentPayload", call.payload), ("paymentRequirements", call.requirements)] := by
    rw [params, ← hversion]
    rfl
  obtain ⟨ps, hps, -, hpsText⟩ := (spells_ofVerbatims _).exists_verbatim (by decide)
  have hbody : action.request call.params =
      .ofVerbatims [("action", name), ("params", ps)] := by
    rw [Action.request, hparams, ← hps, ← hname]
    rfl
  obtain ⟨whole, -, hwhole, hwholeText⟩ := (spells_ofVerbatims _).exists_verbatim (by decide)
  rw [hbody, ← hwhole]
  exact ⟨whole, name, ps, version, rfl, hwholeText, hnameText, hpsText, hversionText⟩

end PaymentCall

/-! ## The headers of a call

A request gets the headers that were made for it and, if its URL names a user, one more.  The user
gives way to a header that is there already, so that the signature and what goes with it are not
touched. -/

/-- The headers of a request speak of its body: unless a header of the same name was put in the
place of one, they have the signature of the body at a time, that time and what is aimed at. -/
structure Credentials.Signs (c : Credentials) (action : Action) (time : Nat) (extra : Http.Headers)
    (body : Bytes) (headers : Http.Headers) : Prop where
  signature : "x-signature" ∉ extra.map (·.1) → headers.getAll "x-signature" =
    [Bytes.ofString (signature (Bytes.ofString c.secret) time signingPath body)]
  time : "x-timestamp" ∉ extra.map (·.1) →
    headers.getAll "x-timestamp" = [Bytes.ofString (toString time)]
  target : "x-target-uri" ∉ extra.map (·.1) →
    headers.getAll "x-target-uri" = [Bytes.ofString action.targetUri]

theorem Http.Url.eq_of_userHeader? {u : Http.Url} {name : String} {value : Bytes}
    (h : u.userHeader? = some (name, value)) : name = "authorization" := by
  obtain ⟨user, -, h⟩ := Option.bind_eq_some_iff.1 h
  obtain ⟨-, -, h⟩ := Option.bind_eq_some_iff.1 h
  cases h
  rfl

namespace Facilitator

variable {f : Facilitator} {body : Bytes}

/-- A request has the headers that it was made with, but for a user whom the URL names. -/
theorem getAll_httpRequest {headers : Http.Headers} {name : String} (h : name ≠ "authorization") :
    (f.httpRequest headers body).headers.getAll name = headers.getAll name := by
  rw [httpRequest, Http.Request.make]
  split
  · rfl
  · next user value huser =>
    have hname : user ≠ name := by
      rw [Http.Url.eq_of_userHeader? huser]
      exact h.symm
    dsimp only
    split
    · rfl
    · simp [Http.Headers.getAll, hname]

theorem body_httpRequest {headers : Http.Headers} :
    (f.httpRequest headers body).body = .bytes body := by
  rw [httpRequest, Http.Request.make]
  split <;> rfl

theorem hasHost_httpRequest {headers : Http.Headers} :
    (f.httpRequest headers body).url.hasHost = f.url.hasHost := by
  rw [httpRequest, Http.Request.make]
  split <;> rfl

end Facilitator

theorem Credentials.signs_ownHeaders {f : Facilitator} {c : Credentials} {action : Action}
    {stamp : Stamp} {extra : Http.Headers} {body : Bytes} :
    c.Signs action stamp.time extra body
      (f.httpRequest (overlay (ownHeaders (some c) action stamp body) extra) body).headers := by
  have hsent : ∀ {name : String}, name ≠ "authorization" → name ∉ extra.map (·.1) →
      (f.httpRequest (overlay (ownHeaders (some c) action stamp body) extra)
        body).headers.getAll name = (ownHeaders (some c) action stamp body).getAll name := by
    intro name hname hextra
    rw [Facilitator.getAll_httpRequest hname, getAll_overlay_of_not_mem hextra]
  refine ⟨fun h => ?_, fun h => ?_, fun h => ?_⟩
  all_goals
    rw [hsent (by decide) h, ownHeaders, Option.map_some, Option.getD_some, signed]
    cases c.passphrase <;> simp [Http.Headers.getAll, contentHeaders, sign]

namespace Facilitator

variable {f : Facilitator} {action : Action} {stamp : Stamp} {payload requirements : Bytes}
  {events : List Event}

/-! ## What comes of a call

Verifying and settling differ only in what is made of the reply, and that happens when the request
is long sent.  So one description, `PaymentRun`, serves both, up to what came of the request. -/

/-- All that can come of a call about a payment, up to what came of its request. -/
inductive PaymentRun (f : Facilitator) (action : Action) (stamp : Stamp)
    (payload requirements : Bytes) :
    List Event → Except FacilitatorError (Except Http.TransportFault Reply) → Prop
  /-- The documents make no call. -/
  | refused {e : FacilitatorError} (h : PaymentCall.Refuses payload requirements e) :
      PaymentRun f action stamp payload requirements [] (.error e)
  /-- The request has no headers. -/
  | unheaded {call : PaymentCall} {events : List Event} {e : FacilitatorError}
      (hcall : call.IsOf payload requirements)
      (h : HeaderRun f.credentials f.provider action stamp (action.request call.params).text events
        (.error e)) :
      PaymentRun f action stamp payload requirements events (.error e)
  | sent {call : PaymentCall} {headers : Http.Headers} {before after : List Event}
      {reply : Except Http.TransportFault Reply} (hcall : call.IsOf payload requirements)
      (headed : HeaderRun f.credentials f.provider action stamp (action.request call.params).text
        before (.ok headers))
      (sent : f.Sends (f.httpRequest headers (action.request call.params).text) after reply) :
      PaymentRun f action stamp payload requirements (before ++ after) (.ok reply)

/-- What a client makes of what came of its request to verify. -/
def verified (requirements : Bytes) :
    Except Http.TransportFault Reply → Except FacilitatorError Verification
  | .error fault => .error (.transport .verify fault)
  | .ok reply => reply.verification requirements

theorem verify_eq_ask :
    f.verify stamp payload requirements =
      f.ask .verify stamp payload requirements >>= fun x =>
        pure (x.bind (verified requirements)) := by
  rw [verify, ask]
  cases PaymentCall.ofTexts payload requirements with
  | error e => rfl
  | ok call =>
    refine congrArg (f.call .verify stamp call.params >>= ·) (funext fun x => ?_)
    rcases x with e | fault | reply <;> rfl

/-- **What comes of asking about a payment.** -/
theorem yields_ask {x : Except FacilitatorError (Except Http.TransportFault Reply)}
    (hstamp : Http.isValue (Bytes.ofString stamp.requestId) = true) :
    Yields (f.ask action stamp payload requirements) events x ↔
      f.PaymentRun action stamp payload requirements events x := by
  rw [ask]
  cases hcall : PaymentCall.ofTexts payload requirements with
  | error e =>
    rw [Dialogue.yields_pure]
    constructor
    · rintro ⟨rfl, rfl⟩
      exact .refused (PaymentCall.ofTexts_eq_error.1 hcall)
    · intro h
      cases h with
      | refused h =>
        cases hcall.symm.trans (PaymentCall.ofTexts_eq_error.2 h)
        exact ⟨rfl, rfl⟩
      | unheaded h | sent h => cases hcall.symm.trans (PaymentCall.ofTexts_eq_ok.2 h)
  | ok call =>
    rw [yields_call]
    constructor
    · rintro (⟨e, rfl, hheaders⟩ | ⟨before, after, headers, reply, rfl, rfl, hheaders, hsent⟩)
      · exact .unheaded (PaymentCall.ofTexts_eq_ok.1 hcall)
          ((yields_requestHeaders hstamp).1 hheaders)
      · exact .sent (PaymentCall.ofTexts_eq_ok.1 hcall)
          ((yields_requestHeaders hstamp).1 hheaders) hsent
    · intro h
      cases h with
      | refused h => cases hcall.symm.trans (PaymentCall.ofTexts_eq_error.2 h)
      | unheaded hcall' hheaders =>
        cases hcall.symm.trans (PaymentCall.ofTexts_eq_ok.2 hcall')
        exact .inl ⟨_, rfl, (yields_requestHeaders hstamp).2 hheaders⟩
      | sent hcall' hheaders hsent =>
        cases hcall.symm.trans (PaymentCall.ofTexts_eq_ok.2 hcall')
        exact .inr ⟨_, _, _, _, rfl, rfl, (yields_requestHeaders hstamp).2 hheaders, hsent⟩

theorem live_call {params : Json.Doc}
    (hstamp : Http.isValue (Bytes.ofString stamp.requestId) = true)
    (hp : ∀ p, f.provider = some p → Live p) : Live (f.call action stamp params) := by
  refine (live_requestHeaders hstamp hp).bind fun headers => ?_
  cases headers with
  | error e => exact Dialogue.live_done _
  | ok headers => exact (live_post headers _).bind fun _ => Dialogue.live_done _

/-- A call comes to an end if the provider always answers. -/
theorem live_ask (hstamp : Http.isValue (Bytes.ofString stamp.requestId) = true)
    (hp : ∀ p, f.provider = some p → Live p) :
    Live (f.ask action stamp payload requirements) := by
  rw [ask]
  split
  · exact Dialogue.live_done _
  · exact live_call hstamp hp

/-- A request that is not made has nothing sent for it, but for what a provider does. -/
theorem PaymentRun.of_error {e : FacilitatorError}
    (h : f.PaymentRun action stamp payload requirements events (.error e)) :
    events = [] ∨ ∃ p reason, f.provider = some p ∧ Yields p events (.error reason) ∧
      e = .noExtraHeaders reason := by
  cases h with
  | refused => exact .inl rfl
  | unheaded _ h =>
    cases h with
    | illegal => exact .inl rfl
    | failed _ hp run => exact .inr ⟨_, _, hp, run, rfl⟩

/-- After what the provider does the one request of a call is sent.  Its body says what the call is
about, with both documents as they were given, and its headers speak of that body. -/
def SendsIntact (f : Facilitator) (action : Action) (time : Nat) (payload requirements : Bytes)
    (events : List Event) (reply : Except Http.TransportFault Reply) : Prop :=
  ∃ (call : PaymentCall) (before after : List Event) (extra : Http.Headers)
    (request : Http.Request) (body : Bytes), events = before ++ after ∧
      call.IsOf payload requirements ∧ Provides action f.provider before extra ∧
      f.Sends request after reply ∧
      requests after = (if f.url.hasHost then [request] else []) ∧
      request.body = .bytes body ∧ call.Says action body ∧
      ∀ c, f.credentials = some c → c.Signs action time extra body request.headers

/-- **A request that is made is intact.** -/
theorem PaymentRun.of_ok {reply : Except Http.TransportFault Reply}
    (h : f.PaymentRun action stamp payload requirements events (.ok reply)) :
    f.SendsIntact action stamp.time payload requirements events reply := by
  cases h with
  | sent hcall headed hsent =>
    cases headed with
    | made _ provided =>
      refine ⟨_, _, _, _, _, _, rfl, hcall, provided, hsent, ?_, body_httpRequest,
        PaymentCall.says_request _ action, fun c hc => ?_⟩
      · rw [hsent.requests_eq, hasHost_httpRequest]
      · rw [hc]
        exact Credentials.signs_ownHeaders

end Facilitator

/-- **The request about a payment is intact.**  A call to verify or to settle either is refused
before anything is sent, for its documents, a credential or the provider of extra headers; or it
sends one request.  The body of that has both documents as they were given, and the signature is
that of the body. -/
theorem payment_request_intact (f : Facilitator) (time : Nat) (random : Octets 16)
    (payload requirements : Bytes) :
    (∀ events result,
      Yields (f.verify (.ofRandom time random) payload requirements) events result ↔
        ∃ x, f.PaymentRun .verify (.ofRandom time random) payload requirements events x ∧
          result = x.bind (Facilitator.verified requirements)) ∧
    (∀ events result,
      Yields (f.settle (.ofRandom time random) payload requirements) events result ↔
        ∃ x, f.PaymentRun .settle (.ofRandom time random) payload requirements events x ∧
          result = x.bind (Facilitator.settled requirements)) ∧
    (∀ action events e,
      f.PaymentRun action (.ofRandom time random) payload requirements events (.error e) →
        events = [] ∨ ∃ p reason, f.provider = some p ∧ Yields p events (.error reason) ∧
          e = .noExtraHeaders reason) ∧
    (∀ action events reply,
      f.PaymentRun action (.ofRandom time random) payload requirements events (.ok reply) →
        f.SendsIntact action time payload requirements events reply) ∧
    ((∀ p, f.provider = some p → Live p) →
      Live (f.verify (.ofRandom time random) payload requirements) ∧
      Live (f.settle (.ofRandom time random) payload requirements)) := by
  have hstamp := Stamp.isValue_requestId time random
  refine ⟨fun events result => ?_, fun events result => ?_, fun action events e h => h.of_error,
    fun action events reply h => h.of_ok, fun hp => ⟨?_, ?_⟩⟩
  · rw [Facilitator.verify_eq_ask, Dialogue.yields_bind_pure]
    exact exists_congr fun x => and_congr_left' (Facilitator.yields_ask hstamp)
  · rw [Facilitator.settle_eq_ask, Dialogue.yields_bind_pure]
    exact exists_congr fun x => and_congr_left' (Facilitator.yields_ask hstamp)
  · rw [Facilitator.verify_eq_ask]
    exact (Facilitator.live_ask hstamp hp).bind fun _ => Dialogue.live_done _
  · rw [Facilitator.settle_eq_ask]
    exact (Facilitator.live_ask hstamp hp).bind fun _ => Dialogue.live_done _

/-- A facilitator that is called with credentials. -/
def signedFacilitator : Facilitator :=
  { plainFacilitator with credentials := some (.ofKey "k" "s") }

/-- A request that is signed and not delivered. -/
theorem payment_request_intact_signed : ∃ events request body, ∃ call : PaymentCall,
    Yields (signedFacilitator.verify (.ofRandom 7 default) barePayment bareOffer) events
        (.error (.transport .verify .undelivered)) ∧
      Facilitator.requests events = [request] ∧ call.IsOf barePayment bareOffer ∧
      request.body = .bytes body ∧ call.Says .verify body ∧
      request.headers.getAll "x-signature" = [Bytes.ofString
        (Credentials.signature (Bytes.ofString "s") 7 Credentials.signingPath body)] := by
  obtain ⟨hverify, -, -, hsent, -⟩ :=
    payment_request_intact signedFacilitator 7 default barePayment bareOffer
  obtain ⟨call, hcall⟩ : ∃ call, PaymentCall.ofTexts barePayment bareOffer = .ok call := ⟨_, rfl⟩
  have hrun : signedFacilitator.PaymentRun .verify (.ofRandom 7 default) barePayment bareOffer
      _ (.ok (.error .undelivered)) :=
    .sent (PaymentCall.ofTexts_eq_ok.1 hcall) (.made (by decide) .nothing)
      (.failed .undelivered (Facilitator.hasHost_httpRequest.trans rfl))
  obtain ⟨call', before, after, extra, request, body, hevents, hof, hprovided, -, hrequests, hbody,
    hsays, hsigns⟩ := hsent _ _ _ hrun
  cases hprovided
  refine ⟨_, request, body, call', (hverify _ _).2 ⟨_, hrun, rfl⟩, ?_, hof, hbody, hsays,
    (hsigns _ rfl).signature nofun⟩
  rw [hevents]
  exact hrequests

end Tollbooth
