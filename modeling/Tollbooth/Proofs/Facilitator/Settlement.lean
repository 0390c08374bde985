import Tollbooth.Proofs.Facilitator.Call
/-!
# What comes of asking to settle a payment

A settlement moves money, so what is said of one has to be right: a payment that may have been
settled must not be taken for one that was not.

There are two ways to be wrong.  To take a payment for settled that was not is to give something
away, so a settlement needs everything: a status, a code and data that all say so.  To take one for
not settled that was is worse, for whoever believes it may pay twice.  So where a request may have
arrived and there is no reply, or none that can be read, or one of a server that failed and names no
reason, the outcome is left open.  One reply gets past this.  If the code and the data say that the
payment was settled, but the status is neither 200 nor that of a failed server, the call fails for
good.

What a reply means is told apart from what came of the request as a whole.  The first is a matter of
the reply alone, and the cases of `Reply.Settles` are those in which it is decided.  The second adds
what can happen on the way, and is put as a table, a row for each kind of result, so that it can be
looked up from the side of the caller: what is known if this is the result?

* `Reply.Doubts`, `Reply.Denies`, `Reply.Settles` — what a reply means, case by case;
  `settlement_eq_iff` says that this is what `Reply.settlement` makes of it.
* `SettlementTable` — for every result of a call, the condition under which it is the result.
* `settle_outcome` — the runs of a call are one sending and what the table says of it.
* `settled_reply_outcome` — what becomes of a reply that says that the payment was settled.
-/

set_option autoImplicit false

namespace Tollbooth

open Json
open Dialogue (Event Leads Yields)

/-! ## Replies

Two readings of the data compete.  If status and code say success, the data are read as an outcome,
which may still be negative; otherwise they are searched for the reason of a failure.  A reply
belongs to exactly one constructor of `Reply.Settles`, and `settlement_eq_iff` holds the
constructors against the function: in one direction the function is followed from case to case, and
in the other each constructor says enough to decide every test on the way. -/

/-- The status and the code say success. -/
def Reply.Succeeds (reply : Reply) (e : Envelope) : Prop :=
  reply.status = 200 ∧ e.remark.code = 0

/-- The status says that the server failed. -/
def Reply.ServerFailed (reply : Reply) : Prop := 500 ≤ reply.status ∧ reply.status < 600

/-- The reason that an envelope names for a failure of a settlement. -/
def Envelope.settleReason (e : Envelope) : Option String :=
  nonEmpty (FailureData.ofData e.data).errorReason

/-- A reply leaves open whether the payment was settled. -/
inductive Reply.Doubts (reply : Reply) : Doubt → Prop
  /-- There is no envelope. -/
  | unreadable (he : reply.envelope? = none) :
      Doubts reply (.undecodable reply.status reply.shownBody)
  /-- Success is claimed, but the data do not say what was done. -/
  | unclear {e : Envelope} {fault : Fault} (he : reply.envelope? = some e)
      (hs : reply.Succeeds e) (hd : Settlement.read.ofValue e.data = .error fault) :
      Doubts reply (.undecodable reply.status reply.shownBody)
  /-- The server failed and names no reason. -/
  | serverFailed {e : Envelope} (he : reply.envelope? = some e) (hs : ¬ reply.Succeeds e)
      (hr : e.settleReason = none) (h5 : reply.ServerFailed) :
      Doubts reply (.serverFailed reply.status e.remark)

/-- A reply says that the payment was not settled, and why. -/
inductive Reply.Denies (reply : Reply) (requirements : Bytes) : FacilitatorError → Prop
  /-- The data are an outcome, and it is negative. -/
  | failed {e : Envelope} {reason network : String} {payer transaction : Option String}
      (he : reply.envelope? = some e) (hs : reply.Succeeds e)
      (hd : Settlement.read.ofValue e.data = .ok (.failed reason network payer transaction)) :
      Denies reply requirements (.notSettled reason (nonEmpty payer)
        ((nonEmpty (some network)).or (offerNetwork requirements)) (nonEmpty transaction) e.remark)
  /-- The envelope is none of a success, and names a reason. -/
  | named {e : Envelope} {reason : String} (he : reply.envelope? = some e)
      (hs : ¬ reply.Succeeds e) (hr : e.settleReason = some reason) :
      Denies reply requirements (.notSettled reason
        (nonEmpty (FailureData.ofData e.data).payer)
        ((nonEmpty (FailureData.ofData e.data).network).or (offerNetwork requirements))
        (nonEmpty (FailureData.ofData e.data).transaction) e.remark)

/-- What a reply to a settlement means. -/
inductive Reply.Settles (reply : Reply) (requirements : Bytes) :
    Except FacilitatorError Settlement → Prop
  | settled {e : Envelope} {s : Settlement} (he : reply.envelope? = some e)
      (hs : reply.Succeeds e) (hd : Settlement.read.ofValue e.data = .ok s)
      (hy : s.isSettled = true) : Settles reply requirements (.ok s)
  | doubted {doubt : Doubt} (h : reply.Doubts doubt) :
      Settles reply requirements (.error (.outcomeUnknown doubt))
  | denied {error : FacilitatorError} (h : reply.Denies requirements error) :
      Settles reply requirements (.error error)
  | badStatus {e : Envelope} (he : reply.envelope? = some e) (hs : reply.status ≠ 200)
      (hr : e.settleReason = none) (h5 : ¬ reply.ServerFailed) :
      Settles reply requirements (.error (.badStatus .settle reply.status e.remark))
  | refused {e : Envelope} (he : reply.envelope? = some e) (hs : reply.status = 200)
      (hc : e.remark.code ≠ 0) (hr : e.settleReason = none) :
      Settles reply requirements (.error (.refused .settle e.remark))

variable {reply : Reply} {requirements : Bytes} {result : Except FacilitatorError Settlement}

theorem Reply.isSuccess_iff {e : Envelope} : reply.isSuccess e = true ↔ reply.Succeeds e := by
  rw [Reply.isSuccess, Bool.and_eq_true, decide_eq_true_iff, decide_eq_true_iff, Reply.Succeeds]

theorem Reply.isServerError_iff : reply.isServerError = true ↔ reply.ServerFailed := by
  rw [Reply.isServerError, Bool.and_eq_true, decide_eq_true_iff, decide_eq_true_iff,
    Reply.ServerFailed]

/-- A server that failed did not answer with 200. -/
theorem Reply.ServerFailed.status_ne (h : reply.ServerFailed) : reply.status ≠ 200 := by
  rw [Reply.ServerFailed] at h
  omega

theorem Reply.settlement_of_none (he : reply.envelope? = none) :
    reply.settlement requirements =
      .error (.outcomeUnknown (.undecodable reply.status reply.shownBody)) := by
  rw [Reply.settlement, he]
  rfl

/-- The envelope of a success is as good as its data. -/
theorem Reply.settlement_of_succeeds {e : Envelope} (he : reply.envelope? = some e)
    (hs : reply.Succeeds e) :
    reply.settlement requirements =
      match Settlement.read.ofValue e.data with
      | .error _ => .error (.outcomeUnknown (.undecodable reply.status reply.shownBody))
      | .ok (.settled transaction network payer) => .ok (.settled transaction network payer)
      | .ok (.failed reason network payer transaction) =>
        .error (.notSettled reason (nonEmpty payer)
          ((nonEmpty (some network)).or (offerNetwork requirements)) (nonEmpty transaction)
          e.remark) := by
  rw [Reply.settlement, he]
  exact if_pos (Reply.isSuccess_iff.2 hs)

/-- Without success the data only count for the reason that they name. -/
theorem Reply.settlement_of_not_succeeds {e : Envelope} (he : reply.envelope? = some e)
    (hs : ¬ reply.Succeeds e) :
    reply.settlement requirements =
      match e.settleReason with
      | some reason =>
        .error (.notSettled reason (nonEmpty (FailureData.ofData e.data).payer)
          ((nonEmpty (FailureData.ofData e.data).network).or (offerNetwork requirements))
          (nonEmpty (FailureData.ofData e.data).transaction) e.remark)
      | none =>
        if reply.isServerError then
          .error (.outcomeUnknown (.serverFailed reply.status e.remark))
        else .error (reply.unexplained .settle e) := by
  rw [Reply.settlement, he]
  exact if_neg fun h => hs (Reply.isSuccess_iff.1 h)

theorem Reply.settlement_of_unexplained {e : Envelope} (he : reply.envelope? = some e)
    (hs : ¬ reply.Succeeds e) (hr : e.settleReason = none) (h5 : ¬ reply.ServerFailed) :
    reply.settlement requirements = .error (reply.unexplained .settle e) := by
  rw [settlement_of_not_succeeds he hs, hr]
  exact if_neg fun h => h5 (isServerError_iff.1 h)

theorem Reply.settles_settlement : reply.Settles requirements (reply.settlement requirements) := by
  cases he : reply.envelope? with
  | none =>
    rw [settlement_of_none he]
    exact .doubted (.unreadable he)
  | some e =>
    by_cases hs : reply.Succeeds e
    · rw [settlement_of_succeeds he hs]
      cases hd : Settlement.read.ofValue e.data with
      | error fault => exact .doubted (.unclear he hs hd)
      | ok s =>
        cases s with
        | settled transaction network payer => exact .settled he hs hd rfl
        | failed reason network payer transaction => exact .denied (.failed he hs hd)
    · rw [settlement_of_not_succeeds he hs]
      cases hr : e.settleReason with
      | some reason => exact .denied (.named he hs hr)
      | none =>
        by_cases h5 : reply.isServerError = true
        · rw [if_pos h5]
          exact .doubted (.serverFailed he hs hr (isServerError_iff.1 h5))
        · rw [if_neg h5, unexplained]
          have h5 : ¬ reply.ServerFailed := fun h => h5 (isServerError_iff.2 h)
          by_cases h200 : reply.status = 200
          · rw [if_neg fun h => h h200]
            exact .refused he h200 (fun hc => hs ⟨h200, hc⟩) hr
          · rw [if_pos h200]
            exact .badStatus he h200 hr h5

/-- **A reply is taken for what it means**, and for nothing else. -/
theorem Reply.settlement_eq_iff :
    reply.settlement requirements = result ↔ reply.Settles requirements result := by
  constructor
  · rintro rfl
    exact settles_settlement
  · intro h
    cases h with
    | settled he hs hd hy =>
      rw [settlement_of_succeeds he hs, hd]
      rename_i s
      cases s with
      | settled => rfl
      | failed => cases hy
    | doubted h =>
      cases h with
      | unreadable he => exact settlement_of_none he
      | unclear he hs hd => rw [settlement_of_succeeds he hs, hd]
      | serverFailed he hs hr h5 =>
        rw [settlement_of_not_succeeds he hs, hr]
        exact if_pos (isServerError_iff.2 h5)
    | denied h =>
      cases h with
      | failed he hs hd => rw [settlement_of_succeeds he hs, hd]
      | named he hs hr => rw [settlement_of_not_succeeds he hs, hr]
    | badStatus he hs hr h5 =>
      rw [settlement_of_unexplained he (fun h => hs h.1) hr h5, unexplained, if_pos hs]
    | refused he hs hc hr =>
      have h5 : ¬ reply.ServerFailed := fun h => h.status_ne hs
      rw [settlement_of_unexplained he (fun h => hc h.2) hr h5, unexplained, if_neg fun h => h hs]

/-! ## The table

Each row is an equivalence, so the table does not only say what leads to a result, but also that
nothing else does.  The last field says that the rows are all there are.  Two results in one table
are then equal, by the row of the first one. -/

/-- What is known after a request to settle: what came of sending it leaves open whether the payment
was settled. -/
inductive InDoubt : Except Http.TransportFault Reply → Doubt → Prop
  /-- The exchange failed, and not before anything was delivered. -/
  | interrupted {fault : Http.TransportFault} (h : fault ≠ .undelivered) :
      InDoubt (.error fault) .interrupted
  | doubted {reply : Reply} {doubt : Doubt} (h : reply.Doubts doubt) : InDoubt (.ok reply) doubt

/-- For every result of a request to settle, when it is the result; `r` is what came of sending the
request. -/
structure SettlementTable (requirements : Bytes) (r : Except Http.TransportFault Reply)
    (result : Except FacilitatorError Settlement) : Prop where
  /-- The request is reported to have failed on its way just if nothing was delivered. -/
  transport : ∀ action fault, result = .error (.transport action fault) ↔
    action = .settle ∧ fault = .undelivered ∧ r = .error .undelivered
  outcomeUnknown : ∀ doubt, result = .error (.outcomeUnknown doubt) ↔ InDoubt r doubt
  /-- A settlement needs the status 200, the code 0 and data that say so. -/
  settled : ∀ s, result = .ok s ↔ ∃ reply e, r = .ok reply ∧ reply.envelope? = some e ∧
    reply.Succeeds e ∧ Settlement.read.ofValue e.data = .ok s ∧ s.isSettled = true
  notSettled : ∀ reason payer network transaction remark,
    result = .error (.notSettled reason payer network transaction remark) ↔
      ∃ reply, r = .ok reply ∧
        reply.Denies requirements (.notSettled reason payer network transaction remark)
  badStatus : ∀ action status remark, result = .error (.badStatus action status remark) ↔
    action = .settle ∧ ∃ reply e, r = .ok reply ∧ reply.envelope? = some e ∧
      e.settleReason = none ∧ reply.status ≠ 200 ∧ ¬ reply.ServerFailed ∧
      status = reply.status ∧ remark = e.remark
  refused : ∀ action remark, result = .error (.refused action remark) ↔
    action = .settle ∧ ∃ reply e, r = .ok reply ∧ reply.envelope? = some e ∧
      e.settleReason = none ∧ reply.status = 200 ∧ e.remark.code ≠ 0 ∧ remark = e.remark
  /-- There is no other result. -/
  complete : (∃ s, result = .ok s) ∨ result = .error (.transport .settle .undelivered) ∨
    (∃ doubt, result = .error (.outcomeUnknown doubt)) ∨
    (∃ reason payer network transaction remark,
      result = .error (.notSettled reason payer network transaction remark)) ∨
    (∃ status remark, result = .error (.badStatus .settle status remark)) ∨
    ∃ remark, result = .error (.refused .settle remark)

/-- What a client makes of what came of sending its request to settle. -/
def Facilitator.settled (requirements : Bytes) :
    Except Http.TransportFault Reply → Except FacilitatorError Settlement
  | .error fault => .error (settleFault fault)
  | .ok reply => reply.settlement requirements

theorem settlementTable_error (fault : Http.TransportFault) :
    SettlementTable requirements (.error fault) (.error (Facilitator.settleFault fault)) where
  transport action fault' := by
    cases fault <;> simp [Facilitator.settleFault, eq_comm]
  outcomeUnknown doubt := by
    constructor
    · intro h
      cases fault with
      | undelivered => cases h
      | interrupted | stage => cases h; exact .interrupted (by decide)
    · rintro ⟨h⟩
      cases fault with
      | undelivered => exact (h rfl).elim
      | interrupted | stage => rfl
  settled s := by simp
  notSettled reason payer network transaction remark := by
    cases fault <;> simp [Facilitator.settleFault]
  badStatus action status remark := by
    cases fault <;> simp [Facilitator.settleFault]
  refused action remark := by
    cases fault <;> simp [Facilitator.settleFault]
  complete := by
    cases fault with
    | undelivered => exact .inr (.inl rfl)
    | interrupted | stage => exact .inr (.inr (.inl ⟨_, rfl⟩))

theorem settlementTable_ok (reply : Reply) :
    SettlementTable requirements (.ok reply) (reply.settlement requirements) where
  transport action fault := by
    rw [Reply.settlement_eq_iff]
    constructor
    · rintro (_ | _ | ⟨⟨⟩⟩)
    · rintro ⟨-, -, ⟨⟩⟩
  outcomeUnknown doubt := by
    rw [Reply.settlement_eq_iff]
    constructor
    · rintro (_ | h | ⟨⟨⟩⟩)
      exact .doubted h
    · rintro (_ | h)
      exact .doubted h
  settled s := by
    rw [Reply.settlement_eq_iff]
    constructor
    · rintro ⟨he, hs, hd, hy⟩
      exact ⟨_, _, rfl, he, hs, hd, hy⟩
    · rintro ⟨_, e, ⟨⟩, he, hs, hd, hy⟩
      exact .settled he hs hd hy
  notSettled reason payer network transaction remark := by
    rw [Reply.settlement_eq_iff]
    constructor
    · rintro (_ | _ | h)
      exact ⟨_, rfl, h⟩
    · rintro ⟨_, ⟨⟩, h⟩
      exact .denied h
  badStatus action status remark := by
    rw [Reply.settlement_eq_iff]
    constructor
    · rintro (_ | _ | ⟨⟨⟩⟩ | ⟨he, hs, hr, h5⟩)
      exact ⟨rfl, _, _, rfl, he, hr, hs, h5, rfl, rfl⟩
    · rintro ⟨rfl, _, e, ⟨⟩, he, hr, hs, h5, rfl, rfl⟩
      exact .badStatus he hs hr h5
  refused action remark := by
    rw [Reply.settlement_eq_iff]
    constructor
    · rintro (_ | _ | ⟨⟨⟩⟩ | _ | ⟨he, hs, hc, hr⟩)
      exact ⟨rfl, _, _, rfl, he, hr, hs, hc, rfl⟩
    · rintro ⟨rfl, _, e, ⟨⟩, he, hr, hs, hc, rfl⟩
      exact .refused he hs hc hr
  complete := by
    generalize hresult : reply.settlement requirements = result
    cases Reply.settlement_eq_iff.1 hresult with
    | settled => exact .inl ⟨_, rfl⟩
    | doubted => exact .inr (.inr (.inl ⟨_, rfl⟩))
    | denied h => cases h <;> exact .inr (.inr (.inr (.inl ⟨_, _, _, _, _, rfl⟩)))
    | badStatus => exact .inr (.inr (.inr (.inr (.inl ⟨_, _, rfl⟩))))
    | refused => exact .inr (.inr (.inr (.inr (.inr ⟨_, rfl⟩))))

theorem settlementTable_settled (r : Except Http.TransportFault Reply) :
    SettlementTable requirements r (Facilitator.settled requirements r) := by
  cases r with
  | error fault => exact settlementTable_error fault
  | ok reply => exact settlementTable_ok reply

/-- The table lists one result for each case. -/
theorem SettlementTable.unique {r : Except Http.TransportFault Reply}
    {a b : Except FacilitatorError Settlement} (ha : SettlementTable requirements r a)
    (hb : SettlementTable requirements r b) : a = b := by
  rcases ha.complete with ⟨s, h⟩ | h | ⟨doubt, h⟩ | ⟨_, _, _, _, _, h⟩ | ⟨_, _, h⟩ | ⟨_, h⟩
  · rw [h, (hb.settled s).2 ((ha.settled s).1 h)]
  · rw [h, (hb.transport _ _).2 ((ha.transport _ _).1 h)]
  · rw [h, (hb.outcomeUnknown doubt).2 ((ha.outcomeUnknown doubt).1 h)]
  · rw [h, (hb.notSettled _ _ _ _ _).2 ((ha.notSettled _ _ _ _ _).1 h)]
  · rw [h, (hb.badStatus _ _ _).2 ((ha.badStatus _ _ _).1 h)]
  · rw [h, (hb.refused _ _).2 ((ha.refused _ _).1 h)]

theorem settlementTable_iff {r : Except Http.TransportFault Reply} :
    SettlementTable requirements r result ↔ result = Facilitator.settled requirements r := by
  constructor
  · intro h
    exact h.unique (settlementTable_settled r)
  · rintro rfl
    exact settlementTable_settled r

/-! ## Whole calls

What a call asks of the world is known from `Call`, and what is made of the answer is in the table.
What is left is to put them together. -/

variable {f : Facilitator} {stamp : Stamp} {payload : Bytes} {before after : List Event}
  {request : Http.Request}

theorem Facilitator.settle_eq_ask :
    f.settle stamp payload requirements =
      f.ask .settle stamp payload requirements >>= fun x =>
        pure (x.bind (settled requirements)) := by
  rw [settle, ask]
  cases PaymentCall.ofTexts payload requirements with
  | error e => rfl
  | ok call =>
    refine congrArg (f.call .settle stamp call.params >>= ·) (funext fun x => ?_)
    rcases x with e | fault | reply <;> rfl

/-- Once its request is ready, what is left of asking to settle is to send it. -/
theorem Facilitator.yields_settle_append
    (hp : f.Prepares .settle stamp payload requirements before request) :
    Yields (f.settle stamp payload requirements) (before ++ after) result ↔
      ∃ r, f.Sends request after r ∧ result = settled requirements r := by
  rw [settle_eq_ask]
  exact yields_bind_sends fun x => yields_ask_append hp

/-- **What comes of asking to settle a payment.**  Once its request is ready, a call sends it once,
and its result is the one that the table lists for what came of that. -/
theorem settle_outcome (hp : f.Prepares .settle stamp payload requirements before request) :
    (Yields (f.settle stamp payload requirements) (before ++ after) result ↔
      ∃ r, f.Sends request after r ∧ SettlementTable requirements r result) ∧
    (Yields (f.settle stamp payload requirements) (before ++ after) result →
      Facilitator.requests after = if request.url.hasHost then [request] else []) ∧
    ∀ r, ∃ a, SettlementTable requirements r a ∧ ∀ b, SettlementTable requirements r b → b = a := by
  refine ⟨?_, ?_, fun r => ?_⟩
  · rw [Facilitator.yields_settle_append hp]
    exact exists_congr fun r => and_congr_right fun _ => settlementTable_iff.symm
  · intro h
    obtain ⟨r, hs, -⟩ := (Facilitator.yields_settle_append hp).1 h
    exact hs.requests_eq
  · exact ⟨_, settlementTable_settled r, fun b hb => hb.unique (settlementTable_settled r)⟩

/-- A request without signature and extra headers is ready at once. -/
theorem Facilitator.prepares_plain {action : Action} {call : PaymentCall}
    (hc : f.credentials = none) (hp : f.provider = none)
    (hcall : PaymentCall.ofTexts payload requirements = .ok call) :
    f.Prepares action stamp payload requirements []
      (f.httpRequest contentHeaders (action.request call.params).text) := by
  refine ⟨call, contentHeaders, hcall, ?_, rfl⟩
  rw [Headed, hc, hp]
  exact Dialogue.yields_pure.2 ⟨rfl, rfl⟩

/-- A payment of the first version and an offer, both without details. -/
def barePayment : Bytes := Bytes.ofString "\x7b\"x402Version\":1\x7d"

def bareOffer : Bytes := Bytes.ofString "\x7b\x7d"

/-- A facilitator that is called without credentials. -/
def plainFacilitator : Facilitator where
  url := { (default : Http.Url) with scheme := "https".toList, host := some "a".toList }
  credentials := none
  provider := none
  timeout := Facilitator.defaultTimeout
  cache := .empty 0

theorem prepares_bare : ∃ body, plainFacilitator.Prepares .settle ⟨0, "r"⟩ barePayment bareOffer []
    (plainFacilitator.httpRequest contentHeaders body) := by
  obtain ⟨call, hcall⟩ : ∃ call, PaymentCall.ofTexts barePayment bareOffer = .ok call := ⟨_, rfl⟩
  exact ⟨_, Facilitator.prepares_plain rfl rfl hcall⟩

/-- The reply says, with code and data, that the payment was settled. -/
def Reply.Reports (reply : Reply) (e : Envelope) (s : Settlement) : Prop :=
  reply.envelope? = some e ∧ e.remark.code = 0 ∧ Settlement.read.ofValue e.data = .ok s ∧
    s.isSettled = true

/-- A reply with a status and a body that says that the payment was settled. -/
def settledReply (status : Nat) : Reply where
  status := status
  body := Bytes.ofString
    "\x7b\"code\":0,\"data\":\x7b\"success\":true,\"transaction\":\"t\"\x7d\x7d"

theorem settledReply_reports (status : Nat) :
    ∃ e, (settledReply status).Reports e (.settled "t" "" none) ∧ e.settleReason = none :=
  ⟨_, ⟨rfl, rfl, rfl, rfl⟩, rfl⟩

theorem sends_plain {body : Bytes} (status : Nat) :
    plainFacilitator.Sends (plainFacilitator.httpRequest contentHeaders body)
      [.sent (plainFacilitator.httpRequest contentHeaders body)
        (.answered ⟨status, [], some (settledReply status).body⟩)]
      (.ok (settledReply status)) :=
  .answered _ _ rfl rfl

theorem settlementTable_settledReply {status : Nat} {result : Except FacilitatorError Settlement}
    (h : (settledReply status).Settles bareOffer result) :
    SettlementTable bareOffer (.ok (settledReply status)) result := by
  rw [← Reply.settlement_eq_iff.2 h]
  exact settlementTable_ok (settledReply status)

/-- A connection that breaks leaves it open whether a payment was settled; and so does a server that
failed, also where its reply reports success.  The same reply with the status 200 settles the
payment, and with the status 201 it is an error. -/
theorem settle_outcome_rows : ∃ request remark,
    plainFacilitator.Prepares .settle ⟨0, "r"⟩ barePayment bareOffer [] request ∧
      Yields (plainFacilitator.settle ⟨0, "r"⟩ barePayment bareOffer)
        [.sent request (.failed .interrupted)] (.error (.outcomeUnknown .interrupted)) ∧
      Yields (plainFacilitator.settle ⟨0, "r"⟩ barePayment bareOffer)
        [.sent request (.answered ⟨200, [], some (settledReply 200).body⟩)]
        (.ok (.settled "t" "" none)) ∧
      Yields (plainFacilitator.settle ⟨0, "r"⟩ barePayment bareOffer)
        [.sent request (.answered ⟨201, [], some (settledReply 201).body⟩)]
        (.error (.badStatus .settle 201 remark)) ∧
      Yields (plainFacilitator.settle ⟨0, "r"⟩ barePayment bareOffer)
        [.sent request (.answered ⟨503, [], some (settledReply 503).body⟩)]
        (.error (.outcomeUnknown (.serverFailed 503 remark))) := by
  obtain ⟨body, hp⟩ := prepares_bare
  obtain ⟨e, ⟨he, hcode, hdata, hsettled⟩, hreason⟩ := settledReply_reports 200
  have hok : (settledReply 200).Settles bareOffer (.ok (.settled "t" "" none)) :=
    .settled he ⟨rfl, hcode⟩ hdata hsettled
  have hbad : (settledReply 201).Settles bareOffer (.error (.badStatus .settle 201 e.remark)) :=
    .badStatus he (by decide) hreason fun h5 => absurd h5.1 (by decide)
  have hfailed : (settledReply 503).Settles bareOffer
      (.error (.outcomeUnknown (.serverFailed 503 e.remark))) :=
    .doubted (.serverFailed he (fun hs => absurd hs.1 (by decide)) hreason
      ⟨by decide, by decide⟩)
  refine ⟨_, e.remark, hp, ?_, ?_, ?_, ?_⟩
  · exact (settle_outcome hp).1.2
      ⟨_, .failed .interrupted rfl, settlementTable_error .interrupted⟩
  · exact (settle_outcome hp).1.2 ⟨_, sends_plain 200, settlementTable_settledReply hok⟩
  · exact (settle_outcome hp).1.2 ⟨_, sends_plain 201, settlementTable_settledReply hbad⟩
  · exact (settle_outcome hp).1.2 ⟨_, sends_plain 503, settlementTable_settledReply hfailed⟩

/-! ## Payments that were settled

A facilitator that says that it settled a payment should be believed, or at least not be
contradicted.  Whether it is depends on the status, and `settled_reply_outcome` has the exact
condition.  Every status but 200 and those of a failed server loses the settlement, and with the
latter it is enough that the data name a reason beside it. -/

theorem Reply.settlement_of_reports {e : Envelope} {s : Settlement} (h : reply.Reports e s) :
    ((reply.settlement requirements = .ok s ∨
        ∃ doubt, reply.settlement requirements = .error (.outcomeUnknown doubt)) ↔
      reply.status = 200 ∨ e.settleReason = none ∧ reply.ServerFailed) ∧
    (reply.status ≠ 200 → ¬ (e.settleReason = none ∧ reply.ServerFailed) →
      (∃ reason payer network transaction, e.settleReason = some reason ∧
        reply.settlement requirements =
          .error (.notSettled reason payer network transaction e.remark)) ∨
      e.settleReason = none ∧
        reply.settlement requirements = .error (.badStatus .settle reply.status e.remark)) := by
  obtain ⟨he, hcode, hd, hy⟩ := h
  by_cases h200 : reply.status = 200
  · have hok : reply.settlement requirements = .ok s :=
      settlement_eq_iff.2 (.settled he ⟨h200, hcode⟩ hd hy)
    exact ⟨iff_of_true (.inl hok) (.inl h200), fun h => (h h200).elim⟩
  · have hs : ¬ reply.Succeeds e := fun h => h200 h.1
    cases hr : e.settleReason with
    | some reason =>
      have hno : reply.settlement requirements = _ :=
        settlement_eq_iff.2 (.denied (.named he hs hr))
      refine ⟨iff_of_false ?_ ?_, fun _ _ => .inl ⟨_, _, _, _, rfl, hno⟩⟩
      · rintro (h | ⟨_, h⟩) <;> cases hno.symm.trans h
      · rintro (h | ⟨h, -⟩)
        · exact h200 h
        · cases h
    | none =>
      by_cases h5 : reply.ServerFailed
      · have hopen : reply.settlement requirements = _ :=
          settlement_eq_iff.2 (.doubted (.serverFailed he hs hr h5))
        exact ⟨iff_of_true (.inr ⟨_, hopen⟩) (.inr ⟨rfl, h5⟩), fun _ h => (h ⟨rfl, h5⟩).elim⟩
      · have hno : reply.settlement requirements = _ :=
          settlement_eq_iff.2 (.badStatus he h200 hr h5)
        refine ⟨iff_of_false ?_ ?_, fun _ _ => .inr ⟨rfl, hno⟩⟩
        · rintro (h | ⟨_, h⟩) <;> cases hno.symm.trans h
        · rintro (h | ⟨-, h⟩)
          · exact h200 h
          · exact h5 h

/-- **A payment that is reported as settled.**  The caller hears of it, or at least that it may have
been settled, exactly if the status is 200, or is that of a failed server and the data name no
reason.  With every other status the call fails as though the payment had not been settled. -/
theorem settled_reply_outcome {e : Envelope} {s : Settlement}
    (hp : f.Prepares .settle stamp payload requirements before request)
    (hsent : f.Sends request after (.ok reply)) (hr : reply.Reports e s) :
    ∃ result, (∀ a, Yields (f.settle stamp payload requirements) (before ++ after) a ↔ a = result) ∧
      ((result = .ok s ∨ ∃ doubt, result = .error (.outcomeUnknown doubt)) ↔
        reply.status = 200 ∨ e.settleReason = none ∧ reply.ServerFailed) ∧
      (reply.status ≠ 200 → ¬ (e.settleReason = none ∧ reply.ServerFailed) →
        (∃ reason payer network transaction, e.settleReason = some reason ∧
          result = .error (.notSettled reason payer network transaction e.remark)) ∨
        e.settleReason = none ∧ result = .error (.badStatus .settle reply.status e.remark)) := by
  have hrun : Yields (f.settle stamp payload requirements) (before ++ after)
      (reply.settlement requirements) :=
    (Facilitator.yields_settle_append hp).2 ⟨_, hsent, rfl⟩
  refine ⟨_, fun a => ⟨fun h => h.unique hrun, ?_⟩, Reply.settlement_of_reports hr⟩
  rintro rfl
  exact hrun

/-- With the status 201 a payment is reported as settled, and the call fails for good. -/
theorem settled_reply_outcome_created : ∃ request x e result,
    (settledReply 201).Reports e (.settled "t" "" none) ∧
      Yields (plainFacilitator.settle ⟨0, "r"⟩ barePayment bareOffer)
        [.sent request (.answered x)] result ∧
      ¬ (result = .ok (.settled "t" "" none) ∨
        ∃ doubt, result = .error (.outcomeUnknown doubt)) := by
  obtain ⟨body, hp⟩ := prepares_bare
  obtain ⟨e, hreports, -⟩ := settledReply_reports 201
  obtain ⟨result, hrun, hkept, -⟩ := settled_reply_outcome hp (sends_plain 201) hreports
  refine ⟨_, _, e, result, hreports, (hrun result).2 rfl, fun h => ?_⟩
  rcases hkept.1 h with h200 | ⟨-, h5⟩
  · exact absurd h200 (by decide)
  · exact absurd h5.1 (by decide)

/-- A payment that is reported as settled may be lost: another status than 200 is enough. -/
theorem created_settlement_lost :
    ¬ ∀ (f : Facilitator) (stamp : Stamp) (payload requirements : Bytes)
        (before after : List Event) (request : Http.Request) (reply : Reply) (e : Envelope)
        (s : Settlement) (result : Except FacilitatorError Settlement),
      f.Prepares .settle stamp payload requirements before request →
      f.Sends request after (.ok reply) → reply.Reports e s →
      Yields (f.settle stamp payload requirements) (before ++ after) result →
      result = .ok s ∨ ∃ doubt, result = .error (.outcomeUnknown doubt) := by
  intro h
  obtain ⟨body, hp⟩ := prepares_bare
  obtain ⟨e, hreports, hreason⟩ := settledReply_reports 201
  have h5 : ¬ (settledReply 201).ServerFailed := fun h5 => absurd h5.1 (by decide)
  have hlost : (settledReply 201).settlement bareOffer = .error (.badStatus .settle 201 e.remark) :=
    Reply.settlement_eq_iff.2 (.badStatus hreports.1 (by decide) hreason h5)
  have hrun := (Facilitator.yields_settle_append hp).2 ⟨_, sends_plain 201, rfl⟩
  rcases h _ _ _ _ _ _ _ _ _ _ _ hp (sends_plain 201) hreports hrun with hok | ⟨doubt, hopen⟩
  · cases hlost.symm.trans hok
  · cases hlost.symm.trans hopen

end Tollbooth
