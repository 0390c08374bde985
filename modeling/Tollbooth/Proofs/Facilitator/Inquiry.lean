import Mathlib.Logic.ExistsUnique
import Tollbooth.Proofs.Facilitator.Family
/-!
# What comes of an inquiry

Whether a payment is valid, and what is supported, can be asked again, so an inquiry that fails
simply fails: on its way, for a reply that cannot be read, for another status than 200, or because
the facilitator refuses.  Only a reply that can be read and says so is an answer.

An inquiry can be repeated, so no error has to say more than that there was no answer, and none is
left open.  That is what makes these tables shorter than that of a settlement, to which they are
otherwise alike.  The two inquiries share their ways to fail, and these are stated once, for any
reader of the data: `Reply.Fails` for replies, and `FailureTable` for all that can come of a
request.  Only the answer itself and the reason of a refusal are different, and of the latter there
is none where only what is supported was asked for.

* `Reply.Fails` — how a reply is no answer, the same for both inquiries.
* `Reply.Rejects` — how a reply says that a payment is not valid.
* `verification_eq_iff`, `supported_eq_iff` — a reply is taken for what it means.
* `VerificationTable`, `SupportedTable` — for every result, the condition under which it is the
  result; what they have in common is the `FailureTable`.
* `inquiry_outcome` — the runs of an inquiry are one sending and what its table says of it.
-/

set_option autoImplicit false

namespace Tollbooth

open Json
open Dialogue (Event Yields)

/-- The reason that an envelope names for a payment that is not valid. -/
def Envelope.verifyReason (e : Envelope) : Option String :=
  nonEmpty (FailureData.ofData e.data).invalidReason

/-! ## Failures

The action, the reader of the answer and what makes an envelope silent are parameters.  When a
payment is to be verified, an envelope whose data name a reason is not silent: it refuses that
payment, and so it is no failure of this kind. -/

section Failures

variable {α β : Type} {reply : Reply} {action : Action} {read : Reader β} {silent : Envelope → Prop}
  {e : Envelope} {error : FacilitatorError} {r : Except Http.TransportFault Reply}
  {a b : Except FacilitatorError α}

/-- The error concerns an action, and names no reason. -/
inductive FacilitatorError.Concerns (action : Action) : FacilitatorError → Prop
  | transport (fault : Http.TransportFault) : Concerns action (.transport action fault)
  | undecodable (status : Nat) (body : String) : Concerns action (.undecodable action status body)
  | badStatus (status : Nat) (remark : Remark) : Concerns action (.badStatus action status remark)
  | refused (remark : Remark) : Concerns action (.refused action remark)

/-- A reply is no answer to an inquiry, whose answers are read by `read`.  Other envelopes than
those of a success only count here if they are silent. -/
inductive Reply.Fails (reply : Reply) (action : Action) (read : Reader β)
    (silent : Envelope → Prop) : FacilitatorError → Prop
  /-- There is no envelope. -/
  | unreadable (he : reply.envelope? = none) :
      Fails reply action read silent (.undecodable action reply.status reply.shownBody)
  /-- Success is claimed, but the data are no answer. -/
  | unclear {e : Envelope} {fault : Fault} (he : reply.envelope? = some e)
      (hs : reply.Succeeds e) (hd : read.ofValue e.data = .error fault) :
      Fails reply action read silent (.undecodable action reply.status reply.shownBody)
  | badStatus {e : Envelope} (he : reply.envelope? = some e) (hs : reply.status ≠ 200)
      (hr : silent e) : Fails reply action read silent (.badStatus action reply.status e.remark)
  | refused {e : Envelope} (he : reply.envelope? = some e) (hs : reply.status = 200)
      (hc : e.remark.code ≠ 0) (hr : silent e) :
      Fails reply action read silent (.refused action e.remark)

theorem Reply.fails_unexplained (he : reply.envelope? = some e) (hs : ¬ reply.Succeeds e)
    (hr : silent e) : reply.Fails action read silent (reply.unexplained action e) := by
  rw [unexplained]
  by_cases h200 : reply.status = 200
  · rw [if_neg fun h => h h200]
    exact .refused he h200 (fun hc => hs ⟨h200, hc⟩) hr
  · rw [if_pos h200]
    exact .badStatus he h200 hr

theorem Reply.unexplained_of_status (hs : reply.status ≠ 200) :
    reply.unexplained action e = .badStatus action reply.status e.remark :=
  if_pos hs

theorem Reply.unexplained_of_code (hs : reply.status = 200) :
    reply.unexplained action e = .refused action e.remark :=
  if_neg fun h => h hs

theorem Reply.Fails.concerns (h : reply.Fails action read silent error) :
    error.Concerns action := by
  cases h with
  | unreadable | unclear => exact .undecodable _ _
  | badStatus => exact .badStatus _ _
  | refused => exact .refused _

/-- For every way in which an inquiry can fail without a reason, when it fails in this way; `r` is
what came of sending the request. -/
structure FailureTable (action : Action) (read : Reader β) (silent : Envelope → Prop)
    (r : Except Http.TransportFault Reply) (result : Except FacilitatorError α) : Prop where
  transport : ∀ action' fault, result = .error (.transport action' fault) ↔
    action' = action ∧ r = .error fault
  undecodable : ∀ action' status body, result = .error (.undecodable action' status body) ↔
    action' = action ∧ ∃ reply, r = .ok reply ∧ status = reply.status ∧ body = reply.shownBody ∧
      (reply.envelope? = none ∨ ∃ e fault, reply.envelope? = some e ∧ reply.Succeeds e ∧
        read.ofValue e.data = .error fault)
  badStatus : ∀ action' status remark, result = .error (.badStatus action' status remark) ↔
    action' = action ∧ ∃ reply e, r = .ok reply ∧ reply.envelope? = some e ∧ silent e ∧
      reply.status ≠ 200 ∧ status = reply.status ∧ remark = e.remark
  refused : ∀ action' remark, result = .error (.refused action' remark) ↔
    action' = action ∧ ∃ reply e, r = .ok reply ∧ reply.envelope? = some e ∧ silent e ∧
      reply.status = 200 ∧ e.remark.code ≠ 0 ∧ remark = e.remark

/-- A request that fails on its way is reported so, and the rows for replies do not apply. -/
theorem failureTable_error (fault : Http.TransportFault) :
    FailureTable action read silent (.error fault)
      (.error (.transport action fault) : Except FacilitatorError α) where
  transport action' fault' := by simp [eq_comm]
  undecodable action' status body := by simp
  badStatus action' status remark := by simp
  refused action' remark := by simp

/-- The rows for replies are the ways in which a reply is no answer. -/
theorem failureTable_ok
    (h : ∀ action' error, error.Concerns action' →
      (a = .error error ↔ reply.Fails action read silent error)) :
    FailureTable action read silent (.ok reply) a where
  transport action' fault := by
    rw [h action' _ (.transport fault)]
    exact iff_of_false nofun nofun
  undecodable action' status body := by
    rw [h action' _ (.undecodable status body)]
    constructor
    · rintro (he | ⟨he, hs, hd⟩)
      · exact ⟨rfl, _, rfl, rfl, rfl, .inl he⟩
      · exact ⟨rfl, _, rfl, rfl, rfl, .inr ⟨_, _, he, hs, hd⟩⟩
    · rintro ⟨rfl, _, ⟨⟩, rfl, rfl, he | ⟨e, fault, he, hs, hd⟩⟩
      · exact .unreadable he
      · exact .unclear he hs hd
  badStatus action' status remark := by
    rw [h action' _ (.badStatus status remark)]
    constructor
    · rintro (_ | _ | ⟨he, hs, hr⟩)
      exact ⟨rfl, _, _, rfl, he, hr, hs, rfl, rfl⟩
    · rintro ⟨rfl, _, e, ⟨⟩, he, hr, hs, rfl, rfl⟩
      exact .badStatus he hs hr
  refused action' remark := by
    rw [h action' _ (.refused remark)]
    constructor
    · rintro (_ | _ | _ | ⟨he, hs, hc, hr⟩)
      exact ⟨rfl, _, _, rfl, he, hr, hs, hc, rfl⟩
    · rintro ⟨rfl, _, e, ⟨⟩, he, hr, hs, hc, rfl⟩
      exact .refused he hs hc hr

/-- What fails without a reason by one table does so by the other. -/
theorem FailureTable.eq_error (ha : FailureTable action read silent r a)
    (hb : FailureTable action read silent r b) (hc : error.Concerns action)
    (h : a = .error error) : b = .error error := by
  cases hc with
  | transport fault => exact (hb.transport _ _).2 ((ha.transport _ _).1 h)
  | undecodable status body => exact (hb.undecodable _ _ _).2 ((ha.undecodable _ _ _).1 h)
  | badStatus status remark => exact (hb.badStatus _ _ _).2 ((ha.badStatus _ _ _).1 h)
  | refused remark => exact (hb.refused _ _).2 ((ha.refused _ _).1 h)

end Failures

/-! ## Replies about a payment

As with settlements the data are read in one of two ways, depending on status and code.  Here a
payment that is not valid is an error of the same form, whichever of the two ways it was found
by. -/

variable {reply : Reply} {requirements : Bytes} {e : Envelope}
  {r : Except Http.TransportFault Reply}

/-- A reply says that the payment is not valid, and why.  The network is the one that the
facilitator names, or else that of the offer. -/
inductive Reply.Rejects (reply : Reply) (requirements : Bytes) : FacilitatorError → Prop
  /-- The data are an answer, and it is negative. -/
  | invalid {e : Envelope} {reason : String} {payer : Option String}
      (he : reply.envelope? = some e) (hs : reply.Succeeds e)
      (hd : Verification.read.ofValue e.data = .ok (.invalid reason payer)) :
      Rejects reply requirements (.notVerified reason (nonEmpty payer)
        ((nonEmpty (FailureData.ofData e.data).network).or (offerNetwork requirements)) e.remark)
  /-- The envelope is none of a success, and names a reason. -/
  | named {e : Envelope} {reason : String} (he : reply.envelope? = some e)
      (hs : ¬ reply.Succeeds e) (hr : e.verifyReason = some reason) :
      Rejects reply requirements (.notVerified reason
        (nonEmpty (FailureData.ofData e.data).payer)
        ((nonEmpty (FailureData.ofData e.data).network).or (offerNetwork requirements)) e.remark)

/-- What a reply to the question whether a payment is valid means. -/
inductive Reply.Verifies (reply : Reply) (requirements : Bytes) :
    Except FacilitatorError Verification → Prop
  | valid {e : Envelope} {v : Verification} (he : reply.envelope? = some e)
      (hs : reply.Succeeds e) (hd : Verification.read.ofValue e.data = .ok v)
      (hy : v.isValid = true) : Verifies reply requirements (.ok v)
  | rejected {error : FacilitatorError} (h : reply.Rejects requirements error) :
      Verifies reply requirements (.error error)
  | failed {error : FacilitatorError}
      (h : reply.Fails .verify Verification.read (fun e => e.verifyReason = none) error) :
      Verifies reply requirements (.error error)

namespace Reply

theorem verification_of_none (he : reply.envelope? = none) :
    reply.verification requirements =
      .error (.undecodable .verify reply.status reply.shownBody) := by
  rw [verification, he]
  rfl

/-- The envelope of a success is as good as its data. -/
theorem verification_of_succeeds (he : reply.envelope? = some e) (hs : reply.Succeeds e) :
    reply.verification requirements =
      match Verification.read.ofValue e.data with
      | .error _ => .error (.undecodable .verify reply.status reply.shownBody)
      | .ok (.valid payer) => .ok (.valid payer)
      | .ok (.invalid reason payer) =>
        .error (.notVerified reason (nonEmpty payer)
          ((nonEmpty (FailureData.ofData e.data).network).or (offerNetwork requirements))
          e.remark) := by
  rw [verification, he]
  exact if_pos (isSuccess_iff.2 hs)

/-- Without success the data only count for the reason that they name. -/
theorem verification_of_not_succeeds (he : reply.envelope? = some e) (hs : ¬ reply.Succeeds e) :
    reply.verification requirements =
      match e.verifyReason with
      | some reason =>
        .error (.notVerified reason (nonEmpty (FailureData.ofData e.data).payer)
          ((nonEmpty (FailureData.ofData e.data).network).or (offerNetwork requirements)) e.remark)
      | none => .error (reply.unexplained .verify e) := by
  rw [verification, he]
  exact if_neg fun h => hs (isSuccess_iff.1 h)

theorem verifies_verification :
    reply.Verifies requirements (reply.verification requirements) := by
  cases he : reply.envelope? with
  | none =>
    rw [verification_of_none he]
    exact .failed (.unreadable he)
  | some e =>
    by_cases hs : reply.Succeeds e
    · rw [verification_of_succeeds he hs]
      cases hd : Verification.read.ofValue e.data with
      | error fault => exact .failed (.unclear he hs hd)
      | ok v =>
        cases v with
        | valid payer => exact .valid he hs hd rfl
        | invalid reason payer => exact .rejected (.invalid he hs hd)
    · rw [verification_of_not_succeeds he hs]
      cases hr : e.verifyReason with
      | some reason => exact .rejected (.named he hs hr)
      | none => exact .failed (fails_unexplained he hs hr)

/-- **A reply about a payment is taken for what it means**, and for nothing else. -/
theorem verification_eq_iff {result : Except FacilitatorError Verification} :
    reply.verification requirements = result ↔ reply.Verifies requirements result := by
  constructor
  · rintro rfl
    exact verifies_verification
  · intro h
    cases h with
    | @valid e v he hs hd hy =>
      rw [verification_of_succeeds he hs, hd]
      cases v with
      | valid => rfl
      | invalid => cases hy
    | rejected h =>
      cases h with
      | invalid he hs hd => rw [verification_of_succeeds he hs, hd]
      | named he hs hr => rw [verification_of_not_succeeds he hs, hr]
    | failed h =>
      cases h with
      | unreadable he => exact verification_of_none he
      | unclear he hs hd => rw [verification_of_succeeds he hs, hd]
      | badStatus he hs hr =>
        rw [verification_of_not_succeeds he (fun h => hs h.1), hr, unexplained_of_status hs]
      | refused he hs hc hr =>
        rw [verification_of_not_succeeds he (fun h => hc h.2), hr, unexplained_of_code hs]

end Reply

/-- For every result of asking whether a payment is valid, when it is the result. -/
structure VerificationTable (requirements : Bytes) (r : Except Http.TransportFault Reply)
    (result : Except FacilitatorError Verification) : Prop
    extends FailureTable .verify Verification.read (fun e => e.verifyReason = none) r result where
  /-- A valid payment needs the status 200, the code 0 and data that say so. -/
  valid : ∀ v, result = .ok v ↔ ∃ reply e, r = .ok reply ∧ reply.envelope? = some e ∧
    reply.Succeeds e ∧ Verification.read.ofValue e.data = .ok v ∧ v.isValid = true
  notVerified : ∀ reason payer network remark,
    result = .error (.notVerified reason payer network remark) ↔
      ∃ reply, r = .ok reply ∧ reply.Rejects requirements (.notVerified reason payer network remark)
  /-- There is no other result. -/
  complete : (∃ v, result = .ok v) ∨
    (∃ reason payer network remark, result = .error (.notVerified reason payer network remark)) ∨
    ∃ error, error.Concerns .verify ∧ result = .error error

theorem verificationTable_error (fault : Http.TransportFault) :
    VerificationTable requirements (.error fault) (.error (.transport .verify fault)) where
  toFailureTable := failureTable_error fault
  valid v := by simp
  notVerified reason payer network remark := by simp
  complete := .inr (.inr ⟨_, .transport fault, rfl⟩)

theorem verificationTable_ok (reply : Reply) :
    VerificationTable requirements (.ok reply) (reply.verification requirements) where
  toFailureTable := failureTable_ok fun action error herror => by
    rw [Reply.verification_eq_iff]
    constructor
    · rintro (_ | h | h)
      · cases h <;> cases herror
      · exact h
    · exact .failed
  valid v := by
    rw [Reply.verification_eq_iff]
    constructor
    · rintro ⟨he, hs, hd, hy⟩
      exact ⟨_, _, rfl, he, hs, hd, hy⟩
    · rintro ⟨_, e, ⟨⟩, he, hs, hd, hy⟩
      exact .valid he hs hd hy
  notVerified reason payer network remark := by
    rw [Reply.verification_eq_iff]
    constructor
    · rintro (_ | h | h)
      · exact ⟨_, rfl, h⟩
      · cases h.concerns
    · rintro ⟨_, ⟨⟩, h⟩
      exact .rejected h
  complete := by
    generalize hresult : reply.verification requirements = result
    cases Reply.verification_eq_iff.1 hresult with
    | valid => exact .inl ⟨_, rfl⟩
    | rejected h => cases h <;> exact .inr (.inl ⟨_, _, _, _, rfl⟩)
    | failed h => exact .inr (.inr ⟨_, h.concerns, rfl⟩)

theorem verificationTable_verified (r : Except Http.TransportFault Reply) :
    VerificationTable requirements r (Facilitator.verified requirements r) := by
  cases r with
  | error fault => exact verificationTable_error fault
  | ok reply => exact verificationTable_ok reply

/-- The table lists one result for each case. -/
theorem VerificationTable.unique {a b : Except FacilitatorError Verification}
    (ha : VerificationTable requirements r a) (hb : VerificationTable requirements r b) :
    a = b := by
  rcases ha.complete with ⟨v, h⟩ | ⟨_, _, _, _, h⟩ | ⟨error, hc, h⟩
  · rw [h, (hb.valid v).2 ((ha.valid v).1 h)]
  · rw [h, (hb.notVerified _ _ _ _).2 ((ha.notVerified _ _ _ _).1 h)]
  · rw [h, ha.eq_error hb.toFailureTable hc h]

theorem verificationTable_iff {result : Except FacilitatorError Verification} :
    VerificationTable requirements r result ↔ result = Facilitator.verified requirements r := by
  constructor
  · intro h
    exact h.unique (verificationTable_verified r)
  · rintro rfl
    exact verificationTable_verified r

/-! ## Replies about what is supported

The data are read only if status and code say success, and a code other than zero is therefore never
overruled by them. -/

/-- What a reply to the question what is supported means. -/
inductive Reply.Lists (reply : Reply) : Except FacilitatorError Supported → Prop
  | supported {e : Envelope} {s : Supported} (he : reply.envelope? = some e)
      (hs : reply.Succeeds e) (hd : Supported.read.ofValue e.data = .ok s) : Lists reply (.ok s)
  | failed {error : FacilitatorError}
      (h : reply.Fails .supported Supported.read (fun _ => True) error) :
      Lists reply (.error error)

namespace Reply

theorem supported_of_none (he : reply.envelope? = none) :
    reply.supported = .error (.undecodable .supported reply.status reply.shownBody) := by
  rw [supported, he]
  rfl

theorem supported_of_succeeds (he : reply.envelope? = some e) (hs : reply.Succeeds e) :
    reply.supported =
      match Supported.read.ofValue e.data with
      | .error _ => .error (.undecodable .supported reply.status reply.shownBody)
      | .ok s => .ok s := by
  rw [supported, he]
  exact if_pos (isSuccess_iff.2 hs)

theorem supported_of_not_succeeds (he : reply.envelope? = some e) (hs : ¬ reply.Succeeds e) :
    reply.supported = .error (reply.unexplained .supported e) := by
  rw [supported, he]
  exact if_neg fun h => hs (isSuccess_iff.1 h)

theorem lists_supported : reply.Lists reply.supported := by
  cases he : reply.envelope? with
  | none =>
    rw [supported_of_none he]
    exact .failed (.unreadable he)
  | some e =>
    by_cases hs : reply.Succeeds e
    · rw [supported_of_succeeds he hs]
      cases hd : Supported.read.ofValue e.data with
      | error fault => exact .failed (.unclear he hs hd)
      | ok s => exact .supported he hs hd
    · rw [supported_of_not_succeeds he hs]
      exact .failed (fails_unexplained he hs trivial)

/-- **A reply about what is supported is taken for what it means**, and for nothing else. -/
theorem supported_eq_iff {result : Except FacilitatorError Supported} :
    reply.supported = result ↔ reply.Lists result := by
  constructor
  · rintro rfl
    exact lists_supported
  · intro h
    cases h with
    | supported he hs hd => rw [supported_of_succeeds he hs, hd]
    | failed h =>
      cases h with
      | unreadable he => exact supported_of_none he
      | unclear he hs hd => rw [supported_of_succeeds he hs, hd]
      | badStatus he hs =>
        rw [supported_of_not_succeeds he (fun h => hs h.1), unexplained_of_status hs]
      | refused he hs hc =>
        rw [supported_of_not_succeeds he (fun h => hc h.2), unexplained_of_code hs]

end Reply

/-- For every result of asking what is supported, when it is the result.  No reason is looked
for. -/
structure SupportedTable (r : Except Http.TransportFault Reply)
    (result : Except FacilitatorError Supported) : Prop
    extends FailureTable .supported Supported.read (fun _ => True) r result where
  supported : ∀ s, result = .ok s ↔ ∃ reply e, r = .ok reply ∧ reply.envelope? = some e ∧
    reply.Succeeds e ∧ Supported.read.ofValue e.data = .ok s
  /-- There is no other result. -/
  complete : (∃ s, result = .ok s) ∨ ∃ error, error.Concerns .supported ∧ result = .error error

theorem supportedTable_error (fault : Http.TransportFault) :
    SupportedTable (.error fault) (.error (.transport .supported fault)) where
  toFailureTable := failureTable_error fault
  supported s := by simp
  complete := .inr ⟨_, .transport fault, rfl⟩

theorem supportedTable_ok (reply : Reply) : SupportedTable (.ok reply) reply.supported where
  toFailureTable := failureTable_ok fun action error _ => by
    rw [Reply.supported_eq_iff]
    constructor
    · rintro (_ | h)
      exact h
    · exact .failed
  supported s := by
    rw [Reply.supported_eq_iff]
    constructor
    · rintro ⟨he, hs, hd⟩
      exact ⟨_, _, rfl, he, hs, hd⟩
    · rintro ⟨_, e, ⟨⟩, he, hs, hd⟩
      exact .supported he hs hd
  complete := by
    generalize hresult : reply.supported = result
    cases Reply.supported_eq_iff.1 hresult with
    | supported => exact .inl ⟨_, rfl⟩
    | failed h => exact .inr ⟨_, h.concerns, rfl⟩

theorem supportedTable_supportedOf (r : Except Http.TransportFault Reply) :
    SupportedTable r (Facilitator.supportedOf r) := by
  cases r with
  | error fault => exact supportedTable_error fault
  | ok reply => exact supportedTable_ok reply

/-- The table lists one result for each case. -/
theorem SupportedTable.unique {a b : Except FacilitatorError Supported}
    (ha : SupportedTable r a) (hb : SupportedTable r b) : a = b := by
  rcases ha.complete with ⟨s, h⟩ | ⟨error, hc, h⟩
  · rw [h, (hb.supported s).2 ((ha.supported s).1 h)]
  · rw [h, ha.eq_error hb.toFailureTable hc h]

theorem supportedTable_iff {result : Except FacilitatorError Supported} :
    SupportedTable r result ↔ result = Facilitator.supportedOf r := by
  constructor
  · intro h
    exact h.unique (supportedTable_supportedOf r)
  · rintro rfl
    exact supportedTable_supportedOf r

/-! ## Whole calls

Both inquiries come down to sending their request, each with its own table.  That neither of them
ever fails like a settlement is seen from the tables alone: a failure concerns the action that was
asked for, and a refusal is one of verifying. -/

namespace Facilitator

variable {f : Facilitator} {stamp : Stamp} {payload : Bytes} {before after : List Event}

/-- Once its request is ready, what is left of asking about a payment is to send it. -/
theorem yields_verify_append {request : Http.Request}
    {result : Except FacilitatorError Verification}
    (hp : f.Prepares .verify stamp payload requirements before request) :
    Yields (f.verify stamp payload requirements) (before ++ after) result ↔
      ∃ r, f.Sends request after r ∧ result = verified requirements r := by
  rw [verify_eq_ask]
  exact yields_bind_sends fun x => yields_ask_append hp

/-- Once its headers are there, what is left of asking what is supported is to send the request. -/
theorem yields_supportedUncached_append {headers : Http.Headers}
    {result : Except FacilitatorError Supported}
    (hh : f.Headed .supported stamp supportedBody before headers) :
    Yields (f.supportedUncached stamp) (before ++ after) result ↔
      ∃ r, f.Sends (f.httpRequest headers supportedBody) after r ∧ result = supportedOf r := by
  rw [supportedUncached_eq]
  exact yields_bind_sends fun x => yields_call_append hh

end Facilitator

/-- The error is one of a settlement. -/
inductive FacilitatorError.OfSettlement : FacilitatorError → Prop
  | notSettled (reason : String) (payer network transaction : Option String) (remark : Remark) :
      OfSettlement (.notSettled reason payer network transaction remark)
  | outcomeUnknown (doubt : Doubt) : OfSettlement (.outcomeUnknown doubt)

theorem FacilitatorError.Concerns.not_ofSettlement {action : Action} {error : FacilitatorError}
    (h : error.Concerns action) : ¬ error.OfSettlement := by
  cases h <;> exact nofun

theorem VerificationTable.not_ofSettlement {error : FacilitatorError}
    (h : VerificationTable requirements r (.error error)) : ¬ error.OfSettlement := by
  rcases h.complete with ⟨_, ⟨⟩⟩ | ⟨_, _, _, _, ⟨⟩⟩ | ⟨_, hc, ⟨⟩⟩
  · exact nofun
  · exact hc.not_ofSettlement

theorem SupportedTable.not_ofSettlement {error : FacilitatorError}
    (h : SupportedTable r (.error error)) : ¬ error.OfSettlement := by
  rcases h.complete with ⟨_, ⟨⟩⟩ | ⟨_, hc, ⟨⟩⟩
  exact hc.not_ofSettlement

/-- **What comes of an inquiry.**  Once its request is ready, an inquiry sends it once, and its
result is the one that its table lists for what came of that.  A code other than zero never comes
with an answer, and no inquiry ever fails like a settlement. -/
theorem inquiry_outcome (f : Facilitator) :
    (∀ stamp payload requirements before after request result,
      f.Prepares .verify stamp payload requirements before request →
        (Yields (f.verify stamp payload requirements) (before ++ after) result ↔
          ∃ r, f.Sends request after r ∧ VerificationTable requirements r result)) ∧
    (∀ stamp before after headers result,
      f.Headed .supported stamp Facilitator.supportedBody before headers →
        (Yields (f.supportedUncached stamp) (before ++ after) result ↔
          ∃ r, f.Sends (f.httpRequest headers Facilitator.supportedBody) after r ∧
            SupportedTable r result)) ∧
    (∀ requirements r, ∃! result, VerificationTable requirements r result) ∧
    (∀ r, ∃! result, SupportedTable r result) ∧
    (∀ reply e, Reply.envelope? reply = some e → e.remark.code ≠ 0 →
      (∀ requirements v, ¬ VerificationTable requirements (.ok reply) (.ok v)) ∧
        ∀ s, ¬ SupportedTable (.ok reply) (.ok s)) ∧
    ∀ requirements r error,
      VerificationTable requirements r (.error error) ∨ SupportedTable r (.error error) →
        ¬ error.OfSettlement := by
  refine ⟨?_, ?_, fun requirements r => ?_, fun r => ?_, fun reply e he hcode => ⟨?_, ?_⟩, ?_⟩
  · intro stamp payload requirements before after request result hp
    rw [Facilitator.yields_verify_append hp]
    exact exists_congr fun r => and_congr_right fun _ => verificationTable_iff.symm
  · intro stamp before after headers result hh
    rw [Facilitator.yields_supportedUncached_append hh]
    exact exists_congr fun r => and_congr_right fun _ => supportedTable_iff.symm
  · exact ⟨_, verificationTable_verified r, fun b hb => hb.unique (verificationTable_verified r)⟩
  · exact ⟨_, supportedTable_supportedOf r, fun b hb => hb.unique (supportedTable_supportedOf r)⟩
  · intro requirements v h
    obtain ⟨_, e', ⟨⟩, he', hs, -⟩ := (h.valid v).1 rfl
    cases he.symm.trans he'
    exact hcode hs.2
  · intro s h
    obtain ⟨_, e', ⟨⟩, he', hs, -⟩ := (h.supported s).1 rfl
    cases he.symm.trans he'
    exact hcode hs.2
  · rintro requirements r error (h | h)
    · exact h.not_ofSettlement
    · exact h.not_ofSettlement

/-- An offer that names nothing but its network. -/
def networkOffer : Bytes := Bytes.ofString "\x7b\"network\":\"n\"\x7d"

/-- A refusal that names a reason, with no status of a success. -/
def refusal : Reply where
  status := 503
  body := Bytes.ofString
    "\x7b\"code\":7,\"data\":\x7b\"invalid_reason\":\"r\",\"payer\":\"\"\x7d\x7d"

theorem verificationTable_refusal :
    VerificationTable networkOffer (.ok refusal)
      (.error (.notVerified "r" none (some "n") ⟨7, ""⟩)) :=
  verificationTable_iff.2 rfl

theorem supportedTable_refusal :
    SupportedTable (.ok refusal) (.error (.badStatus .supported 503 ⟨7, ""⟩)) :=
  supportedTable_iff.2 rfl

theorem sends_refusal (request : Http.Request) (h : request.url.hasHost = true) :
    ∃ events, plainFacilitator.Sends request events (.ok refusal) :=
  ⟨_, .answered ⟨503, [], some refusal.body⟩ refusal.body h rfl⟩

theorem prepares_network : ∃ body,
    plainFacilitator.Prepares .verify ⟨0, "r"⟩ barePayment networkOffer []
      (plainFacilitator.httpRequest contentHeaders body) := by
  obtain ⟨call, hcall⟩ : ∃ call, PaymentCall.ofTexts barePayment networkOffer = .ok call :=
    ⟨_, rfl⟩
  exact ⟨_, Facilitator.prepares_plain rfl rfl hcall⟩

/-- A refusal is passed on with the reason that it names, whatever its status; where only what is
supported was asked for, the status counts. -/
theorem inquiry_outcome_refusal :
    (∃ events, Yields (plainFacilitator.verify ⟨0, "r"⟩ barePayment networkOffer) events
      (.error (.notVerified "r" none (some "n") ⟨7, ""⟩))) ∧
    ∃ events, Yields (plainFacilitator.supportedUncached ⟨0, "r"⟩) events
      (.error (.badStatus .supported 503 ⟨7, ""⟩)) := by
  obtain ⟨hverify, hlist, -⟩ := inquiry_outcome plainFacilitator
  obtain ⟨body, hprepares⟩ := prepares_network
  have hheaded : plainFacilitator.Headed .supported ⟨0, "r"⟩ Facilitator.supportedBody []
      contentHeaders := Dialogue.yields_pure.2 ⟨rfl, rfl⟩
  obtain ⟨after, hsent⟩ := sends_refusal (plainFacilitator.httpRequest contentHeaders body) rfl
  obtain ⟨after', hsent'⟩ := sends_refusal listRequest rfl
  exact ⟨⟨_, (hverify _ _ _ _ _ _ _ hprepares).2 ⟨_, hsent, verificationTable_refusal⟩⟩,
    ⟨_, (hlist _ _ _ _ _ hheaded).2 ⟨_, hsent', supportedTable_refusal⟩⟩⟩

end Tollbooth
