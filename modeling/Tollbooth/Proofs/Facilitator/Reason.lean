import Tollbooth.Proofs.Facilitator.Inquiry
import Tollbooth.Proofs.Json.Record
/-!
# The reason of a failure

The data of a failure may state a reason, under either of its two names.  The caller is told the
reason if all the details that data may hold can be read.  One of them that is neither a text nor
null spoils the others, and so does a reason that is there under both names: then the failure is
taken for one without a reason.

The details are read as one record, so they are there together or not at all.  This is the only
point at which it matters what else the data of a failure say; and it is enough for a stated reason
to be lost, and with it the difference between a payment that was refused and one that may have been
made.

* `FailureData.OfMembers` — the details that data hold; `ofValue_object_eq_ok_iff` says that these
  are what is read.
* `Field.States` — data state a reason.
* `stated_reason_outcome` — what the caller hears of it.
-/

set_option autoImplicit false

namespace Tollbooth

open Json
open Dialogue (Event Yields)

/-! ## Details

All five details are texts that may be left out.  What an object holds for each of them can be said
without the reader, by the values that stand under its names, and a record is read just if that much
is there for every field. -/

namespace FailureData

/-- The members of a record of details. -/
def fields : List Field :=
  [invalidReasonSlot.field, errorReasonSlot.field, payerSlot.field, networkSlot.field,
    transactionSlot.field]

theorem apart_fields : Apart fields := by
  show ["invalidReason", "invalid_reason", "errorReason", "error_reason", "payer", "network",
    "transaction"].Nodup
  decide

theorem nodup_fields : (fields.map (·.name)).Nodup := apart_fields.nodup_names

/-- The details that the members of an object hold: each is there once at most, as a text or as
null. -/
structure OfMembers (members : List (String × Value)) (d : FailureData) : Prop where
  invalidReason : OneText (invalidReasonSlot.field.valuesIn members) d.invalidReason
  errorReason : OneText (errorReasonSlot.field.valuesIn members) d.errorReason
  payer : OneText (payerSlot.field.valuesIn members) d.payer
  network : OneText (networkSlot.field.valuesIn members) d.network
  transaction : OneText (transactionSlot.field.valuesIn members) d.transaction

variable {members : List (String × Value)}

/-- What is found in an object for one of the details is read as a text that may be left out. -/
theorem takes_iff {slot : Slot (Option String)} {s? : Option String} (hslot : slot.field ∈ fields)
    (hread : slot.read = readOption readString) (habsent : slot.absent = .ok Option.none) :
    slot.Takes .value (valuesOf slot.name (gather fields (Value.toMembers members))) s? ↔
      OneText (slot.field.valuesIn members) s? :=
  takes_gather hread habsent apart_fields hslot

/-- **The details that an object holds are read**, all of them or none. -/
theorem ofValue_object_eq_ok_iff {d : FailureData} :
    read.ofValue (.object members) = .ok d ↔ OfMembers members d := by
  refine (readRecord_eq_ok_iff nodup_fields).trans ⟨?_, fun h => ?_⟩
  · rintro ⟨⟨site, found⟩, henter, hlays, hfits, h⟩
    cases henter
    obtain rfl := lays_object.1 hlays
    obtain ⟨invalidReason, hinvalid, h⟩ := bind_eq_ok.1 h
    obtain ⟨errorReason, herror, h⟩ := bind_eq_ok.1 h
    obtain ⟨payer, hpayer, h⟩ := bind_eq_ok.1 h
    obtain ⟨network, hnetwork, h⟩ := bind_eq_ok.1 h
    obtain ⟨transaction, htransaction, h⟩ := bind_eq_ok.1 h
    cases h
    have htext : ∀ {slot : Slot (Option String)} {s? : Option String}, slot.field ∈ fields →
        slot.read = readOption readString → slot.absent = .ok Option.none →
          Record.get ⟨.value, gather fields (Value.toMembers members)⟩ slot = .ok s? →
            OneText (slot.field.valuesIn members) s? :=
      fun hslot hread habsent h =>
        (takes_iff hslot hread habsent).1 ((Record.get_eq_ok_iff (hfits _ hslot).1).1 h)
    exact ⟨htext (by simp [fields]) rfl rfl hinvalid, htext (by simp [fields]) rfl rfl herror,
      htext (by simp [fields]) rfl rfl hpayer, htext (by simp [fields]) rfl rfl hnetwork,
      htext (by simp [fields]) rfl rfl htransaction⟩
  · obtain ⟨hinvalid, herror, hpayer, hnetwork, htransaction⟩ := h
    have hinvalid := (takes_iff (by simp [fields]) rfl rfl).2 hinvalid
    have herror := (takes_iff (by simp [fields]) rfl rfl).2 herror
    have hpayer := (takes_iff (by simp [fields]) rfl rfl).2 hpayer
    have hnetwork := (takes_iff (by simp [fields]) rfl rfl).2 hnetwork
    have htransaction := (takes_iff (by simp [fields]) rfl rfl).2 htransaction
    refine ⟨⟨.value, gather fields (Value.toMembers members)⟩, rfl, lays_object.2 rfl, ?_, ?_⟩
    · simp only [fields, List.forall_mem_cons]
      exact ⟨hinvalid.fits, herror.fits, hpayer.fits, hnetwork.fits, htransaction.fits, nofun⟩
    · exact bind_eq_ok.2 ⟨_, hinvalid.get, bind_eq_ok.2 ⟨_, herror.get, bind_eq_ok.2
        ⟨_, hpayer.get, bind_eq_ok.2 ⟨_, hnetwork.get, bind_eq_ok.2 ⟨_, htransaction.get, rfl⟩⟩⟩⟩⟩

theorem ofData_of_ofMembers {d : FailureData} (h : OfMembers members d) :
    ofData (.object members) = d := by
  rw [ofData, ofValue_object_eq_ok_iff.2 h]
  rfl

theorem ofData_of_not_ofMembers (h : ∀ d, ¬ OfMembers members d) :
    ofData (.object members) = none := by
  rw [ofData]
  cases hread : read.ofValue (.object members) with
  | error fault => rfl
  | ok d => exact (h d (ofValue_object_eq_ok_iff.1 hread)).elim

end FailureData

/-! ## Reasons

To state a reason is a matter of one field: a text that says something stands under one of its
names, and under no other.  Whether the other details can be read does not come into it, and so the
two notions can come apart. -/

/-- The members hold a text that says something under one name of a field, and under that only. -/
def Field.States (field : Field) (members : List (String × Value)) (reason : String) : Prop :=
  reason ≠ "" ∧ ∃ key ∈ field.names, Value.lookupMember key members = some (.string reason) ∧
    ∀ other ∈ field.names, ∀ s, Value.lookupMember other members = some (.string s) → s ≠ "" →
      other = key

section Reason

variable {members : List (String × Value)} {reason : String} {d : FailureData}

/-- What is stated is among the values that the field has. -/
theorem Field.States.mem_valuesIn {field : Field} (h : Field.States field members reason) :
    Value.string reason ∈ field.valuesIn members := by
  obtain ⟨-, key, hkey, hlookup, -⟩ := h
  obtain ⟨m, hfind, hvalue⟩ := Option.map_eq_some_iff.1 hlookup
  have hname : m.1 = key := by simpa using List.find?_some hfind
  refine List.mem_map.2 ⟨m, List.mem_filter.2 ⟨List.mem_of_find?_eq_some hfind, ?_⟩, hvalue⟩
  exact Field.hasName_iff.2 (hname ▸ hkey)

/-- If what the field has is one text, then it is what is stated. -/
theorem Field.States.nonEmpty_eq {field : Field} {s? : Option String}
    (h : Field.States field members reason) (hs : OneText (field.valuesIn members) s?) :
    nonEmpty s? = some reason := by
  have hmem := h.mem_valuesIn
  generalize field.valuesIn members = vs at hmem hs
  cases hs with
  | absent => cases hmem
  | null => cases List.mem_singleton.1 hmem
  | text s =>
    cases List.mem_singleton.1 hmem
    rw [nonEmpty, Option.filter_some, decide_eq_true h.1]
    rfl

end Reason

section Outcome

variable {reply : Reply} {requirements : Bytes} {e : Envelope} {members : List (String × Value)}
  {reason : String}

/-- A failure without a reason is one of the action that was asked for. -/
theorem Reply.concerns_unexplained (reply : Reply) (action : Action) (e : Envelope) :
    (reply.unexplained action e).Concerns action := by
  rw [unexplained]
  split
  · exact .badStatus _ _
  · exact .refused _

theorem Envelope.reasons_of_not_ofMembers (hdata : e.data = .object members)
    (h : ∀ d, ¬ FailureData.OfMembers members d) :
    e.verifyReason = none ∧ e.settleReason = none := by
  rw [verifyReason, settleReason, hdata, FailureData.ofData_of_not_ofMembers h]
  exact ⟨rfl, rfl⟩

/-- The reason why a payment is not valid is passed on just if all details can be read. -/
theorem Reply.verification_of_states (he : reply.envelope? = some e) (hs : ¬ reply.Succeeds e)
    (hdata : e.data = .object members)
    (h : Field.States FailureData.invalidReasonSlot.field members reason) :
    ((∃ payer network, reply.verification requirements =
        .error (.notVerified reason payer network e.remark)) ↔
      ∃ d, FailureData.OfMembers members d) ∧
    ((¬ ∃ d, FailureData.OfMembers members d) →
      reply.verification requirements = .error (reply.unexplained .verify e)) := by
  rw [verification_of_not_succeeds he hs]
  by_cases hd : ∃ d, FailureData.OfMembers members d
  · obtain ⟨d, hd⟩ := hd
    have hreason : e.verifyReason = some reason := by
      rw [Envelope.verifyReason, hdata, FailureData.ofData_of_ofMembers hd,
        h.nonEmpty_eq hd.invalidReason]
    rw [hreason]
    exact ⟨iff_of_true ⟨_, _, rfl⟩ ⟨d, hd⟩, fun hno => (hno ⟨d, hd⟩).elim⟩
  · rw [(Envelope.reasons_of_not_ofMembers hdata fun d h => hd ⟨d, h⟩).1]
    refine ⟨iff_of_false ?_ hd, fun _ => rfl⟩
    rintro ⟨payer, network, hlost⟩
    have hconcerns := reply.concerns_unexplained .verify e
    rw [Except.error.inj hlost] at hconcerns
    cases hconcerns

/-- The reason why a payment was not settled is passed on just if all details can be read. -/
theorem Reply.settlement_of_states (he : reply.envelope? = some e) (hs : ¬ reply.Succeeds e)
    (hdata : e.data = .object members)
    (h : Field.States FailureData.errorReasonSlot.field members reason) :
    ((∃ payer network transaction, reply.settlement requirements =
        .error (.notSettled reason payer network transaction e.remark)) ↔
      ∃ d, FailureData.OfMembers members d) ∧
    ((¬ ∃ d, FailureData.OfMembers members d) → reply.settlement requirements =
      .error (if reply.isServerError then .outcomeUnknown (.serverFailed reply.status e.remark)
        else reply.unexplained .settle e)) := by
  rw [settlement_of_not_succeeds he hs]
  by_cases hd : ∃ d, FailureData.OfMembers members d
  · obtain ⟨d, hd⟩ := hd
    have hreason : e.settleReason = some reason := by
      rw [Envelope.settleReason, hdata, FailureData.ofData_of_ofMembers hd,
        h.nonEmpty_eq hd.errorReason]
    rw [hreason]
    exact ⟨iff_of_true ⟨_, _, _, rfl⟩ ⟨d, hd⟩, fun hno => (hno ⟨d, hd⟩).elim⟩
  · rw [(Envelope.reasons_of_not_ofMembers hdata fun d h => hd ⟨d, h⟩).2]
    show ((∃ payer network transaction, (if reply.isServerError then _ else _) = _) ↔ _) ∧ _
    by_cases h5 : reply.isServerError = true
    · rw [if_pos h5, if_pos h5]
      exact ⟨iff_of_false nofun hd, fun _ => rfl⟩
    · rw [if_neg h5, if_neg h5]
      refine ⟨iff_of_false ?_ hd, fun _ => rfl⟩
      rintro ⟨payer, network, transaction, hlost⟩
      have hconcerns := reply.concerns_unexplained .settle e
      rw [Except.error.inj hlost] at hconcerns
      cases hconcerns

end Outcome

/-! ## Whole calls

The tables of `Settlement` and `Inquiry` ask for the reason that was read.  Here it is compared with
the one that was stated. -/

section Call

variable {f : Facilitator} {stamp : Stamp} {payload requirements : Bytes}
  {before after : List Event} {request : Http.Request} {reply : Reply} {e : Envelope}
  {members : List (String × Value)}

/-- **What the caller hears of a reason that is stated.**  A reply that is no success states in its
data why a payment is not valid or was not settled.  The caller is told this reason exactly if all
details in the data can be read; else the call fails without a reason, and of a settlement it may
even be left open whether it was made. -/
theorem stated_reason_outcome (he : reply.envelope? = some e) (hs : ¬ reply.Succeeds e)
    (hdata : e.data = .object members) (hsent : f.Sends request after (.ok reply)) :
    (∀ reason, f.Prepares .verify stamp payload requirements before request →
      Field.States FailureData.invalidReasonSlot.field members reason →
        ∃ result, (∀ a, Yields (f.verify stamp payload requirements) (before ++ after) a ↔
            a = result) ∧
          ((∃ payer network, result = .error (.notVerified reason payer network e.remark)) ↔
            ∃ d, FailureData.OfMembers members d) ∧
          ((¬ ∃ d, FailureData.OfMembers members d) →
            result = .error (reply.unexplained .verify e))) ∧
    ∀ reason, f.Prepares .settle stamp payload requirements before request →
      Field.States FailureData.errorReasonSlot.field members reason →
        ∃ result, (∀ a, Yields (f.settle stamp payload requirements) (before ++ after) a ↔
            a = result) ∧
          ((∃ payer network transaction,
              result = .error (.notSettled reason payer network transaction e.remark)) ↔
            ∃ d, FailureData.OfMembers members d) ∧
          ((¬ ∃ d, FailureData.OfMembers members d) → result = .error
            (if reply.isServerError then .outcomeUnknown (.serverFailed reply.status e.remark)
              else reply.unexplained .settle e)) := by
  refine ⟨fun reason hp hr => ⟨reply.verification requirements, fun a => ?_, ?_⟩,
    fun reason hp hr => ⟨reply.settlement requirements, fun a => ?_, ?_⟩⟩
  · have hrun := (Facilitator.yields_verify_append hp).2 ⟨_, hsent, rfl⟩
    exact ⟨fun h => h.unique hrun, fun h => h ▸ hrun⟩
  · exact Reply.verification_of_states he hs hdata hr
  · have hrun := (Facilitator.yields_settle_append hp).2 ⟨_, hsent, rfl⟩
    exact ⟨fun h => h.unique hrun, fun h => h ▸ hrun⟩
  · exact Reply.settlement_of_states he hs hdata hr

end Call

/-- A refusal that states its reasons beside a payer that is no text. -/
def spoiledReply : Reply where
  status := 200
  body := Bytes.ofString ("\x7b\"code\":1,\"data\":" ++
    "\x7b\"invalidReason\":\"r\",\"errorReason\":\"s\",\"payer\":5\x7d\x7d")

/-- The members of its data. -/
def spoiledMembers : List (String × Value) :=
  [("errorReason", .string "s"), ("invalidReason", .string "r"), ("payer", .number (.natural 5))]

theorem envelope?_spoiledReply : spoiledReply.envelope? = some ⟨⟨1, ""⟩, .object spoiledMembers⟩ :=
  rfl

theorem states_spoiledMembers :
    Field.States FailureData.invalidReasonSlot.field spoiledMembers "r" ∧
      Field.States FailureData.errorReasonSlot.field spoiledMembers "s" := by
  have hinvalid : Value.lookupMember "invalid_reason" spoiledMembers = none := rfl
  have herror : Value.lookupMember "error_reason" spoiledMembers = none := rfl
  refine ⟨⟨by decide, "invalidReason", .head _, rfl, fun other hother s hs _ => ?_⟩,
    ⟨by decide, "errorReason", .head _, rfl, fun other hother s hs _ => ?_⟩⟩
  · obtain rfl | hother := List.mem_cons.1 hother
    · rfl
    · cases (List.mem_singleton.1 hother ▸ hinvalid).symm.trans hs
  · obtain rfl | hother := List.mem_cons.1 hother
    · rfl
    · cases (List.mem_singleton.1 hother ▸ herror).symm.trans hs

theorem not_ofMembers_spoiledMembers : ¬ ∃ d, FailureData.OfMembers spoiledMembers d := by
  rintro ⟨d, h⟩
  have hpayer : OneText [.number (.natural 5)] d.payer := h.payer
  cases hpayer

theorem sends_spoiledReply {body : Bytes} :
    plainFacilitator.Sends (plainFacilitator.httpRequest contentHeaders body)
      [.sent (plainFacilitator.httpRequest contentHeaders body)
        (.answered ⟨200, [], some spoiledReply.body⟩)] (.ok spoiledReply) :=
  .answered _ _ rfl rfl

theorem not_succeeds_spoiledReply : ¬ spoiledReply.Succeeds ⟨⟨1, ""⟩, .object spoiledMembers⟩ :=
  fun h => absurd h.2 (by decide)

theorem prepares_bareFor : ∃ call : PaymentCall, ∀ action,
    plainFacilitator.Prepares action ⟨0, "r"⟩ barePayment bareOffer []
      (plainFacilitator.httpRequest contentHeaders (action.request call.params).text) := by
  obtain ⟨call, hcall⟩ : ∃ call, PaymentCall.ofTexts barePayment bareOffer = .ok call := ⟨_, rfl⟩
  exact ⟨call, fun action => Facilitator.prepares_plain rfl rfl hcall⟩

/-- Beside a payer that is no text both reasons are lost. -/
theorem stated_reason_outcome_spoiled :
    (∃ events, Yields (plainFacilitator.verify ⟨0, "r"⟩ barePayment bareOffer) events
      (.error (.refused .verify ⟨1, ""⟩))) ∧
    ∃ events, Yields (plainFacilitator.settle ⟨0, "r"⟩ barePayment bareOffer) events
      (.error (.refused .settle ⟨1, ""⟩)) := by
  obtain ⟨hinvalid, herror⟩ := states_spoiledMembers
  obtain ⟨call, hprepares⟩ := prepares_bareFor
  constructor
  · obtain ⟨result, hrun, -, hlost⟩ := (stated_reason_outcome envelope?_spoiledReply
      not_succeeds_spoiledReply rfl sends_spoiledReply).1 "r" (hprepares .verify) hinvalid
    exact ⟨_, (hrun _).2 (hlost not_ofMembers_spoiledMembers).symm⟩
  · obtain ⟨result, hrun, -, hlost⟩ := (stated_reason_outcome envelope?_spoiledReply
      not_succeeds_spoiledReply rfl sends_spoiledReply).2 "s" (hprepares .settle) herror
    exact ⟨_, (hrun _).2 (hlost not_ofMembers_spoiledMembers).symm⟩

/-- A reason that is stated may be lost. -/
theorem stated_reason_lost :
    ¬ ∀ (f : Facilitator) (stamp : Stamp) (payload requirements : Bytes)
        (before after : List Event) (request : Http.Request) (reply : Reply) (e : Envelope)
        (members : List (String × Value)) (reason : String)
        (result : Except FacilitatorError Verification),
      f.Prepares .verify stamp payload requirements before request →
      f.Sends request after (.ok reply) → reply.envelope? = some e → ¬ reply.Succeeds e →
      e.data = .object members →
      Field.States FailureData.invalidReasonSlot.field members reason →
      Yields (f.verify stamp payload requirements) (before ++ after) result →
      ∃ payer network, result = .error (.notVerified reason payer network e.remark) := by
  intro h
  obtain ⟨call, hprepares⟩ := prepares_bareFor
  have hreason := states_spoiledMembers.1
  have hlost : spoiledReply.verification bareOffer = .error (.refused .verify ⟨1, ""⟩) :=
    (Reply.verification_of_states envelope?_spoiledReply not_succeeds_spoiledReply rfl hreason).2
      not_ofMembers_spoiledMembers
  have hrun := (Facilitator.yields_verify_append (hprepares .verify)).2
    ⟨_, sends_spoiledReply, rfl⟩
  obtain ⟨payer, network, hkept⟩ := h _ _ _ _ _ _ _ _ _ _ _ _ (hprepares .verify)
    sends_spoiledReply envelope?_spoiledReply not_succeeds_spoiledReply rfl hreason hrun
  cases hlost.symm.trans hkept

end Tollbooth
