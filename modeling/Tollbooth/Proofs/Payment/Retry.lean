import Tollbooth.Payment.Retry
import Tollbooth.Proofs.Dialogue.Run
import Tollbooth.Proofs.Http.Headers
/-!
# What a payer does

A payer has a server that may answer anything, and a candidate that may ask anything of the world
while it signs.  What the payer itself does in between is little, and is said here completely.

It is said twice, because there are two kinds of questions about a conversation.  What comes of it
is a question about runs that have come to an end, and `Course` lists these: nothing was owed, or
something kept the payer from paying, or the request went out a second time.  What a payer can be
blamed for is a question about every moment, also in a conversation that is never finished, because
the server does not answer or because somebody pulls the plug.  `Stage` lists the moments; so that
the payer sends its request twice at most, and asks nobody to sign but the selected candidate, holds
at all of them and not only where there is a result.

A candidate is not known here in any way.  It is a dialogue that may read chains, ask for
signatures, send requests of its own and take its time, and the limit on that time is the only thing
that a payer adds to it.

* `Signs` — all that can come of asking a candidate to sign.
* `Obstacle`, `Affords` — why a demand is not answered with a payment, and when it is.
* `Course` — a conversation from the first request to its result; `yields_send_iff` says that these
  are the runs of `Payer.send`.
* `Stage` — what has been asked when a conversation is interrupted anywhere.
* `send_conversation` — all of this together.
-/

set_option autoImplicit false

namespace Tollbooth.Payer

open Dialogue (Event Leads Yields InTime Idle elapsed exchange)

variable {payer : Payer} {occasion : Occasion} {request : Http.Request}
  {response : Http.Response} {demand : Demand} {events : List Event}

/-! ## Making a payment

What can come of signing depends on the limit.  A run of the candidate counts if it is in time; and
if the candidate gets to a point from which it would let the rest of the time pass, it is late, with
what it has asked so far.  A text that was signed still has to be one that a header can carry. -/

/-- The candidate is the one that is selected for a demand. -/
def Picks (payer : Payer) (demand : Demand) (c : Candidate) : Prop :=
  ∃ h : c ∈ candidates payer.schemes demand,
    payer.select (candidates payer.schemes demand) = some ⟨c, h⟩

/-- All that can come of asking a candidate to sign. -/
inductive Signs (payer : Payer) (occasion : Occasion) (c : Candidate) :
    List Event → Except PaymentError String → Prop
  /-- It is done in time. -/
  | finished {events : List Event} {r : Except PaymentError String}
      (h : Yields (c.sign occasion) events r)
      (ht : ∀ ms, payer.timeout = some ms → InTime ms events) : Signs payer occasion c events r
  /-- It would let the rest of the time pass. -/
  | late {before : List Event} {d : Dialogue (Except PaymentError String)} {ms : Nat}
      (hms : payer.timeout = some ms) (h : Leads (c.sign occasion) before d)
      (ht : InTime ms before) (hi : Idle (ms - elapsed before) d) :
      Signs payer occasion c (before ++ [.waited (ms - elapsed before)]) (.error .timedOut)

/-- What is made of a signed text: the header that carries it, if it can be one. -/
def header (demand : Demand) : Except PaymentError String → Except PaymentError (String × Bytes)
  | .error e => .error e
  | .ok text =>
    if Http.isValue (Bytes.ofString text) then
      .ok (paymentHeader demand.version, Bytes.ofString text)
    else .error .invalidHeader

/-- The selected candidate is asked to sign, and no other. -/
theorem pay_of_picks {c : Candidate} (h : payer.Picks demand c) :
    payer.pay occasion demand =
      (c.sign occasion).limit? payer.timeout >>= fun o =>
        pure (header demand (o.getD (.error .timedOut))) := by
  obtain ⟨hc, h⟩ := h
  rw [pay, h]
  refine congrArg (Dialogue.bind _) (funext fun o => ?_)
  rcases o with _ | e | text
  · rfl
  · rfl
  · show (if Http.isValue (Bytes.ofString text) = true then _ else _ : Dialogue _) = _
    rw [Option.getD_some, header]
    split <;> rfl

theorem pay_of_none (h : payer.select (candidates payer.schemes demand) = none) :
    payer.pay occasion demand = pure (.error .noSchemeRegistered) := by
  rw [pay, h]

theorem yields_pay {c : Candidate} {r : Except PaymentError (String × Bytes)}
    (h : payer.Picks demand c) :
    Yields (payer.pay occasion demand) events r ↔
      ∃ signed, payer.Signs occasion c events signed ∧ r = header demand signed := by
  rw [pay_of_picks h]
  refine Dialogue.yields_bind_pure.trans ⟨?_, ?_⟩
  · rintro ⟨o, hsign, rfl⟩
    cases o with
    | some signed =>
      obtain ⟨hd, ht⟩ := Dialogue.yields_limit?_some.1 hsign
      exact ⟨signed, .finished hd ht, rfl⟩
    | none =>
      obtain ⟨ms, before, d, hms, rfl, hd, ht, hi⟩ := Dialogue.yields_limit?_none.1 hsign
      exact ⟨_, .late hms hd ht hi, rfl⟩
  · rintro ⟨signed, hsign, rfl⟩
    cases hsign with
    | finished hd ht => exact ⟨some signed, Dialogue.yields_limit?_some.2 ⟨hd, ht⟩, rfl⟩
    | late hms hd ht hi =>
      exact ⟨none, Dialogue.yields_limit?_none.2 ⟨_, _, _, hms, rfl, hd, ht, hi⟩, rfl⟩

/-! ## Answering a demand

Five things can keep a payer from paying, and they are met in a fixed order: whether the request can
be sent again is looked at before the demand is read, the demand before a candidate is selected, and
so on.  `Obstacle` has a constructor for each, which says that everything before it went well; that
an obstacle is the first one is in this way part of what it is.  `Affords` is what is left if there
is none.  The first two obstacles are met before there is a demand to pay, so they are split off,
and the other three come from the runs of making a payment. -/

/-- The request with a payment. -/
def paid (request : Http.Request) (header : String × Bytes) : Http.Request :=
  { request with headers := Http.Headers.insert request.headers header.1 header.2 }

/-- The first thing that keeps a payer from answering a demand, and what is asked of the world
before that shows. -/
inductive Obstacle (payer : Payer) (occasion : Occasion) (request : Http.Request)
    (response : Http.Response) : List Event → PaymentError → Prop
  | notRepeatable (hr : request.isRepeatable = false) :
      Obstacle payer occasion request response [] .notRepeatable
  | unreadable (hr : request.isRepeatable = true) (hd : readDemand response = none) :
      Obstacle payer occasion request response [] .unreadableDemand
  | unselected {demand : Demand} (hr : request.isRepeatable = true)
      (hd : readDemand response = some demand)
      (hn : payer.select (candidates payer.schemes demand) = none) :
      Obstacle payer occasion request response [] .noSchemeRegistered
  /-- The time was up, or the signer failed. -/
  | unsigned {demand : Demand} {c : Candidate} {events : List Event} {e : PaymentError}
      (hr : request.isRepeatable = true) (hd : readDemand response = some demand)
      (hc : payer.Picks demand c) (hs : payer.Signs occasion c events (.error e)) :
      Obstacle payer occasion request response events e
  | illegal {demand : Demand} {c : Candidate} {events : List Event} {text : String}
      (hr : request.isRepeatable = true) (hd : readDemand response = some demand)
      (hc : payer.Picks demand c) (hs : payer.Signs occasion c events (.ok text))
      (hv : Http.isValue (Bytes.ofString text) = false) :
      Obstacle payer occasion request response events .invalidHeader

/-- A demand is answered with this header, which is had after these events: the request can be sent
again, the demand can be read, and the selected candidate signs in time with a text that can be a
header value. -/
structure Affords (payer : Payer) (occasion : Occasion) (request : Http.Request)
    (response : Http.Response) (events : List Event) (header : String × Bytes) : Prop where
  repeatable : request.isRepeatable = true
  signed : ∃ demand c text, readDemand response = some demand ∧ payer.Picks demand c ∧
    payer.Signs occasion c events (.ok text) ∧ Http.isValue (Bytes.ofString text) = true ∧
    header = (paymentHeader demand.version, Bytes.ofString text)

/-- What a payer says of the answer to its second request, which is final. -/
def final : Except Http.TransportFault Http.Response → Except SendError Http.Response
  | .error fault => .error (.transport fault)
  | .ok response =>
    if response.status = paymentRequired then
      .error (.payment (.notAccepted ((readDemand response).bind Demand.error)))
    else .ok response

theorem resend_eq {header : String × Bytes} :
    resend request header = exchange (paid request header) >>= fun r => pure (final r) := by
  refine congrArg (Dialogue.bind (exchange (paid request header))) (funext fun r => ?_)
  cases r with
  | error fault => rfl
  | ok response =>
    show (if response.status = paymentRequired then _ else _ : Dialogue _) = _
    rw [final]
    split <;> rfl

theorem yields_resend {header : String × Bytes} {result : Except SendError Http.Response} :
    Yields (resend request header) events result ↔
      ∃ r, Yields (exchange (paid request header)) events r ∧ result = final r := by
  rw [resend_eq, Dialogue.yields_bind_pure]

/-- A request that can be sent again, and an answer with a demand, leave a payment to be made. -/
theorem obstacle_iff_yields_pay {e : PaymentError} (hr : request.isRepeatable = true)
    (hd : readDemand response = some demand) :
    Obstacle payer occasion request response events e ↔
      Yields (payer.pay occasion demand) events (.error e) := by
  constructor
  · intro h
    cases h with
    | notRepeatable hr' => cases hr.symm.trans hr'
    | unreadable _ hd' => cases hd.symm.trans hd'
    | unselected _ hd' hn =>
      cases hd.symm.trans hd'
      rw [pay_of_none hn]
      exact Dialogue.yields_pure.2 ⟨rfl, rfl⟩
    | unsigned _ hd' hc hs =>
      cases hd.symm.trans hd'
      exact (yields_pay hc).2 ⟨_, hs, rfl⟩
    | illegal _ hd' hc hs hv =>
      cases hd.symm.trans hd'
      refine (yields_pay hc).2 ⟨_, hs, ?_⟩
      rw [header, hv]
      rfl
  · intro h
    cases hsel : payer.select (candidates payer.schemes demand) with
    | none =>
      rw [pay_of_none hsel] at h
      obtain ⟨rfl, ⟨⟩⟩ := Dialogue.yields_pure.1 h
      exact .unselected hr hd hsel
    | some selected =>
      have hc : payer.Picks demand selected.val := ⟨selected.property, hsel⟩
      obtain ⟨signed, hs, hheader⟩ := (yields_pay hc).1 h
      cases signed with
      | error e' =>
        cases hheader
        exact .unsigned hr hd hc hs
      | ok text =>
        rw [header] at hheader
        split at hheader
        · cases hheader
        · next hv =>
          cases hheader
          exact .illegal hr hd hc hs (Bool.not_eq_true _ ▸ hv)

theorem affords_iff_yields_pay {header : String × Bytes} (hr : request.isRepeatable = true)
    (hd : readDemand response = some demand) :
    Affords payer occasion request response events header ↔
      Yields (payer.pay occasion demand) events (.ok header) := by
  constructor
  · rintro ⟨-, demand', c, text, hd', hc, hs, hv, rfl⟩
    cases hd.symm.trans hd'
    refine (yields_pay hc).2 ⟨_, hs, ?_⟩
    rw [Payer.header, if_pos hv]
  · intro h
    cases hsel : payer.select (candidates payer.schemes demand) with
    | none =>
      rw [pay_of_none hsel] at h
      obtain ⟨-, ⟨⟩⟩ := Dialogue.yields_pure.1 h
    | some selected =>
      have hc : payer.Picks demand selected.val := ⟨selected.property, hsel⟩
      obtain ⟨signed, hs, hheader⟩ := (yields_pay hc).1 h
      cases signed with
      | error e => cases hheader
      | ok text =>
        rw [Payer.header] at hheader
        split at hheader
        · next hv =>
          cases hheader
          exact ⟨hr, demand, _, text, hd, hc, hs, hv, rfl⟩
        · cases hheader

/-- A demand that is answered with a payment meets no obstacle, however it would go on. -/
theorem Affords.not_obstacle {header : String × Bytes} {more : List Event} {e : PaymentError}
    (h : Affords payer occasion request response events header) :
    ¬ Obstacle payer occasion request response (events ++ more) e := by
  intro ho
  obtain ⟨hr, demand, _, _, hd, -⟩ := id h
  have hpay := (affords_iff_yields_pay hr hd).1 h
  have hstop := (obstacle_iff_yields_pay hr hd).1 ho
  cases (hpay.append_unique hstop).2

theorem answerDemand_of_demand (hr : request.isRepeatable = true)
    (hd : readDemand response = some demand) :
    payer.answerDemand occasion request response =
      payer.pay occasion demand >>= fun
        | .error e => pure (.error (.payment e))
        | .ok header => resend request header := by
  rw [answerDemand, hr, hd]
  rfl

theorem payable_or_not (request : Http.Request) (response : Http.Response) :
    (request.isRepeatable = true ∧ ∃ demand, readDemand response = some demand) ∨
      (request.isRepeatable = false ∨ readDemand response = none) := by
  cases request.isRepeatable with
  | false => exact .inr (.inl rfl)
  | true =>
    cases readDemand response with
    | none => exact .inr (.inr rfl)
    | some demand => exact .inl ⟨rfl, demand, rfl⟩

/-- A demand that is met by an obstacle at once asks nothing. -/
theorem answerDemand_of_no_demand (payer : Payer) (occasion : Occasion)
    (h : request.isRepeatable = false ∨ readDemand response = none) :
    ∃ e, payer.answerDemand occasion request response = pure (.error (.payment e)) ∧
      ∀ events e', Obstacle payer occasion request response events e' ↔ events = [] ∧ e' = e := by
  cases hr : request.isRepeatable with
  | false =>
    refine ⟨.notRepeatable, by rw [answerDemand, hr]; rfl, fun events e' => ⟨?_, ?_⟩⟩
    · rintro (_ | ⟨hr', _⟩ | ⟨hr', _⟩ | ⟨hr', _⟩ | ⟨hr', _⟩)
      · exact ⟨rfl, rfl⟩
      all_goals cases hr.symm.trans hr'
    · rintro ⟨rfl, rfl⟩
      exact .notRepeatable hr
  | true =>
    have hd : readDemand response = none := h.resolve_left fun h => nomatch hr.symm.trans h
    refine ⟨.unreadableDemand, by rw [answerDemand, hr, hd]; rfl, fun events e' => ⟨?_, ?_⟩⟩
    · rintro (hr' | _ | ⟨_, hd', _⟩ | ⟨_, hd', _⟩ | ⟨_, hd', _⟩)
      · cases hr.symm.trans hr'
      · exact ⟨rfl, rfl⟩
      all_goals cases hd.symm.trans hd'
    · rintro ⟨rfl, rfl⟩
      exact .unreadable hr hd

/-- A demand is answered with what first keeps the payer from paying, or the request is sent again
with a payment. -/
theorem yields_answerDemand {result : Except SendError Http.Response} :
    Yields (payer.answerDemand occasion request response) events result ↔
      (∃ e, Obstacle payer occasion request response events e ∧ result = .error (.payment e)) ∨
      ∃ signing second header r, events = signing ++ second ∧
        Affords payer occasion request response signing header ∧
        Yields (exchange (paid request header)) second r ∧ result = final r := by
  obtain ⟨hr, demand, hd⟩ | hnot := payable_or_not request response
  · rw [answerDemand_of_demand hr hd]
    simp only [obstacle_iff_yields_pay hr hd, affords_iff_yields_pay hr hd]
    refine Dialogue.yields_bind.trans ⟨?_, ?_⟩
    · rintro ⟨signing, second, paid, rfl, hpay, hrest⟩
      cases paid with
      | error e =>
        obtain ⟨rfl, rfl⟩ := Dialogue.yields_pure.1 hrest
        rw [List.append_nil]
        exact .inl ⟨e, hpay, rfl⟩
      | ok header =>
        obtain ⟨r, hx, rfl⟩ := yields_resend.1 hrest
        exact .inr ⟨signing, second, header, r, rfl, hpay, hx, rfl⟩
    · rintro (⟨e, hpay, rfl⟩ | ⟨signing, second, header, r, rfl, hpay, hx, rfl⟩)
      · exact ⟨events, [], .error e, (List.append_nil _).symm, hpay,
          Dialogue.yields_pure.2 ⟨rfl, rfl⟩⟩
      · exact ⟨signing, second, .ok header, rfl, hpay, yields_resend.2 ⟨r, hx, rfl⟩⟩
  · obtain ⟨e, heq, hobstacle⟩ := answerDemand_of_no_demand payer occasion hnot
    rw [heq, Dialogue.yields_pure]
    constructor
    · rintro ⟨rfl, rfl⟩
      exact .inl ⟨e, (hobstacle [] e).2 ⟨rfl, rfl⟩, rfl⟩
    · rintro (⟨e', ho, rfl⟩ | ⟨signing, second, header, r, -, ha, -⟩)
      · obtain ⟨rfl, rfl⟩ := (hobstacle _ _).1 ho
        exact ⟨rfl, rfl⟩
      · obtain ⟨hr, demand, _, _, hd, -⟩ := ha
        rcases hnot with h | h
        · cases hr.symm.trans h
        · cases hd.symm.trans h

/-! ## The whole conversation

Two exchanges with an answer between them: `yields_bind` takes a run apart at the joints, and the
cases that are left are the constructors of `Course`. -/

/-- A conversation from its first request to its result. -/
inductive Course (payer : Payer) (occasion : Occasion) (request : Http.Request) :
    List Event → Except SendError Http.Response → Prop
  /-- There is nowhere to send the request. -/
  | hostless (host : request.url.hasHost = false) :
      Course payer occasion request [] (.error (.transport .undelivered))
  | failed {fault : Http.TransportFault} (host : request.url.hasHost = true) :
      Course payer occasion request [.sent request (.failed fault)] (.error (.transport fault))
  /-- Nothing has to be paid. -/
  | free {response : Http.Response} (host : request.url.hasHost = true)
      (h : response.status ≠ paymentRequired) :
      Course payer occasion request [.sent request (.answered response)] (.ok response)
  | stopped {response : Http.Response} {events : List Event} {e : PaymentError}
      (host : request.url.hasHost = true) (h : response.status = paymentRequired)
      (ho : Obstacle payer occasion request response events e) :
      Course payer occasion request (.sent request (.answered response) :: events)
        (.error (.payment e))
  /-- The request is sent again with a payment, and what comes of that is final. -/
  | retried {response : Http.Response} {signing : List Event} {header : String × Bytes}
      {x : Http.Exchange} {r : Except Http.TransportFault Http.Response}
      (host : request.url.hasHost = true) (h : response.status = paymentRequired)
      (ha : Affords payer occasion request response signing header)
      (hx : Dialogue.outcome? x = some r) :
      Course payer occasion request
        (.sent request (.answered response) :: (signing ++ [.sent (paid request header) x]))
        (final r)

/-- What has been asked at some moment of a conversation. -/
inductive Stage (payer : Payer) (occasion : Occasion) (request : Http.Request) : List Event → Prop
  | start : Stage payer occasion request []
  | asked (x : Http.Exchange) : Stage payer occasion request [.sent request x]
  /-- The selected candidate is signing, within the limit on its time. -/
  | signing {response : Http.Response} {demand : Demand} {c : Candidate} {events : List Event}
      {d : Dialogue (Option (Except PaymentError String))}
      (h : response.status = paymentRequired) (hr : request.isRepeatable = true)
      (hd : readDemand response = some demand) (hc : payer.Picks demand c)
      (hs : Leads ((c.sign occasion).limit? payer.timeout) events d) :
      Stage payer occasion request (.sent request (.answered response) :: events)
  | retried {response : Http.Response} {signing : List Event} {header : String × Bytes}
      {x : Http.Exchange} (h : response.status = paymentRequired)
      (ha : Affords payer occasion request response signing header) :
      Stage payer occasion request
        (.sent request (.answered response) :: (signing ++ [.sent (paid request header) x]))

theorem send_eq :
    payer.send occasion request = exchange request >>= fun
      | .error fault => pure (.error (.transport fault))
      | .ok response =>
        if response.status = paymentRequired then payer.answerDemand occasion request response
        else pure (.ok response) := by
  refine congrArg (Dialogue.bind (exchange request)) (funext fun r => ?_)
  cases r <;> rfl

theorem outcome?_eq_ok {x : Http.Exchange} (h : Dialogue.outcome? x = some (.ok response)) :
    x = .answered response := by
  cases x <;> cases h
  rfl

theorem outcome?_eq_error {x : Http.Exchange} {fault : Http.TransportFault}
    (h : Dialogue.outcome? x = some (.error fault)) : x = .failed fault := by
  cases x <;> cases h
  rfl

theorem yields_send_iff {result : Except SendError Http.Response} :
    Yields (payer.send occasion request) events result ↔
      Course payer occasion request events result := by
  rw [send_eq]
  refine Dialogue.yields_bind.trans ⟨?_, ?_⟩
  · rintro ⟨first, rest, r, rfl, hfirst, hrest⟩
    obtain ⟨host, x, rfl, hx⟩ | ⟨host, rfl, rfl⟩ := Dialogue.yields_exchange.1 hfirst
    · cases r with
      | error fault =>
        obtain ⟨rfl, rfl⟩ := Dialogue.yields_pure.1 hrest
        rw [outcome?_eq_error hx]
        exact .failed host
      | ok response =>
        rw [outcome?_eq_ok hx]
        by_cases h : response.status = paymentRequired
        · simp only [if_pos h] at hrest
          obtain ⟨e, ho, rfl⟩ | ⟨signing, second, header, r, rfl, ha, hsecond, rfl⟩ :=
            yields_answerDemand.1 hrest
          · exact .stopped host h ho
          · obtain ⟨-, x', rfl, hx'⟩ | ⟨host', -, -⟩ := Dialogue.yields_exchange.1 hsecond
            · exact .retried host h ha hx'
            · cases host.symm.trans host'
        · simp only [if_neg h] at hrest
          obtain ⟨rfl, rfl⟩ := Dialogue.yields_pure.1 hrest
          exact .free host h
    · obtain ⟨rfl, rfl⟩ := Dialogue.yields_pure.1 hrest
      exact .hostless host
  · intro hcourse
    cases hcourse with
    | hostless host =>
      exact ⟨[], [], _, rfl, Dialogue.yields_exchange.2 (.inr ⟨host, rfl, rfl⟩),
        Dialogue.yields_pure.2 ⟨rfl, rfl⟩⟩
    | failed host =>
      exact ⟨_, [], _, rfl, Dialogue.yields_exchange.2 (.inl ⟨host, _, rfl, rfl⟩),
        Dialogue.yields_pure.2 ⟨rfl, rfl⟩⟩
    | free host h =>
      refine ⟨_, [], _, rfl, Dialogue.yields_exchange.2 (.inl ⟨host, _, rfl, rfl⟩), ?_⟩
      simp only [if_neg h]
      exact Dialogue.yields_pure.2 ⟨rfl, rfl⟩
    | stopped host h ho =>
      refine ⟨[_], _, _, rfl, Dialogue.yields_exchange.2 (.inl ⟨host, _, rfl, rfl⟩), ?_⟩
      simp only [if_pos h]
      exact yields_answerDemand.2 (.inl ⟨_, ho, rfl⟩)
    | retried host h ha hx =>
      refine ⟨[_], _, _, rfl, Dialogue.yields_exchange.2 (.inl ⟨host, _, rfl, rfl⟩), ?_⟩
      simp only [if_pos h]
      exact yields_answerDemand.2 (.inr ⟨_, _, _, _, rfl, ha,
        Dialogue.yields_exchange.2 (.inl ⟨host, _, rfl, hx⟩), rfl⟩)

/-! ## Conversations that are interrupted

For a run that stops anywhere `leads_bind` leaves two cases at each joint, one in which the first
part is not finished and one in which the second has begun.  Some stages can be reached in several
of these cases; a payment that is made and not yet sent, for instance, is still the stage of
signing. -/

/-- Making a payment asks nothing but what the selected candidate asks. -/
theorem leads_pay {d : Dialogue (Except PaymentError (String × Bytes))}
    (h : Leads (payer.pay occasion demand) events d) :
    events = [] ∨ ∃ c d', payer.Picks demand c ∧
      Leads ((c.sign occasion).limit? payer.timeout) events d' := by
  cases hsel : payer.select (candidates payer.schemes demand) with
  | none =>
    rw [pay_of_none hsel] at h
    exact .inl (Dialogue.leads_done.1 h).1
  | some selected =>
    have hc : payer.Picks demand selected.val := ⟨selected.property, hsel⟩
    rw [pay_of_picks hc] at h
    obtain ⟨d', hd⟩ := Dialogue.leads_bind_pure h
    exact .inr ⟨_, d', hc, hd⟩

theorem leads_resend {header : String × Bytes} {d : Dialogue (Except SendError Http.Response)}
    (h : Leads (resend request header) events d) :
    events = [] ∨ ∃ x, events = [.sent (paid request header) x] := by
  rw [resend_eq] at h
  obtain ⟨d', hd⟩ := Dialogue.leads_bind_pure h
  exact Dialogue.leads_exchange hd

theorem stage_of_answerDemand {d : Dialogue (Except SendError Http.Response)}
    (h402 : response.status = paymentRequired)
    (h : Leads (payer.answerDemand occasion request response) events d) :
    Stage payer occasion request (.sent request (.answered response) :: events) := by
  obtain ⟨hr, demand, hd⟩ | hnot := payable_or_not request response
  · have hpaying : ∀ {events : List Event} {d : Dialogue (Except PaymentError (String × Bytes))},
        Leads (payer.pay occasion demand) events d →
          Stage payer occasion request (.sent request (.answered response) :: events) := by
      intro events d hpay
      obtain rfl | ⟨c, d', hc, hs⟩ := leads_pay hpay
      · exact .asked _
      · exact .signing h402 hr hd hc hs
    rw [answerDemand_of_demand hr hd] at h
    obtain ⟨d', hpay, -⟩ | ⟨signing, second, paid, rfl, hpay, hrest⟩ := Dialogue.leads_bind.1 h
    · exact hpaying hpay
    · cases paid with
      | error e =>
        rw [(Dialogue.leads_done.1 hrest).1, List.append_nil]
        exact hpaying hpay
      | ok header =>
        -- The payment is made, but the request need not have been sent yet.
        obtain rfl | ⟨x, rfl⟩ := leads_resend hrest
        · rw [List.append_nil]
          exact hpaying hpay
        · exact .retried h402 ((affords_iff_yields_pay hr hd).2 hpay)
  · obtain ⟨e, heq, -⟩ := answerDemand_of_no_demand payer occasion hnot
    rw [heq] at h
    rw [(Dialogue.leads_done.1 h).1]
    exact .asked _

theorem stage_of_leads {d : Dialogue (Except SendError Http.Response)}
    (h : Leads (payer.send occasion request) events d) :
    Stage payer occasion request events := by
  rw [send_eq] at h
  have hasking : ∀ {events : List Event}
      {d : Dialogue (Except Http.TransportFault Http.Response)},
      Leads (exchange request) events d → Stage payer occasion request events := by
    intro events d hx
    obtain rfl | ⟨x, rfl⟩ := Dialogue.leads_exchange hx
    · exact .start
    · exact .asked x
  obtain ⟨d', hx, -⟩ | ⟨first, rest, r, rfl, hx, hrest⟩ := Dialogue.leads_bind.1 h
  · exact hasking hx
  · cases r with
    | error fault =>
      rw [(Dialogue.leads_done.1 hrest).1, List.append_nil]
      exact hasking hx
    | ok response =>
      by_cases h402 : response.status = paymentRequired
      · simp only [if_pos h402] at hrest
        obtain ⟨-, x, rfl, hout⟩ | ⟨-, -, ⟨⟩⟩ := Dialogue.yields_exchange.1 hx
        rw [outcome?_eq_ok hout]
        exact stage_of_answerDemand h402 hrest
      · simp only [if_neg h402] at hrest
        rw [(Dialogue.leads_done.1 hrest).1, List.append_nil]
        exact hasking hx

/-- What is said of the second answer is never that it is another demand. -/
theorem final_eq_ok {r : Except Http.TransportFault Http.Response} (h : final r = .ok response) :
    r = .ok response ∧ response.status ≠ paymentRequired := by
  cases r with
  | error fault => cases h
  | ok answer =>
    rw [final] at h
    split at h
    · cases h
    · next hs =>
      cases h
      exact ⟨rfl, hs⟩

theorem Course.status_ne {result : Except SendError Http.Response}
    (h : Course payer occasion request events result) (hok : result = .ok response) :
    response.status ≠ paymentRequired := by
  cases h with
  | hostless | failed | stopped => cases hok
  | free _ hs =>
    cases hok
    exact hs
  | retried => exact (final_eq_ok hok).2

/-- **Paying for a request.**  However far a conversation gets, it has sent its request at most once
and that request with a payment at most once, and the only candidate that was asked to sign is the
selected one.  Its result is the answer to the first request unless that demands payment; then it is
the first thing that kept the payer from paying, or what came of the second request.  A demand is
never the result.  What is sent again is the same request with one header put in. -/
theorem send_conversation (payer : Payer) (occasion : Occasion) (request : Http.Request) :
    (∀ events d, Leads (payer.send occasion request) events d →
      Stage payer occasion request events) ∧
    (∀ events result, Yields (payer.send occasion request) events result ↔
      Course payer occasion request events result) ∧
    (∀ events response, Yields (payer.send occasion request) events (.ok response) →
      response.status ≠ paymentRequired) ∧
    (∀ response signing header more e, Affords payer occasion request response signing header →
      ¬ Obstacle payer occasion request response (signing ++ more) e) ∧
    ∀ header : String × Bytes,
      paid request header = { request with headers := (paid request header).headers } ∧
      ∀ name, (paid request header).headers.getAll name =
        if name = header.1 then [header.2] else request.headers.getAll name := by
  refine ⟨fun _ _ => stage_of_leads, fun _ _ => yields_send_iff, fun events response h => ?_,
    fun _ _ _ _ _ h => h.not_obstacle, fun header => ⟨rfl, fun name => ?_⟩⟩
  · exact (yields_send_iff.1 h).status_ne rfl
  · exact Http.Headers.getAll_insert request.headers header.1 header.2 name

theorem picks_first {c : Candidate} {cs : List Candidate} (hs : payer.select = Selector.first)
    (h : candidates payer.schemes demand = c :: cs) : payer.Picks demand c := by
  rw [Picks, hs, h]
  exact ⟨List.mem_cons_self, rfl⟩

/-- A payer whose only candidate signs at once, whatever is demanded. -/
def eager (c : Candidate) : Payer := .ofSchemes [⟨fun _ => [c]⟩]

/-- A demand that makes no offer. -/
def bareDemand : Http.Response :=
  ⟨402, [], some (Bytes.ofString "\x7b\"x402Version\":1,\"accepts\":[]\x7d")⟩

/-- A demand is paid, and the second answer is no demand. -/
theorem send_conversation_paid : ∃ payer occasion request events response,
    Yields (Payer.send payer occasion request) events (.ok response) ∧
      response.status ≠ paymentRequired := by
  let c : Candidate := ⟨0, ⟨"", ""⟩, "", "", "", 1, "", fun _ => pure (.ok "x")⟩
  let occasion : Occasion := ⟨default, default⟩
  let url : Http.Url := { (default : Http.Url) with host := some "a".toList }
  let request : Http.Request := ⟨"GET", url, [], .none, none⟩
  obtain ⟨demand, hd⟩ : ∃ demand, readDemand bareDemand = some demand := ⟨_, rfl⟩
  have honly : candidates (eager c).schemes demand = [c] := by
    simp [eager, candidates, ofSchemes]
  have hc : (eager c).Picks demand c := picks_first rfl honly
  have hs : (eager c).Signs occasion c [] (.ok "x") :=
    .finished (Dialogue.yields_pure.2 ⟨rfl, rfl⟩) fun ms _ => trivial
  have ha : Affords (eager c) occasion request bareDemand []
      (paymentHeader demand.version, Bytes.ofString "x") :=
    ⟨rfl, demand, c, "x", hd, hc, hs, rfl, rfl⟩
  obtain ⟨-, hcourse, hpaid, -⟩ := send_conversation (eager c) occasion request
  have hrun := (hcourse _ _).2 (.retried rfl rfl ha (x := .answered ⟨200, [], none⟩) rfl)
  exact ⟨_, occasion, request, _, ⟨200, [], none⟩, hrun, hpaid _ _ hrun⟩

end Tollbooth.Payer
