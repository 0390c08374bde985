import Tollbooth.Facilitator.Client
import Tollbooth.Proofs.Dialogue.Live
/-!
# What a call of a facilitator asks of the world

A call first gets its request ready, for which a provider of extra headers may do whatever it likes,
and then sends it once.

All calls go this way, and they differ in what they put into the body and in what they make of the
reply.  Both are left open here: a request is any request with headers that could be had, and what
comes of sending it is a transport fault or a reply that nobody has looked at yet.  What a call asks
of the world is therefore settled before it matters what a reply says, and the tables of
`Settlement` and `Inquiry` need not mention the world.

* `Prepares` — the request is ready after these events.
* `Sends` — the request is sent: all that can come of it.
* `yields_post` — posting a body is a single sending.
* `yields_call_append` — so is what is left of a call whose headers are there.
* `yields_call` — a call has its headers and sends its request, or has none.
* `yields_ask_append` — a call about a payment is a call once its documents are read.
* `yields_bind_sends` — what is made of the answer changes nothing about what is sent.
-/

set_option autoImplicit false

namespace Tollbooth.Facilitator

open Dialogue (Event Live Yields)

variable {f : Facilitator}

/-! ## Sending

`Sends` has one case for each thing that can become of a request.  A reply that breaks off and one
that is late look the same to the client, and so does a connection that is interrupted: all three
leave it open what the other side has done. -/

/-- All that can come of sending a request: the events, and what the client learns.  Nothing but
the request is sent, and that once; to a URL without a host it is not even tried. -/
inductive Sends (f : Facilitator) (request : Http.Request) :
    List Event → Except Http.TransportFault Reply → Prop
  /-- The whole reply arrives. -/
  | answered (response : Http.Response) (body : Bytes) (host : request.url.hasHost = true)
      (whole : response.body = some body) :
      Sends f request [.sent request (.answered response)] (.ok ⟨response.status, body⟩)
  /-- The reply breaks off. -/
  | brokenOff (response : Http.Response) (host : request.url.hasHost = true)
      (part : response.body = none) :
      Sends f request [.sent request (.answered response)] (.error .interrupted)
  | failed (fault : Http.TransportFault) (host : request.url.hasHost = true) :
      Sends f request [.sent request (.failed fault)] (.error fault)
  /-- The time is up. -/
  | late (host : request.url.hasHost = true) :
      Sends f request [.sent request .silent, .waited f.timeout] (.error .interrupted)
  | hostless (host : request.url.hasHost = false) : Sends f request [] (.error .undelivered)

/-- What a client does with the answer to its request. -/
def receive (f : Facilitator) : Http.Exchange → Dialogue (Except Http.TransportFault Reply)
  | .answered response =>
    match response.body with
    | none => .done (.error .interrupted)
    | some body => .done (.ok ⟨response.status, body⟩)
  | .failed fault => .done (.error fault)
  | .silent => .wait f.timeout (.done (.error .interrupted))

theorem post_of_host {headers : Http.Headers} {body : Bytes}
    (h : (f.httpRequest headers body).url.hasHost = true) :
    f.post headers body = .send (f.httpRequest headers body) f.receive := by
  rw [post, Dialogue.exchange, if_pos h]
  refine congrArg (Dialogue.send _) (funext fun x => ?_)
  cases x with
  | answered response =>
    obtain ⟨status, headers, body⟩ := response
    cases body <;> rfl
  | failed | silent => rfl

theorem post_of_hostless {headers : Http.Headers} {body : Bytes}
    (h : (f.httpRequest headers body).url.hasHost = false) :
    f.post headers body = .done (.error .undelivered) := by
  rw [post, Dialogue.exchange, h]
  rfl

theorem yields_receive {x : Http.Exchange} {events : List Event}
    {r : Except Http.TransportFault Reply} {request : Http.Request}
    (h : request.url.hasHost = true) :
    Yields (f.receive x) events r ↔ Sends f request (.sent request x :: events) r := by
  constructor
  · intro hr
    cases x with
    | answered response =>
      rw [receive] at hr
      split at hr
      · next hb =>
        obtain ⟨rfl, rfl⟩ := Dialogue.yields_done.1 hr
        exact .brokenOff response h hb
      · next body hb =>
        obtain ⟨rfl, rfl⟩ := Dialogue.yields_done.1 hr
        exact .answered response body h hb
    | failed fault =>
      obtain ⟨rfl, rfl⟩ := Dialogue.yields_done.1 hr
      exact .failed fault h
    | silent =>
      obtain ⟨rest, rfl, hd⟩ := Dialogue.yields_wait.1 hr
      obtain ⟨rfl, rfl⟩ := Dialogue.yields_done.1 hd
      exact .late h
  · intro hs
    cases hs with
    | answered response body _ hb => simp [receive, hb]
    | brokenOff response _ hb => simp [receive, hb]
    | failed fault => simp [receive]
    | late => simp [receive]

/-- **A body is posted once.** -/
theorem yields_post {headers : Http.Headers} {body : Bytes} {events : List Event}
    {r : Except Http.TransportFault Reply} :
    Yields (f.post headers body) events r ↔ Sends f (f.httpRequest headers body) events r := by
  cases h : (f.httpRequest headers body).url.hasHost with
  | false =>
    rw [post_of_hostless h, Dialogue.yields_done]
    constructor
    · rintro ⟨rfl, rfl⟩
      exact .hostless h
    · intro hs
      cases hs with
      | hostless => exact ⟨rfl, rfl⟩
      | answered _ _ h' | brokenOff _ h' | failed _ h' | late h' => cases h.symm.trans h'
  | true =>
    rw [post_of_host h, Dialogue.yields_send]
    constructor
    · rintro ⟨x, rest, rfl, hr⟩
      exact (yields_receive h).1 hr
    · intro hs
      have hsent : ∃ x rest, events = .sent (f.httpRequest headers body) x :: rest := by
        cases hs with
        | answered | brokenOff | failed | late => exact ⟨_, _, rfl⟩
        | hostless h' => cases h.symm.trans h'
      obtain ⟨x, rest, rfl⟩ := hsent
      exact ⟨x, rest, rfl, (yields_receive h).2 hs⟩

/-- Posting comes to an end, for the time is limited. -/
theorem live_post (headers : Http.Headers) (body : Bytes) : Live (f.post headers body) := by
  refine (Dialogue.live_limit _ _).bind fun x => ?_
  rcases x with _ | fault | ⟨status, headers, _ | body⟩ <;> exact Dialogue.live_done _

/-- The requests among events. -/
def requests (events : List Event) : List Http.Request :=
  events.filterMap fun
    | .sent request _ => some request
    | _ => none

/-- A request is sent exactly once, unless there is nowhere to send it. -/
theorem Sends.requests_eq {request : Http.Request} {events : List Event}
    {r : Except Http.TransportFault Reply} (h : Sends f request events r) :
    requests events = if request.url.hasHost then [request] else [] := by
  cases h with
  | answered _ _ host | brokenOff _ host | failed _ host | late host =>
    rw [if_pos host]
    rfl
  | hostless host =>
    rw [host]
    rfl

/-! ## Whole calls

The events of a call are those of the provider of extra headers and then those of sending.  The
first part is described by whoever knows about headers; here it is any run to some headers.  Since
the events of that run determine the headers, what is left of the call after them is to send one
request, and `yields_call_append` says no more than that. -/

/-- The headers of a request can be had after these events. -/
def Headed (f : Facilitator) (action : Action) (stamp : Stamp) (body : Bytes)
    (events : List Event) (headers : Http.Headers) : Prop :=
  Yields (requestHeaders f.credentials f.provider action stamp body) events (.ok headers)

/-- After these events the request about a payment is ready: both documents can be read, and the
headers can be had.  Its body has the documents as they were given. -/
def Prepares (f : Facilitator) (action : Action) (stamp : Stamp) (payload requirements : Bytes)
    (events : List Event) (request : Http.Request) : Prop :=
  ∃ call headers, PaymentCall.ofTexts payload requirements = .ok call ∧
    Headed f action stamp (action.request call.params).text events headers ∧
    request = f.httpRequest headers (action.request call.params).text

/-- Once the headers are there, what is left of a call is to send its request. -/
theorem yields_call_append {action : Action} {stamp : Stamp} {params : Json.Doc}
    {before after : List Event} {headers : Http.Headers}
    {r : Except FacilitatorError (Except Http.TransportFault Reply)}
    (h : Headed f action stamp (action.request params).text before headers) :
    Yields (f.call action stamp params) (before ++ after) r ↔
      ∃ reply, Sends f (f.httpRequest headers (action.request params).text) after reply ∧
        r = .ok reply := by
  rw [call, Yields, h.bind_append]
  show Yields (f.post headers (action.request params).text >>= fun x => pure (.ok x)) after r ↔ _
  refine Dialogue.yields_bind_pure.trans (exists_congr fun reply => ?_)
  rw [yields_post]

/-- A call has its headers and sends its request, or has none. -/
theorem yields_call {action : Action} {stamp : Stamp} {params : Json.Doc} {events : List Event}
    {x : Except FacilitatorError (Except Http.TransportFault Reply)} :
    Yields (f.call action stamp params) events x ↔
      (∃ e, x = .error e ∧ Yields (requestHeaders f.credentials f.provider action stamp
        (action.request params).text) events (.error e)) ∨
      ∃ before after headers reply, events = before ++ after ∧ x = .ok reply ∧
        f.Headed action stamp (action.request params).text before headers ∧
        f.Sends (f.httpRequest headers (action.request params).text) after reply := by
  constructor
  · intro h
    obtain ⟨before, after, headers, rfl, hheaders, hrest⟩ := Dialogue.yields_bind.1 h
    cases headers with
    | error e =>
      obtain ⟨rfl, rfl⟩ := Dialogue.yields_pure.1 hrest
      rw [List.append_nil]
      exact .inl ⟨e, rfl, hheaders⟩
    | ok headers =>
      obtain ⟨reply, hsent, rfl⟩ := (yields_call_append hheaders).1 h
      exact .inr ⟨before, after, headers, reply, rfl, rfl, hheaders, hsent⟩
  · rintro (⟨e, rfl, hheaders⟩ | ⟨before, after, headers, reply, rfl, rfl, hheaders, hsent⟩)
    · exact Dialogue.yields_bind.2 ⟨events, [], .error e, (List.append_nil _).symm, hheaders,
        Dialogue.yields_pure.2 ⟨rfl, rfl⟩⟩
    · exact (yields_call_append hheaders).2 ⟨reply, hsent, rfl⟩

/-! ## Calls about payments

To verify and to settle take two documents, which are read before anything else is done. -/

/-- Asks about a payment, up to what comes of the request. -/
def ask (f : Facilitator) (action : Action) (stamp : Stamp) (payload requirements : Bytes) :
    Dialogue (Except FacilitatorError (Except Http.TransportFault Reply)) :=
  match PaymentCall.ofTexts payload requirements with
  | .error e => pure (.error e)
  | .ok call => f.call action stamp call.params

/-- Once its request is ready, what is left of asking about a payment is to send it. -/
theorem yields_ask_append {action : Action} {stamp : Stamp} {payload requirements : Bytes}
    {before after : List Event} {request : Http.Request}
    {x : Except FacilitatorError (Except Http.TransportFault Reply)}
    (hp : f.Prepares action stamp payload requirements before request) :
    Yields (f.ask action stamp payload requirements) (before ++ after) x ↔
      ∃ reply, Sends f request after reply ∧ x = .ok reply := by
  obtain ⟨call, headers, hcall, hheaders, rfl⟩ := hp
  rw [ask, hcall]
  exact yields_call_append hheaders

/-- If a call comes down to sending a request, so does whatever is made of its answer. -/
theorem yields_bind_sends {α : Type} {request : Http.Request} {events after : List Event}
    {d : Dialogue (Except FacilitatorError (Except Http.TransportFault Reply))}
    {g : Except Http.TransportFault Reply → Except FacilitatorError α}
    {result : Except FacilitatorError α}
    (h : ∀ x, Yields d events x ↔ ∃ r, Sends f request after r ∧ x = .ok r) :
    Yields (d >>= fun x => pure (x.bind g)) events result ↔
      ∃ r, Sends f request after r ∧ result = g r := by
  rw [Dialogue.yields_bind_pure]
  constructor
  · rintro ⟨x, hx, rfl⟩
    obtain ⟨r, hs, rfl⟩ := (h x).1 hx
    exact ⟨r, hs, rfl⟩
  · rintro ⟨r, hs, rfl⟩
    exact ⟨.ok r, (h _).2 ⟨r, hs, rfl⟩, rfl⟩

end Tollbooth.Facilitator
