import Mathlib.Data.List.Nodup
import Tollbooth.Proofs.Facilitator.Family
/-!
# Extra headers in what is sent

A provider answers with headers for each action, and a name may be there several times.  The headers
for the action that is asked for take the place of those of the same names; of a name that is given
several times only the last value is sent.

Headers have an order and may repeat a name, and a request that has several values for one name is
not the same as one that has the last of them.  What an answer with repeated names should come to is
`AppliedTo`: all of its values are sent, in their order, and what was there under these names is
gone.  What it does come to is `LastAppliedTo`.  The two agree just if no name is repeated, and both
are said for all names at once, because what is added under one name must leave the others alone.

* `Http.Headers.AppliedTo` — extra headers are applied without loss.
* `Facilitator.Errand` — what a client is asked for; `Facilitator.Course` — how that goes on.
* `extra_headers_sent` — what becomes of extra headers, and when none of them is lost.
-/

set_option autoImplicit false

namespace Tollbooth

open Dialogue (Event Yields)

/-! ## Headers by name

Headers are compared by what they have under each name, in order, and not as lists.  How headers of
different names are interleaved is of no account to anybody who receives them. -/

namespace Http.Headers

theorem getAll_ne_nil_iff {headers : Headers} {name : String} :
    headers.getAll name ≠ [] ↔ name ∈ headers.map (·.1) := by
  rw [getAll, ne_eq, List.map_eq_nil_iff, List.filter_eq_nil_iff]
  simp

theorem mem_getAll {headers : Headers} {name : String} {value : Bytes} :
    value ∈ headers.getAll name ↔ (name, value) ∈ headers := by
  simp [getAll]

theorem length_getAll (headers : Headers) (name : String) :
    (headers.getAll name).length = (headers.map (·.1)).count name := by
  rw [getAll, List.length_map, List.count, List.countP_map, List.countP_eq_length_filter]
  rfl

theorem get?_isSome_iff {headers : Headers} {name : String} :
    (headers.get? name).isSome = true ↔ headers.getAll name ≠ [] := by
  rw [get?, Option.isSome_map, List.find?_isSome, getAll_ne_nil_iff]
  simp

/-- Extra headers are applied to others without loss: of every name that they give all values are
sent in their order and no other, and every other name is as it was. -/
structure AppliedTo (extra own sent : Headers) : Prop where
  given : ∀ name ∈ extra.map (·.1), sent.getAll name = extra.getAll name
  other : ∀ name ∉ extra.map (·.1), sent.getAll name = own.getAll name

/-- Of the extra headers of a name the last one is sent, in the place of all that was there. -/
structure LastAppliedTo (extra own sent : Headers) : Prop where
  given : ∀ name ∈ extra.map (·.1), ∃ value, (extra.getAll name).getLast? = some value ∧
    sent.getAll name = [value]
  other : ∀ name ∉ extra.map (·.1), sent.getAll name = own.getAll name

variable {extra own sent : Headers}

/-- **Nothing is lost just if no name is given twice.** -/
theorem LastAppliedTo.appliedTo_iff (h : extra.LastAppliedTo own sent) :
    extra.AppliedTo own sent ↔ (extra.map (·.1)).Nodup := by
  constructor
  · intro happlied
    refine List.nodup_iff_count_le_one.2 fun name => ?_
    by_cases hname : name ∈ extra.map (·.1)
    · obtain ⟨value, -, hvalue⟩ := h.given name hname
      rw [← length_getAll, ← happlied.given name hname, hvalue]
      exact Nat.le_refl 1
    · rw [List.count_eq_zero.2 hname]
      exact Nat.zero_le 1
  · intro hnodup
    refine ⟨fun name hname => ?_, h.other⟩
    obtain ⟨value, hlast, hvalue⟩ := h.given name hname
    have hlength : (extra.getAll name).length = 1 := by
      rw [length_getAll, List.count_eq_one_of_mem hnodup hname]
    obtain ⟨only, honly⟩ := List.length_eq_one_iff.1 hlength
    rw [honly] at hlast ⊢
    cases hlast
    exact hvalue

/-- A header that is sent is one of the extra ones, or was there before. -/
theorem LastAppliedTo.mem_or_mem (h : extra.LastAppliedTo own sent) {field : String × Bytes}
    (hfield : field ∈ sent) : field ∈ extra ∨ field ∈ own := by
  obtain ⟨name, value⟩ := field
  have hsent := mem_getAll.2 hfield
  by_cases hname : name ∈ extra.map (·.1)
  · obtain ⟨last, hlast, hvalue⟩ := h.given name hname
    rw [hvalue, List.mem_singleton] at hsent
    exact .inl (mem_getAll.1 (hsent ▸ List.mem_of_getLast? hlast))
  · rw [h.other name hname] at hsent
    exact .inr (mem_getAll.1 hsent)

end Http.Headers

/-! ## Headers of a request

Between the headers that are made and those that are sent there is one more step: a user in the URL
of the facilitator is named by a header, unless there is one of that name.  An extra header of this
name therefore still takes the place of it. -/

namespace Facilitator

variable {f : Facilitator} {own extra : Http.Headers} {body : Bytes} {name : String}

/-- The headers of a request are those that it is made with; a user whom the URL names is named by a
header unless there is one of this name. -/
theorem getAll_httpRequest_of_user {user : String} {value : Bytes}
    (huser : f.url.userHeader? = some (user, value)) :
    (f.httpRequest own body).headers.getAll name =
      if user = name ∧ own.getAll name = [] then [value] else own.getAll name := by
  rw [httpRequest, Http.Request.make, huser]
  dsimp only
  by_cases hthere : own.getAll user = []
  · rw [if_neg (mt Http.Headers.get?_isSome_iff.1 (not_not_intro hthere))]
    by_cases hname : user = name
    · subst hname
      rw [if_pos ⟨rfl, hthere⟩]
      simpa [Http.Headers.getAll] using hthere
    · rw [if_neg fun h => hname h.1]
      simp [Http.Headers.getAll, hname]
  · rw [if_pos (Http.Headers.get?_isSome_iff.2 hthere), if_neg]
    rintro ⟨rfl, h⟩
    exact hthere h

theorem getAll_httpRequest_congr {headers headers' : Http.Headers}
    (h : headers.getAll name = headers'.getAll name) :
    (f.httpRequest headers body).headers.getAll name =
      (f.httpRequest headers' body).headers.getAll name := by
  cases huser : f.url.userHeader? with
  | none => simpa only [httpRequest, Http.Request.make, huser] using h
  | some user => rw [getAll_httpRequest_of_user huser, getAll_httpRequest_of_user huser, h]

theorem getAll_httpRequest_of_singleton {headers : Http.Headers} {value : Bytes}
    (h : headers.getAll name = [value]) :
    (f.httpRequest headers body).headers.getAll name = [value] := by
  cases huser : f.url.userHeader? with
  | none => simpa only [httpRequest, Http.Request.make, huser] using h
  | some user => simp [getAll_httpRequest_of_user huser, h]

/-- **Of the extra headers of a name the last one is sent.** -/
theorem lastAppliedTo_httpRequest (f : Facilitator) (own extra : Http.Headers) (body : Bytes) :
    extra.LastAppliedTo (f.httpRequest own body).headers
      (f.httpRequest (overlay own extra) body).headers := by
  refine ⟨fun name hname => ?_, fun name hname =>
    getAll_httpRequest_congr (getAll_overlay_of_not_mem hname)⟩
  have hlast := List.getLast?_eq_some_getLast (Http.Headers.getAll_ne_nil_iff.2 hname)
  refine ⟨_, hlast, getAll_httpRequest_of_singleton ?_⟩
  rw [getAll_overlay, hlast]

end Facilitator

/-! ## Whole runs

A provider is asked for the same reason by every call.  `Errand` is what a client can be asked for,
and `Course` is what all errands have in common, so that what is said about a course needs no case
for each of them.  A client that still has an answer sends nothing, and is a course as well. -/

/-- A provider answers once, after its events. -/
theorem Provides.unique {action : Action} {provider : Option HeaderProvider}
    {before before' after after' : List Event} {extra extra' : Http.Headers}
    (h : Provides action provider before extra) (h' : Provides action provider before' extra')
    (heq : before ++ after = before' ++ after') : extra = extra' ∧ after = after' := by
  cases h with
  | nothing =>
    cases h'
    exact ⟨rfl, heq⟩
  | extra run =>
    cases h' with
    | extra run' =>
      obtain ⟨rfl, hextra⟩ := run.prefix_unique run' heq
      exact ⟨by cases hextra; rfl, List.append_cancel_left heq⟩

namespace Facilitator

/-- What a client is asked for. -/
inductive Errand where
  | verify (payload requirements : Bytes)
  | settle (payload requirements : Bytes)
  /-- What is supported, from the kept answer if there is one at the time `asked`. -/
  | supported (asked answered : Nat)
  | supportedUncached

namespace Errand

/-- The action that is asked for. -/
def action : Errand → Action
  | .verify _ _ => .verify
  | .settle _ _ => .settle
  | .supported _ _ | .supportedUncached => .supported

/-- The client does what it is asked for, and these are all the events. -/
inductive Runs (f : Facilitator) (stamp : Stamp) : Errand → List Event → Prop
  | verify {payload requirements : Bytes} {events : List Event}
      {result : Except FacilitatorError Verification}
      (run : Yields (f.verify stamp payload requirements) events result) :
      Runs f stamp (.verify payload requirements) events
  | settle {payload requirements : Bytes} {events : List Event}
      {result : Except FacilitatorError Settlement}
      (run : Yields (f.settle stamp payload requirements) events result) :
      Runs f stamp (.settle payload requirements) events
  | supported {asked answered : Nat} {events : List Event}
      {result : Option (Except FacilitatorError Supported) × Facilitator}
      (run : Yields (f.supported asked answered stamp) events result) :
      Runs f stamp (.supported asked answered) events
  | supportedUncached {events : List Event} {result : Except FacilitatorError Supported}
      (run : Yields (f.supportedUncached stamp) events result) :
      Runs f stamp .supportedUncached events

end Errand

variable {f : Facilitator} {stamp : Stamp} {action : Action} {events before after : List Event}
  {extra : Http.Headers}

/-- How a client goes about an action: it sends nothing; or its provider fails; or its request is
sent, with the extra headers put over its own. -/
inductive Course (f : Facilitator) (action : Action) (stamp : Stamp) : List Event → Prop
  | idle : Course f action stamp []
  | failed {p : HeaderProvider} {events : List Event} {reason : String} (hp : f.provider = some p)
      (run : Yields p events (.error reason)) : Course f action stamp events
  | sent {before after : List Event} {extra : Http.Headers} {body : Bytes}
      {reply : Except Http.TransportFault Reply}
      (provided : Provides action f.provider before extra)
      (sent : f.Sends (f.httpRequest
        (overlay (ownHeaders f.credentials action stamp body) extra) body) after reply) :
      Course f action stamp (before ++ after)

theorem Course.of_headerRun_error {body : Bytes} {e : FacilitatorError}
    (h : HeaderRun f.credentials f.provider action stamp body events (.error e)) :
    Course f action stamp events := by
  cases h with
  | illegal => exact .idle
  | failed _ hp run => exact .failed hp run

theorem Course.of_headerRun_ok {body : Bytes} {headers : Http.Headers}
    {reply : Except Http.TransportFault Reply}
    (h : HeaderRun f.credentials f.provider action stamp body before (.ok headers))
    (sent : f.Sends (f.httpRequest headers body) after reply) :
    Course f action stamp (before ++ after) := by
  cases h with
  | made _ provided => exact .sent provided sent

theorem PaymentRun.course {payload requirements : Bytes}
    {x : Except FacilitatorError (Except Http.TransportFault Reply)}
    (h : f.PaymentRun action stamp payload requirements events x) :
    Course f action stamp events := by
  cases h with
  | refused => exact .idle
  | unheaded _ headed => exact .of_headerRun_error headed
  | sent _ headed sent => exact .of_headerRun_ok headed sent

theorem SupportedRun.course {result : Except FacilitatorError Supported}
    (h : f.SupportedRun stamp events result) : Course f .supported stamp events := by
  cases h with
  | unheaded headed => exact .of_headerRun_error headed
  | sent headed sent => exact .of_headerRun_ok headed sent

/-- Whatever a client is asked for, it goes about it in this way. -/
theorem Errand.Runs.course (hstamp : Http.isValue (Bytes.ofString stamp.requestId) = true)
    {errand : Errand} (h : errand.Runs f stamp events) : Course f errand.action stamp events := by
  cases h with
  | verify run =>
    rw [verify_eq_ask, Dialogue.yields_bind_pure] at run
    obtain ⟨x, hx, -⟩ := run
    exact ((yields_ask hstamp).1 hx).course
  | settle run =>
    rw [settle_eq_ask, Dialogue.yields_bind_pure] at run
    obtain ⟨x, hx, -⟩ := run
    exact ((yields_ask hstamp).1 hx).course
  | @supported asked answered _ _ run =>
    cases hkept : f.cache.get? asked with
    | some s =>
      rw [supported_of_some hkept, Dialogue.yields_pure] at run
      obtain ⟨rfl, -⟩ := run
      exact .idle
    | none =>
      rw [supported_of_none hkept, Dialogue.yields_bind_pure] at run
      obtain ⟨result, hresult, -⟩ := run
      exact ((yields_supportedUncached hstamp).1 hresult).course
  | supportedUncached run => exact ((yields_supportedUncached hstamp).1 run).course

/-- The headers that a request for an action has unless there are extra ones. -/
def defaultHeaders (f : Facilitator) (action : Action) (stamp : Stamp) (body : Bytes) :
    Http.Headers :=
  (f.httpRequest (ownHeaders f.credentials action stamp body) body).headers

/-- After a provider has answered, one request is sent at most, with the extra headers put over the
default ones. -/
theorem Course.requests_eq (h : Course f action stamp (before ++ after))
    (hprovided : Provides action f.provider before extra) :
    requests after = [] ∨ ∃ request body, requests after = [request] ∧
      request.body = .bytes body ∧
      extra.LastAppliedTo (f.defaultHeaders action stamp body) request.headers := by
  generalize heq : before ++ after = events at h
  cases h with
  | idle =>
    rw [(List.append_eq_nil_iff.1 heq).2]
    exact .inl rfl
  | failed hp run =>
    rw [hp] at hprovided
    cases hprovided with
    | extra run' =>
      obtain ⟨-, hanswer⟩ := run'.prefix_unique run (heq.trans (List.append_nil _).symm)
      cases hanswer
  | @sent _ _ _ body _ provided sent =>
    obtain ⟨rfl, rfl⟩ := hprovided.unique provided heq
    rw [sent.requests_eq]
    split
    · exact .inr ⟨_, body, rfl, body_httpRequest, lastAppliedTo_httpRequest f _ extra body⟩
    · exact .inl rfl

end Facilitator

/-- **What becomes of extra headers.**  After its provider has answered, a client sends one request
at most.  Of the headers that the answer has for the action, the last one of each name is sent, in
the place of the default ones of the name; every other name has its default headers; and nothing
else is sent.  So the headers are applied without loss just if the answer gives no name twice for
the action. -/
theorem extra_headers_sent {f : Facilitator} {p : HeaderProvider} {answer : ExtraHeaders}
    {errand : Facilitator.Errand} {time : Nat} {random : Octets 16} {before after : List Event}
    (hp : f.provider = some p) (hanswer : Yields p before (.ok answer))
    (hrun : errand.Runs f (.ofRandom time random) (before ++ after)) :
    Facilitator.requests after = [] ∨ ∃ request body extra own,
      Facilitator.requests after = [request] ∧ request.body = .bytes body ∧
      extra = answer.headersFor errand.action ∧
      own = f.defaultHeaders errand.action (.ofRandom time random) body ∧
      extra.LastAppliedTo own request.headers ∧
      (∀ field ∈ request.headers, field ∈ extra ∨ field ∈ own) ∧
      (extra.AppliedTo own request.headers ↔ (extra.map (·.1)).Nodup) := by
  have hprovided : Provides errand.action f.provider before (answer.headersFor errand.action) := by
    rw [hp]
    exact .extra hanswer
  refine ((hrun.course (Stamp.isValue_requestId time random)).requests_eq hprovided).imp_right ?_
  rintro ⟨request, body, hrequests, hbody, hlast⟩
  exact ⟨request, body, _, _, hrequests, hbody, rfl, rfl, hlast, fun _ => hlast.mem_or_mem,
    hlast.appliedTo_iff⟩

/-- Extra headers of which one is given twice, for the question what is supported. -/
def repeatedHeaders : ExtraHeaders where
  verify := [("x-tenant", Bytes.ofString "c")]
  settle := []
  supported := [("x-tenant", Bytes.ofString "a"), ("x-tenant", Bytes.ofString "b")]

/-- A facilitator that is called with these headers. -/
def repeatingFacilitator : Facilitator := plainFacilitator.withProvider (pure (.ok repeatedHeaders))

/-- A request with these headers that is not delivered. -/
theorem runs_repeatingFacilitator : ∃ request,
    Facilitator.Errand.supportedUncached.Runs repeatingFacilitator (.ofRandom 7 default)
      [.sent request (.failed .undelivered)] := by
  have hanswer : Yields (pure (.ok repeatedHeaders) : HeaderProvider) [] (.ok repeatedHeaders) :=
    Dialogue.yields_pure.2 ⟨rfl, rfl⟩
  have hheaded : HeaderRun none (some (pure (.ok repeatedHeaders))) .supported (.ofRandom 7 default)
      Facilitator.supportedBody [] (.ok _) := .made rfl (.extra hanswer)
  have hrun : repeatingFacilitator.SupportedRun (.ofRandom 7 default) _ _ :=
    .sent hheaded (.failed .undelivered (Facilitator.hasHost_httpRequest.trans rfl))
  exact ⟨_, .supportedUncached
    ((Facilitator.yields_supportedUncached (Stamp.isValue_requestId 7 default)).2 hrun)⟩

/-- Of a header that is given twice the last value is sent, and so one is lost. -/
theorem extra_headers_sent_repeated : ∃ request own,
    repeatingFacilitator.provider = some (pure (.ok repeatedHeaders)) ∧
      Yields (pure (.ok repeatedHeaders) : HeaderProvider) [] (.ok repeatedHeaders) ∧
      Facilitator.Errand.supportedUncached.Runs repeatingFacilitator (.ofRandom 7 default)
        [.sent request (.failed .undelivered)] ∧
      request.headers.getAll "x-tenant" = [Bytes.ofString "b"] ∧
      ¬ Http.Headers.AppliedTo repeatedHeaders.supported own request.headers := by
  obtain ⟨request, hrun⟩ := runs_repeatingFacilitator
  have hanswer : Yields (pure (.ok repeatedHeaders) : HeaderProvider) [] (.ok repeatedHeaders) :=
    Dialogue.yields_pure.2 ⟨rfl, rfl⟩
  have hafter : Facilitator.Errand.supportedUncached.Runs repeatingFacilitator
      (.ofRandom 7 default) ([] ++ [.sent request (.failed .undelivered)]) := hrun
  obtain hnone | ⟨_, body, _, own, hrequest, -, rfl, -, hlast, -, hlossless⟩ :=
    extra_headers_sent rfl hanswer hafter
  · cases hnone
  · cases hrequest
    obtain ⟨value, hvalue, hsent⟩ := hlast.given "x-tenant" List.mem_cons_self
    cases hvalue
    exact ⟨request, own, rfl, hanswer, hrun, hsent, fun h => by
      exact absurd (hlossless.1 h) (by decide)⟩

/-- Extra headers are not always applied without loss. -/
theorem extra_header_lost : ¬ ∀ (f : Facilitator) (p : HeaderProvider) (answer : ExtraHeaders)
    (errand : Facilitator.Errand) (time : Nat) (random : Octets 16) (before after : List Event)
    (request : Http.Request) (body : Bytes), f.provider = some p → Yields p before (.ok answer) →
      errand.Runs f (.ofRandom time random) (before ++ after) →
      request ∈ Facilitator.requests after → request.body = .bytes body →
        (answer.headersFor errand.action).AppliedTo
          (f.defaultHeaders errand.action (.ofRandom time random) body) request.headers := by
  intro h
  obtain ⟨request, hrun⟩ := runs_repeatingFacilitator
  have hanswer : Yields (pure (.ok repeatedHeaders) : HeaderProvider) [] (.ok repeatedHeaders) :=
    Dialogue.yields_pure.2 ⟨rfl, rfl⟩
  have hafter : Facilitator.Errand.supportedUncached.Runs repeatingFacilitator
      (.ofRandom 7 default) ([] ++ [.sent request (.failed .undelivered)]) := hrun
  have hcourse := hafter.course (Stamp.isValue_requestId 7 default)
  obtain hnone | ⟨_, body, hrequest, hbody, hlast⟩ := hcourse.requests_eq (.extra hanswer)
  · cases hnone
  · cases hrequest
    have happlied := h _ _ _ _ _ _ [] _ request body rfl hanswer hrun List.mem_cons_self hbody
    exact absurd (hlast.appliedTo_iff.1 happlied) (by decide)

end Tollbooth
