import Mathlib.Data.List.Pairwise
import Tollbooth.Facilitator.Family
import Tollbooth.Proofs.Facilitator.Request
/-!
# What is kept of what a facilitator supports, over whole runs

Several clients are used beside each other, and some of them are made on the way.  What a client
keeps is told by its history alone: the answers that it has stored since it was last cleared.

A client has room for one answer, with the time at which it becomes too old.  A history has all of
them, with the times at which they were stored, and says what ought to be given: the latest answer
that is not too old.  That the two come to the same is not a matter of the definitions but of the
clock.  If it never goes back, the answer that was stored last is also the one that lasts longest,
so when it is too old then so are all that were stored before it.  This is the only use that is made
of the clock, and `ClientHistory.Settled` carries it through a run.

The time at which an answer becomes too old must be one that the clock can show.  An answer that
would last longer is not kept; the client breaks off when it tries to, and whoever asked for the
answer does not get it.  Nothing else changes, so that the other clients are not concerned, and
neither is whatever this one is asked next.

* `Facilitator.SupportedRun` — all that can come of asking what is supported.
* `ClientHistory` — a client as its history tells it; `ClientHistory.latest?` — the latest stored
  answer that is not too old.
* `ClientHistory.Does` — what can come of one thing that is done with a client.
* `Facilitator.Happens`, `Facilitator.Runs` — what can come of one act and of several, with a
  history for each client.
* `supported_runs` — clients do what this says, each of them as if there were no others.
-/

set_option autoImplicit false

namespace Tollbooth

open Dialogue (Event Live World Yields)
open Facilitator (Act Answer Deed)

/-- What the clock shows when something is done. -/
def Facilitator.Deed.readings : Deed → List Nat
  | .supported asked answered _ _ => [asked, answered]
  | _ => []

/-- What the clock shows when several things are done. -/
def Facilitator.readings (as : List Act) : List Nat := as.flatMap (·.deed.readings)

/-! ## Asking what is supported

To ask is to make headers and to send one request.  What a client keeps only decides whether it
asks, and what it does with the answer. -/

namespace Facilitator

theorem Answer.ofCall_eq_supported {call : Option (Except FacilitatorError Supported)}
    {result : Except FacilitatorError Supported} :
    Answer.ofCall call = .supported result ↔ call = some result := by
  cases call with
  | none => exact ⟨nofun, nofun⟩
  | some => exact ⟨fun h => congrArg some (Answer.supported.inj h), fun h => by cases h; rfl⟩

theorem Answer.ofCall_eq_brokenOff {call : Option (Except FacilitatorError Supported)} :
    Answer.ofCall call = .brokenOff ↔ call = none := by
  cases call with
  | none => exact ⟨fun _ => rfl, fun _ => rfl⟩
  | some => exact ⟨nofun, nofun⟩

variable {f : Facilitator} {stamp : Stamp} {events : List Event}
  {result : Except FacilitatorError Supported}

/-- The body of a request that asks what is supported. -/
def supportedBody : Bytes := (Action.supported.request (.ofMembers [])).text

/-- What a client makes of what came of its request. -/
def supportedOf : Except Http.TransportFault Reply → Except FacilitatorError Supported
  | .error fault => .error (.transport .supported fault)
  | .ok reply => reply.supported

/-- All that can come of asking what is supported. -/
inductive SupportedRun (f : Facilitator) (stamp : Stamp) :
    List Event → Except FacilitatorError Supported → Prop
  /-- The request has no headers. -/
  | unheaded {events : List Event} {e : FacilitatorError}
      (h : HeaderRun f.credentials f.provider .supported stamp supportedBody events (.error e)) :
      SupportedRun f stamp events (.error e)
  | sent {headers : Http.Headers} {before after : List Event}
      {reply : Except Http.TransportFault Reply}
      (headed : HeaderRun f.credentials f.provider .supported stamp supportedBody before
        (.ok headers))
      (sent : f.Sends (f.httpRequest headers supportedBody) after reply) :
      SupportedRun f stamp (before ++ after) (supportedOf reply)

theorem supportedUncached_eq :
    f.supportedUncached stamp =
      f.call .supported stamp (.ofMembers []) >>= fun x => pure (x.bind supportedOf) := by
  rw [supportedUncached]
  refine congrArg (f.call .supported stamp (.ofMembers []) >>= ·) (funext fun x => ?_)
  rcases x with e | fault | reply <;> rfl

/-- **What comes of asking what is supported.** -/
theorem yields_supportedUncached (hstamp : Http.isValue (Bytes.ofString stamp.requestId) = true) :
    Yields (f.supportedUncached stamp) events result ↔ f.SupportedRun stamp events result := by
  rw [supportedUncached_eq, Dialogue.yields_bind_pure]
  constructor
  · rintro ⟨x, hcall, rfl⟩
    obtain ⟨e, rfl, hheaders⟩ | ⟨before, after, headers, reply, rfl, rfl, hheaders, hsent⟩ :=
      yields_call.1 hcall
    · exact .unheaded ((yields_requestHeaders hstamp).1 hheaders)
    · exact .sent ((yields_requestHeaders hstamp).1 hheaders) hsent
  · intro h
    cases h with
    | unheaded hheaders =>
      exact ⟨_, yields_call.2 (.inl ⟨_, rfl, (yields_requestHeaders hstamp).2 hheaders⟩), rfl⟩
    | sent hheaders hsent =>
      exact ⟨_, yields_call.2 (.inr ⟨_, _, _, _, rfl, rfl,
        (yields_requestHeaders hstamp).2 hheaders, hsent⟩), rfl⟩

/-- **One request is sent**, unless its headers cannot be had or there is nowhere to send it.  It
comes after all that the provider of extra headers does. -/
theorem SupportedRun.requests_eq (h : f.SupportedRun stamp events result) :
    (∃ e, result = .error e ∧
      HeaderRun f.credentials f.provider .supported stamp supportedBody events (.error e)) ∨
    ∃ before after headers, events = before ++ after ∧
      HeaderRun f.credentials f.provider .supported stamp supportedBody before (.ok headers) ∧
      requests after = if f.url.hasHost then [f.httpRequest headers supportedBody] else [] := by
  cases h with
  | unheaded hheaders => exact .inl ⟨_, rfl, hheaders⟩
  | sent hheaders hsent =>
    refine .inr ⟨_, _, _, rfl, hheaders, ?_⟩
    rw [hsent.requests_eq, hasHost_httpRequest]

theorem keep_of_lt {now : Nat} {s : Supported}
    (h : now + f.cache.lifetime < SupportedCache.clockEnd) :
    f.keep now (.ok s) =
      (some (.ok s), { f with cache := ⟨f.cache.lifetime, some (s, now + f.cache.lifetime)⟩ }) := by
  rw [keep, SupportedCache.set?, if_pos h]

/-- What would expire beyond the end of the clock is not kept, and not even given. -/
theorem keep_of_le {now : Nat} {s : Supported}
    (h : SupportedCache.clockEnd ≤ now + f.cache.lifetime) : f.keep now (.ok s) = (none, f) := by
  rw [keep, SupportedCache.set?, if_neg (Nat.not_lt.2 h)]

theorem supported_of_some {asked answered : Nat} {s : Supported}
    (h : f.cache.get? asked = some s) :
    f.supported asked answered stamp = pure (some (.ok s), f) := by
  rw [supported, h]

theorem supported_of_none {asked answered : Nat} (h : f.cache.get? asked = none) :
    f.supported asked answered stamp =
      f.supportedUncached stamp >>= fun result => pure (f.keep answered result) := by
  rw [supported, h]

/-- The provider of extra headers always answers, if there is one. -/
def Responds (f : Facilitator) : Prop := ∀ p, f.provider = some p → Live p

theorem Responds.live_supportedUncached
    (hstamp : Http.isValue (Bytes.ofString stamp.requestId) = true) (h : f.Responds) :
    Live (f.supportedUncached stamp) := by
  rw [supportedUncached_eq]
  exact (live_call hstamp h).bind fun _ => Dialogue.live_done _

end Facilitator

/-! ## The history of a client

The settings of a client never change, and what is made of one begins with the settings that it was
made with and with nothing stored.  So a history is a pair: the settings, and what was stored.  The
cache of the settings counts only for how long an answer lasts. -/

/-- A client as its history tells it. -/
structure ClientHistory where
  /-- The client, up to what it keeps. -/
  settings : Facilitator
  /-- The answers that were stored since the client was last cleared, each with the time; the latest
  comes first. -/
  stored : List (Nat × Supported)

namespace ClientHistory

/-- A client that has stored nothing. -/
def start (f : Facilitator) : ClientHistory := ⟨f, []⟩

/-- How long an answer is kept. -/
def lifetime (h : ClientHistory) : Nat := h.settings.cache.lifetime

/-- The client with this history: it keeps the latest answer. -/
def client (h : ClientHistory) : Facilitator :=
  { h.settings with
    cache := ⟨h.lifetime, h.stored.head?.map fun e => (e.2, e.1 + h.lifetime)⟩ }

/-- The latest stored answer that is not too old. -/
def latest? (h : ClientHistory) (now : Nat) : Option Supported :=
  (h.stored.find? fun e => now < e.1 + h.lifetime).map (·.2)

/-- The history with another answer. -/
def store (h : ClientHistory) (now : Nat) (s : Supported) : ClientHistory :=
  { h with stored := (now, s) :: h.stored }

/-- The histories of the clients that are made. -/
def offspring (h : ClientHistory) : Deed → List ClientHistory
  | .derive how => [start (h.settings.derive how)]
  | _ => []

/-- All that can come of one thing that is done with a client: the events, the answer, and the
history afterwards. -/
inductive Does (h : ClientHistory) : Deed → List Event → Answer → ClientHistory → Prop
  /-- A stored answer is given, and nothing is sent. -/
  | kept {asked answered time : Nat} {random : Octets 16} {s : Supported}
      (fresh : h.latest? asked = some s) :
      Does h (.supported asked answered time random) [] (.supported (.ok s)) h
  /-- A new answer is stored. -/
  | stored {asked answered time : Nat} {random : Octets 16} {events : List Event} {s : Supported}
      (stale : h.latest? asked = none)
      (run : h.settings.SupportedRun (.ofRandom time random) events (.ok s))
      (expires : answered + h.lifetime < SupportedCache.clockEnd) :
      Does h (.supported asked answered time random) events (.supported (.ok s))
        (h.store answered s)
  /-- A new answer would expire beyond the end of the clock: it is not given, and nothing
  changes. -/
  | brokenOff {asked answered time : Nat} {random : Octets 16} {events : List Event} {s : Supported}
      (stale : h.latest? asked = none)
      (run : h.settings.SupportedRun (.ofRandom time random) events (.ok s))
      (endless : SupportedCache.clockEnd ≤ answered + h.lifetime) :
      Does h (.supported asked answered time random) events .brokenOff h
  /-- There is no answer, and nothing changes. -/
  | failed {asked answered time : Nat} {random : Octets 16} {events : List Event}
      {e : FacilitatorError} (stale : h.latest? asked = none)
      (run : h.settings.SupportedRun (.ofRandom time random) events (.error e)) :
      Does h (.supported asked answered time random) events (.supported (.error e)) h
  | uncached {time : Nat} {random : Octets 16} {events : List Event}
      {result : Except FacilitatorError Supported}
      (run : h.settings.SupportedRun (.ofRandom time random) events result) :
      Does h (.supportedUncached time random) events (.supported result) h
  | clear : Does h .clear [] .nothing (start h.settings)
  | derive (how : Derivation) : Does h (.derive how) [] .nothing h

variable {h h' : ClientHistory} {events : List Event}

theorem client_derive (how : Derivation) :
    h.client.derive how = (start (h.settings.derive how)).client := by
  cases how <;> rfl

theorem eq_start_of_mem_offspring {d : Deed} (hmade : h' ∈ h.offspring d) :
    ∃ f, h' = start f := by
  cases d with
  | derive how => exact ⟨_, List.mem_singleton.1 hmade⟩
  | supported | supportedUncached | clear => cases hmade

/-! ## Times

A client that is used later sees later times.  `Settled` says so of everything that is stored, for
the times that are still to come; each thing that is done takes its own times from the front of
these, and what is stored by it is stored at the last of them. -/

/-- The answers were stored one after the other, and before these times. -/
structure Settled (h : ClientHistory) (later : List Nat) : Prop where
  ordered : h.stored.Pairwise fun a b => b.1 ≤ a.1
  before : ∀ e ∈ h.stored, ∀ t ∈ later, e.1 ≤ t

theorem settled_start (f : Facilitator) (later : List Nat) : (start f).Settled later :=
  ⟨.nil, nofun⟩

theorem Settled.drop {sooner later : List Nat} (hs : h.Settled (sooner ++ later)) :
    h.Settled later :=
  ⟨hs.ordered, fun e he t ht => hs.before e he t (List.mem_append_right sooner ht)⟩

/-- The latest answer is the last one to become too old, so a client needs to keep no other. -/
theorem Settled.get?_eq_latest? {later : List Nat} (hs : h.Settled later) (now : Nat) :
    h.client.cache.get? now = h.latest? now := by
  cases hstored : h.stored with
  | nil => simp [SupportedCache.get?, client, latest?, hstored]
  | cons e older =>
    have hordered := hs.ordered
    rw [hstored, List.pairwise_cons] at hordered
    by_cases hnow : now < e.1 + h.lifetime
    · simp [SupportedCache.get?, client, latest?, hstored, hnow]
    · have hold : ∀ a ∈ older, ¬ now < a.1 + h.lifetime := by
        intro a ha
        have hle := hordered.1 a ha
        omega
      have hnone : older.find? (fun a => now < a.1 + h.lifetime) = none := by
        simpa using hold
      simp [SupportedCache.get?, client, latest?, hstored, hnone, hnow, Nat.le_of_not_lt hnow]

/-- What is not kept for any time is not given again. -/
theorem Settled.latest?_eq_none {later : List Nat} {now : Nat} (hs : h.Settled later)
    (hnow : now ∈ later) (hlifetime : h.lifetime = 0) : h.latest? now = none := by
  rw [latest?, Option.map_eq_none_iff, List.find?_eq_none]
  intro e he hlt
  have hle := hs.before e he now hnow
  have := of_decide_eq_true hlt
  omega

/-- Answers are stored in order, if the clock does not go back. -/
theorem Does.settled {d : Deed} {answer : Answer} {later : List Nat}
    (hd : h.Does d events answer h') (hs : h.Settled (d.readings ++ later))
    (hclock : (d.readings ++ later).Pairwise (· ≤ ·)) : h'.Settled later := by
  cases hd with
  | kept | brokenOff | failed | uncached | derive => exact hs.drop
  | clear => exact settled_start _ later
  | @stored asked answered =>
    have hlater : ∀ t ∈ later, answered ≤ t := (List.pairwise_cons.1 hclock.tail).1
    refine ⟨.cons (fun e he => ?_) hs.ordered, fun e he => ?_⟩
    · exact hs.before e he answered (.tail _ (.head _))
    · obtain rfl | he := List.mem_cons.1 he
      · exact hlater
      · exact hs.drop.before e he

/-! ## One client

The cases of `Does` are those of the program, with the history in the place of the client.  While a
history is settled its client finds the same answer as the history, so a run of the one is a run of
the other, deed by deed. -/

/-- What a client keeps changes nothing about asking past it. -/
theorem yields_supportedUncached {time : Nat} {random : Octets 16}
    {result : Except FacilitatorError Supported} :
    Yields (h.client.supportedUncached (.ofRandom time random)) events result ↔
      h.settings.SupportedRun (.ofRandom time random) events result := by
  show Yields (h.settings.supportedUncached _) events result ↔ _
  exact Facilitator.yields_supportedUncached (Stamp.isValue_requestId time random)

/-- An answer that the clock can date is stored. -/
theorem client_keep_of_lt {now : Nat} {s : Supported}
    (hexpires : now + h.lifetime < SupportedCache.clockEnd) :
    h.client.keep now (.ok s) = (some (.ok s), (h.store now s).client) :=
  Facilitator.keep_of_lt (f := h.client) hexpires

theorem client_keep_of_le {now : Nat} {s : Supported}
    (hendless : SupportedCache.clockEnd ≤ now + h.lifetime) :
    h.client.keep now (.ok s) = (none, h.client) :=
  Facilitator.keep_of_le (f := h.client) hendless

theorem yields_supported {later : List Nat} (hs : h.Settled later) {asked answered time : Nat}
    {random : Octets 16} {result : Option (Except FacilitatorError Supported)} {f : Facilitator} :
    Yields (h.client.supported asked answered (.ofRandom time random)) events (result, f) ↔
      ∃ h', h.Does (.supported asked answered time random) events (.ofCall result) h' ∧
        f = h'.client := by
  have hget := hs.get?_eq_latest? asked
  cases hlatest : h.latest? asked with
  | some s =>
    rw [Facilitator.supported_of_some (hget.trans hlatest), Dialogue.yields_pure]
    constructor
    · rintro ⟨rfl, ⟨⟩⟩
      exact ⟨h, .kept hlatest, rfl⟩
    · rintro ⟨h', hdoes, rfl⟩
      generalize hanswer : Answer.ofCall result = answer at hdoes
      cases hdoes with
      | kept fresh =>
        cases hlatest.symm.trans fresh
        rw [Answer.ofCall_eq_supported.1 hanswer]
        exact ⟨rfl, rfl⟩
      | stored stale | brokenOff stale | failed stale => cases hlatest.symm.trans stale
  | none =>
    rw [Facilitator.supported_of_none (hget.trans hlatest), Dialogue.yields_bind_pure]
    constructor
    · rintro ⟨told, hrun, hended⟩
      have hrun := yields_supportedUncached.1 hrun
      cases told with
      | error e =>
        cases hended
        exact ⟨h, .failed hlatest hrun, rfl⟩
      | ok s =>
        obtain hexpires | hendless := Nat.lt_or_ge (answered + h.lifetime) SupportedCache.clockEnd
        · rw [client_keep_of_lt hexpires] at hended
          cases hended
          exact ⟨_, .stored hlatest hrun hexpires, rfl⟩
        · rw [client_keep_of_le hendless] at hended
          cases hended
          exact ⟨h, .brokenOff hlatest hrun hendless, rfl⟩
    · rintro ⟨h', hdoes, rfl⟩
      generalize hanswer : Answer.ofCall result = answer at hdoes
      cases hdoes with
      | kept fresh => cases hlatest.symm.trans fresh
      | stored _ run hexpires =>
        rw [Answer.ofCall_eq_supported.1 hanswer, ← client_keep_of_lt hexpires]
        exact ⟨_, yields_supportedUncached.2 run, rfl⟩
      | brokenOff _ run hendless =>
        rw [Answer.ofCall_eq_brokenOff.1 hanswer, ← client_keep_of_le hendless]
        exact ⟨_, yields_supportedUncached.2 run, rfl⟩
      | failed _ run =>
        rw [Answer.ofCall_eq_supported.1 hanswer]
        exact ⟨_, yields_supportedUncached.2 run, rfl⟩

/-- **A client does what its history says.** -/
theorem yields_does {later : List Nat} (hs : h.Settled later) {d : Deed} {answer : Answer}
    {f : Facilitator} {made : List Facilitator} :
    Yields (h.client.does d) events (answer, f, made) ↔
      ∃ h', h.Does d events answer h' ∧ f = h'.client ∧ made = (h.offspring d).map client := by
  cases d with
  | supported asked answered time random =>
    refine Dialogue.yields_bind_pure.trans ?_
    constructor
    · rintro ⟨⟨result, f⟩, hrun, ⟨⟩⟩
      obtain ⟨h', hdoes, rfl⟩ := (yields_supported hs).1 hrun
      exact ⟨h', hdoes, rfl, rfl⟩
    · rintro ⟨h', hdoes, rfl, rfl⟩
      obtain ⟨result, rfl⟩ : ∃ result, answer = .ofCall result := by
        cases hdoes with
        | kept | stored | failed => exact ⟨some _, rfl⟩
        | brokenOff => exact ⟨none, rfl⟩
      exact ⟨(result, h'.client), (yields_supported hs).2 ⟨h', hdoes, rfl⟩, rfl⟩
  | supportedUncached time random =>
    refine Dialogue.yields_bind_pure.trans ?_
    constructor
    · rintro ⟨result, hrun, ⟨⟩⟩
      exact ⟨h, .uncached (yields_supportedUncached.1 hrun), rfl, rfl⟩
    · rintro ⟨h', hdoes, rfl, rfl⟩
      cases hdoes with
      | uncached run => exact ⟨_, yields_supportedUncached.2 run, rfl⟩
  | clear =>
    rw [Facilitator.does, Dialogue.yields_pure]
    constructor
    · rintro ⟨rfl, ⟨⟩⟩
      exact ⟨_, .clear, rfl, rfl⟩
    · rintro ⟨h', hdoes, rfl, rfl⟩
      cases hdoes
      exact ⟨rfl, rfl⟩
  | derive how =>
    rw [Facilitator.does, Dialogue.yields_pure]
    constructor
    · rintro ⟨rfl, ⟨⟩⟩
      exact ⟨h, .derive how, rfl, by rw [client_derive]; rfl⟩
    · rintro ⟨h', hdoes, rfl, rfl⟩
      cases hdoes
      exact ⟨rfl, by rw [client_derive]; rfl⟩

end ClientHistory

/-! ## Several clients

A deed is done with one of several clients, and those that it makes come behind all others.  So a
client keeps its place, and what happens to it in a run can be taken out of the run by looking at
its place only.  That every history stays settled is shown for one deed and then along the run; with
this the step from one deed to several is an induction on the deeds. -/

/-- Something that was done with a client, with all that came of it. -/
structure Facilitator.Occurrence extends Act where
  events : List Event
  answer : Answer

/-- All that can come of something that is done with a client among others: the events, the answer,
and the histories afterwards. -/
inductive Facilitator.Happens (histories : List ClientHistory) (a : Act) :
    List Event → Answer → List ClientHistory → Prop
  | here {h h' : ClientHistory} {events : List Event} {answer : Answer}
      (found : histories[a.place]? = some h) (does : h.Does a.deed events answer h') :
      Happens histories a events answer (histories.set a.place h' ++ h.offspring a.deed)
  /-- There is no such client. -/
  | nowhere (missing : histories[a.place]? = none) : Happens histories a [] .nothing histories

/-- All that can come of several things, one after the other. -/
inductive Facilitator.Runs : List ClientHistory → List Occurrence → List ClientHistory → Prop
  | nil (histories : List ClientHistory) : Runs histories [] histories
  | cons {histories next last : List ClientHistory} {o : Occurrence} {trace : List Occurrence}
      (one : Happens histories o.toAct o.events o.answer next) (others : Runs next trace last) :
      Runs histories (o :: trace) last

open Facilitator (Happens Occurrence Runs readings)

/-- All that can come of several things that are done with a single client. -/
inductive ClientHistory.Runs : ClientHistory → List Occurrence → ClientHistory → Prop
  | nil (h : ClientHistory) : Runs h [] h
  | cons {h next last : ClientHistory} {o : Occurrence} {trace : List Occurrence}
      (one : h.Does o.deed o.events o.answer next) (others : Runs next trace last) :
      Runs h (o :: trace) last

variable {histories histories' : List ClientHistory} {trace : List Occurrence} {a : Act}
  {as : List Act} {events : List Event} {answer : Answer} {answers : List Answer}
  {clients : List Facilitator}

/-- Nothing happens to a client but what is done with it. -/
theorem Facilitator.Happens.getElem?_eq (hone : Happens histories a events answer histories')
    {i : Nat} {h : ClientHistory} (hi : histories[i]? = some h) :
    (a.place = i ∧ ∃ h', h.Does a.deed events answer h' ∧ histories'[i]? = some h') ∨
      (a.place ≠ i ∧ histories'[i]? = some h) := by
  have hlt : i < histories.length := (List.getElem?_eq_some_iff.1 hi).1
  cases hone with
  | @here found h' _ _ hfound does =>
    have hlt' : i < (histories.set a.place h').length := by rwa [List.length_set]
    by_cases hplace : a.place = i
    · rw [hplace] at hfound ⊢
      cases hi.symm.trans hfound
      exact .inl ⟨rfl, h', does, by simp [List.getElem?_append, hlt]⟩
    · refine .inr ⟨hplace, ?_⟩
      rw [List.getElem?_append_left hlt', List.getElem?_set_ne hplace, hi]
  | nowhere missing =>
    refine .inr ⟨fun hplace => ?_, hi⟩
    rw [hplace, hi] at missing
    cases missing

/-- **A client is not touched by the others.**  What comes of all that is done with it in a run is
what can come of that alone. -/
theorem Facilitator.Runs.alone (hruns : Runs histories trace histories') {i : Nat}
    {h : ClientHistory} (hi : histories[i]? = some h) :
    ∃ h', histories'[i]? = some h' ∧ h.Runs (trace.filter (·.place = i)) h' := by
  induction hruns generalizing h with
  | nil => exact ⟨h, hi, .nil h⟩
  | @cons _ _ _ o trace one others ih =>
    obtain ⟨hplace, next, hdoes, hnext⟩ | ⟨hplace, hnext⟩ := one.getElem?_eq hi
    · obtain ⟨h', hi', hothers⟩ := ih hnext
      rw [List.filter_cons_of_pos (by simpa using hplace)]
      exact ⟨h', hi', .cons hdoes hothers⟩
    · rw [List.filter_cons_of_neg (by simpa using hplace)]
      exact ih hnext

/-- Whatever happens to one of several clients, they all keep their answers in order. -/
theorem Facilitator.Happens.settled {later : List Nat}
    (hone : Happens histories a events answer histories')
    (hs : ∀ h ∈ histories, h.Settled (a.deed.readings ++ later))
    (hclock : (a.deed.readings ++ later).Pairwise (· ≤ ·)) : ∀ h ∈ histories', h.Settled later := by
  cases hone with
  | nowhere => exact fun h hh => (hs h hh).drop
  | @here found h' _ _ hfound does =>
    intro h hh
    obtain hset | hmade := List.mem_append.1 hh
    · obtain hkept | rfl := List.mem_or_eq_of_mem_set hset
      · exact (hs h hkept).drop
      · exact does.settled (hs found (List.mem_of_getElem? hfound)) hclock
    · obtain ⟨f, rfl⟩ := ClientHistory.eq_start_of_mem_offspring hmade
      exact ClientHistory.settled_start f later

theorem Facilitator.Runs.settled {later : List Nat} (hruns : Runs histories trace histories')
    (hs : ∀ h ∈ histories, h.Settled (readings (trace.map (·.toAct)) ++ later))
    (hclock : (readings (trace.map (·.toAct)) ++ later).Pairwise (· ≤ ·)) :
    ∀ h ∈ histories', h.Settled later := by
  induction hruns with
  | nil => exact fun h hh => (hs h hh).drop
  | cons one _ ih =>
    rw [List.map_cons, readings, List.flatMap_cons, List.append_assoc] at hs hclock
    exact ih (one.settled hs hclock) (List.pairwise_append.1 hclock).2.1

/-- Something is done with a client as its history says. -/
theorem Facilitator.yields_act {later : List Nat} (hs : ∀ h ∈ histories, h.Settled later) :
    Yields (Facilitator.act (histories.map (·.client)) a) events (answer, clients) ↔
      ∃ histories', Happens histories a events answer histories' ∧
        clients = histories'.map (·.client) := by
  rw [Facilitator.act, List.getElem?_map]
  cases hfound : histories[a.place]? with
  | none =>
    rw [Option.map_none]
    refine Dialogue.yields_pure.trans ?_
    constructor
    · rintro ⟨rfl, ⟨⟩⟩
      exact ⟨histories, .nowhere hfound, rfl⟩
    · rintro ⟨histories', hone, rfl⟩
      cases hone with
      | here hfound' => cases hfound.symm.trans hfound'
      | nowhere => exact ⟨rfl, rfl⟩
  | some h =>
    have hsettled := hs h (List.mem_of_getElem? hfound)
    rw [Option.map_some]
    refine Dialogue.yields_bind_pure.trans ?_
    constructor
    · rintro ⟨⟨answer, f, made⟩, hrun, ⟨⟩⟩
      obtain ⟨h', hdoes, rfl, rfl⟩ := (ClientHistory.yields_does hsettled).1 hrun
      exact ⟨_, .here hfound hdoes, by rw [List.map_append, List.map_set]⟩
    · rintro ⟨histories', hone, rfl⟩
      cases hone with
      | nowhere hmissing => cases hfound.symm.trans hmissing
      | here hfound' hdoes =>
        cases hfound.symm.trans hfound'
        refine ⟨(answer, _, _), (ClientHistory.yields_does hsettled).2 ⟨_, hdoes, rfl, rfl⟩, ?_⟩
        rw [List.map_append, List.map_set]

/-- **Clients do what their histories say**, one thing after the other. -/
theorem Facilitator.yields_acts (hs : ∀ h ∈ histories, h.Settled (readings as))
    (hclock : (readings as).Pairwise (· ≤ ·)) :
    Yields (Facilitator.acts (histories.map (·.client)) as) events (answers, clients) ↔
      ∃ trace histories', Runs histories trace histories' ∧ trace.map (·.toAct) = as ∧
        events = trace.flatMap (·.events) ∧ answers = trace.map (·.answer) ∧
        clients = histories'.map (·.client) := by
  -- On the acts; what is stored stays in order, for the clock does not go back.
  induction as generalizing histories events answers with
  | nil =>
    rw [Facilitator.acts, Dialogue.yields_pure]
    constructor
    · rintro ⟨rfl, ⟨⟩⟩
      exact ⟨[], histories, .nil _, rfl, rfl, rfl, rfl⟩
    · rintro ⟨trace, histories', hruns, htrace, rfl, rfl, rfl⟩
      cases List.map_eq_nil_iff.1 htrace
      cases hruns
      exact ⟨rfl, rfl⟩
  | cons a as ih =>
    rw [readings, List.flatMap_cons] at hs hclock
    have hclock' := (List.pairwise_append.1 hclock).2.1
    rw [Facilitator.acts, Dialogue.yields_bind]
    constructor
    · rintro ⟨first, rest, ⟨answer, next⟩, rfl, hone, hrest⟩
      obtain ⟨⟨others, last⟩, hothers, ⟨⟩⟩ := Dialogue.yields_bind_pure.1 hrest
      obtain ⟨histories₁, hhappens, rfl⟩ := (yields_act hs).1 hone
      obtain ⟨trace, histories₂, hruns, rfl, rfl, rfl, rfl⟩ :=
        (ih (hhappens.settled hs hclock) hclock').1 hothers
      exact ⟨⟨a, first, answer⟩ :: trace, histories₂, .cons hhappens hruns, rfl, rfl, rfl, rfl⟩
    · rintro ⟨trace, histories', hruns, htrace, rfl, rfl, rfl⟩
      cases hruns with
      | nil => cases htrace
      | @cons _ next _ o trace one others =>
        rw [List.map_cons, List.cons.injEq] at htrace
        obtain ⟨rfl, rfl⟩ := htrace
        refine ⟨o.events, _, (o.answer, next.map (·.client)), rfl, (yields_act hs).2 ⟨_, one, rfl⟩,
          ?_⟩
        exact Dialogue.yields_bind_pure.2 ⟨_, (ih (one.settled hs hclock) hclock').2
          ⟨trace, _, others, rfl, rfl, rfl, rfl⟩, rfl⟩

/-! ## Coming to an end

Sending is limited in time, so only a provider could keep a client waiting for good.  Some providers
come with the clients that are made on the way, so it has to be asked of these as well. -/

/-- A client that is made always answers, if the one that it is made from does and so does a
provider of its own. -/
def Derivation.Responds (how : Derivation) : Prop := ∀ p, how = .withProvider p → Live p

/-- Whatever is made along the way always answers. -/
def Facilitator.Deed.Responds (d : Deed) : Prop := ∀ how, d = .derive how → how.Responds

namespace Facilitator

variable {f : Facilitator}

theorem Responds.derive {how : Derivation} (h : f.Responds) (hhow : how.Responds) :
    (f.derive how).Responds := by
  cases how with
  | withProvider p =>
    rintro _ ⟨⟩
    exact hhow p rfl
  | clone | withCredentials | withoutCredentials | withTimeout | withLifetime | withoutCache =>
    exact h

/-- What a client keeps is not asked for headers. -/
theorem Responds.keep {now : Nat} {told : Except FacilitatorError Supported} (h : f.Responds) :
    (f.keep now told).2.Responds := by
  cases told with
  | error e => exact h
  | ok s =>
    rw [Facilitator.keep]
    split <;> exact h

theorem Responds.live_supported {asked answered time : Nat} {random : Octets 16}
    (h : f.Responds) : Live (f.supported asked answered (.ofRandom time random)) := by
  cases hget : f.cache.get? asked with
  | some s =>
    rw [supported_of_some hget]
    exact Dialogue.live_done _
  | none =>
    rw [supported_of_none hget]
    exact (h.live_supportedUncached (Stamp.isValue_requestId time random)).bind fun _ =>
      Dialogue.live_done _

theorem Responds.supported {f' : Facilitator} {asked answered time : Nat} {random : Octets 16}
    {events : List Event} {result : Option (Except FacilitatorError Supported)} (h : f.Responds)
    (hrun : Yields (f.supported asked answered (.ofRandom time random)) events (result, f')) :
    f'.Responds := by
  cases hget : f.cache.get? asked with
  | some s =>
    rw [supported_of_some hget] at hrun
    obtain ⟨-, ⟨⟩⟩ := Dialogue.yields_pure.1 hrun
    exact h
  | none =>
    rw [supported_of_none hget] at hrun
    obtain ⟨told, -, hended⟩ := Dialogue.yields_bind_pure.1 hrun
    have hkept : f' = (f.keep answered told).2 := congrArg Prod.snd hended
    rw [hkept]
    exact h.keep

/-- A client that always answers stays so, and makes no others. -/
theorem Responds.does {f' : Facilitator} {made : List Facilitator} {d : Deed} {answer : Answer}
    {events : List Event} (h : f.Responds) (hd : d.Responds)
    (hrun : Yields (f.does d) events (answer, f', made)) : ∀ g ∈ f' :: made, g.Responds := by
  cases d with
  | supported =>
    obtain ⟨⟨result, f'⟩, hsupported, ⟨⟩⟩ := Dialogue.yields_bind_pure.1 hrun
    exact List.forall_mem_singleton.2 (h.supported hsupported)
  | supportedUncached =>
    obtain ⟨result, -, ⟨⟩⟩ := Dialogue.yields_bind_pure.1 hrun
    exact List.forall_mem_singleton.2 h
  | clear =>
    obtain ⟨-, ⟨⟩⟩ := Dialogue.yields_pure.1 hrun
    exact List.forall_mem_singleton.2 h
  | derive how =>
    obtain ⟨-, ⟨⟩⟩ := Dialogue.yields_pure.1 hrun
    exact List.forall_mem_cons.2 ⟨h, List.forall_mem_singleton.2 (h.derive (hd how rfl))⟩

theorem Responds.live_does {d : Deed} (h : f.Responds) : Live (f.does d) := by
  cases d with
  | supported => exact h.live_supported.bind fun _ => Dialogue.live_done _
  | supportedUncached time random =>
    exact (h.live_supportedUncached (Stamp.isValue_requestId time random)).bind fun _ =>
      Dialogue.live_done _
  | clear | derive => exact Dialogue.live_done _

variable {clients : List Facilitator}

theorem responds_act {next : List Facilitator} {a : Act} {answer : Answer} {events : List Event}
    (h : ∀ f ∈ clients, f.Responds) (ha : a.deed.Responds)
    (hrun : Yields (act clients a) events (answer, next)) : ∀ f ∈ next, f.Responds := by
  rw [act] at hrun
  cases hfound : clients[a.place]? with
  | none =>
    rw [hfound] at hrun
    obtain ⟨-, ⟨⟩⟩ := Dialogue.yields_pure.1 hrun
    exact h
  | some f =>
    rw [hfound] at hrun
    obtain ⟨⟨answer, f', made⟩, hdoes, ⟨⟩⟩ := Dialogue.yields_bind_pure.1 hrun
    have hresponds := (h f (List.mem_of_getElem? hfound)).does ha hdoes
    intro g hg
    obtain hset | hmade := List.mem_append.1 hg
    · obtain hkept | rfl := List.mem_or_eq_of_mem_set hset
      · exact h g hkept
      · exact hresponds g List.mem_cons_self
    · exact hresponds g (List.mem_cons_of_mem f' hmade)

theorem live_act {a : Act} (h : ∀ f ∈ clients, f.Responds) : Live (act clients a) := by
  rw [act]
  split
  · exact Dialogue.live_done _
  · next f hfound =>
    exact (h f (List.mem_of_getElem? hfound)).live_does.bind fun _ => Dialogue.live_done _

/-- Several clients come to an end with everything, if none waits for a provider for good. -/
theorem live_acts {as : List Act} (h : ∀ f ∈ clients, f.Responds)
    (has : ∀ a ∈ as, a.deed.Responds) : Live (acts clients as) := by
  induction as generalizing clients with
  | nil => exact Dialogue.live_done _
  | cons a as ih =>
    obtain ⟨ha, has⟩ := List.forall_mem_cons.1 has
    refine (live_act h).bind_of_yields fun events one hact => ?_
    exact (ih (responds_act h ha hact) has).bind fun _ => Dialogue.live_done _

end Facilitator

/-! ## All of it -/

/-- **What a facilitator supports is asked for when no answer is kept.**  Clients that start without
a kept answer do what their histories say, while the clock does not go back.  Then what is kept for
no time is never given again.  Whatever else is done with other clients, nothing happens to a client
but what can come of what is done with it alone.  To ask is to send one request, unless its headers
cannot be had or there is nowhere to send it.  An answer that would expire beyond the end of the
clock is not given: its call is broken off, and the client is as it was.  If providers of extra
headers always answer, everything comes to an end in every world. -/
theorem supported_runs (clients : List Facilitator) (as : List Act)
    (hclock : (readings as).Pairwise (· ≤ ·)) :
    (∀ events answers clients',
      Yields (Facilitator.acts (clients.map (·.fresh)) as) events (answers, clients') ↔
        ∃ trace histories, Runs (clients.map ClientHistory.start) trace histories ∧
          trace.map (·.toAct) = as ∧ events = trace.flatMap (·.events) ∧
          answers = trace.map (·.answer) ∧ clients' = histories.map (·.client)) ∧
    (∀ trace histories, Runs (clients.map ClientHistory.start) trace histories →
      trace.map (·.toAct) = as → ∀ now, (∀ t ∈ readings as, t ≤ now) →
        ∀ h ∈ histories, h.lifetime = 0 → h.latest? now = none) ∧
    (∀ histories trace histories' i (h : ClientHistory), Runs histories trace histories' →
      histories[i]? = some h →
        ∃ h', histories'[i]? = some h' ∧ h.Runs (trace.filter (·.place = i)) h') ∧
    (∀ (f : Facilitator) stamp events result, f.SupportedRun stamp events result →
      (∃ e, result = .error e ∧ HeaderRun f.credentials f.provider .supported stamp
        Facilitator.supportedBody events (.error e)) ∨
      ∃ before after headers, events = before ++ after ∧
        HeaderRun f.credentials f.provider .supported stamp Facilitator.supportedBody before
          (.ok headers) ∧
        Facilitator.requests after =
          if f.url.hasHost then [f.httpRequest headers Facilitator.supportedBody] else []) ∧
    ((∀ f ∈ clients, f.Responds) → (∀ a ∈ as, a.deed.Responds) →
      ∀ (σ : Type) (world : World (StateM σ)) (s : σ), ∃ events answers clients',
        Yields (Facilitator.acts (clients.map (·.fresh)) as) events (answers, clients') ∧
          ((Facilitator.acts (clients.map (·.fresh)) as).run world s).1 =
            some (answers, clients')) := by
  have hstart : ∀ later, ∀ h ∈ clients.map ClientHistory.start, h.Settled later := by
    intro later h hh
    obtain ⟨f, -, rfl⟩ := List.mem_map.1 hh
    exact ClientHistory.settled_start f later
  refine ⟨fun events answers clients' => ?_, fun trace histories hruns htrace now hnow h hh => ?_,
    fun histories trace histories' i h hruns hi => hruns.alone hi,
    fun f stamp events result hrun => hrun.requests_eq, fun hclients has σ world s => ?_⟩
  · have hfresh : clients.map (·.fresh) = (clients.map ClientHistory.start).map (·.client) := by
      rw [List.map_map]
      rfl
    rw [hfresh]
    exact Facilitator.yields_acts (hstart _) hclock
  · have hlater : (readings as ++ [now]).Pairwise (· ≤ ·) :=
      List.pairwise_append.2 ⟨hclock, List.pairwise_singleton _ _, by simpa using hnow⟩
    rw [← htrace] at hlater
    exact (hruns.settled (hstart _) hlater h hh).latest?_eq_none (List.mem_singleton_self now)
  · have hresponds : ∀ f ∈ clients.map (·.fresh), f.Responds := by
      intro f hf
      obtain ⟨g, hg, rfl⟩ := List.mem_map.1 hf
      exact hclients g hg
    obtain ⟨events, ⟨answers, clients'⟩, hyields, hrun⟩ :=
      (Facilitator.live_acts hresponds has).run world s
    exact ⟨events, answers, clients', hyields, hrun⟩

/-- A client that keeps what is supported for ten milliseconds. -/
def briefFacilitator : Facilitator := plainFacilitator.withLifetime 10

/-- A client that would keep what is supported for longer than any clock runs. -/
def endlessFacilitator : Facilitator := plainFacilitator.withLifetime SupportedCache.clockEnd

/-- The request that asks what is supported. -/
def listRequest : Http.Request :=
  plainFacilitator.httpRequest contentHeaders Facilitator.supportedBody

/-- A response that lists nothing. -/
def bareList : Http.Response :=
  ⟨200, [], some (Bytes.ofString "\x7b\"code\":0,\"data\":\x7b\x7d\x7d")⟩

section

variable (lifetime : Nat) (stamp : Stamp)

theorem headed_listRequest :
    HeaderRun none none .supported stamp Facilitator.supportedBody [] (.ok contentHeaders) :=
  .made rfl .nothing

theorem supportedRun_bareList :
    (plainFacilitator.withLifetime lifetime).SupportedRun stamp
      [.sent listRequest (.answered bareList)] (.ok ⟨[], [], []⟩) := by
  have hsent : (plainFacilitator.withLifetime lifetime).Sends listRequest
      [.sent listRequest (.answered bareList)] (.ok ⟨200, _⟩) := .answered bareList _ rfl rfl
  exact .sent (headed_listRequest stamp) hsent

theorem supportedRun_undelivered :
    (plainFacilitator.withLifetime lifetime).SupportedRun stamp
      [.sent listRequest (.failed .undelivered)]
      (.error (.transport .supported .undelivered)) := by
  have hsent : (plainFacilitator.withLifetime lifetime).Sends listRequest
      [.sent listRequest (.failed .undelivered)] (.error .undelivered) := .failed .undelivered rfl
  exact .sent (headed_listRequest stamp) hsent

end

/-- A client is asked for the list, cloned, and asked again in time; then the clone is asked, and
the client once more when the time is up.  At last a client is made that keeps the list for ever,
and is asked. -/
def briefActs : List Act :=
  [⟨0, .supported 5 6 7 default⟩, ⟨0, .derive .clone⟩, ⟨0, .supported 15 15 7 default⟩,
    ⟨1, .supported 15 15 7 default⟩, ⟨0, .supported 16 16 7 default⟩,
    ⟨0, .derive (.withLifetime SupportedCache.clockEnd)⟩, ⟨2, .supported 17 18 7 default⟩]

/-- What is listed is kept for ten milliseconds, and not longer; a clone does not have it.  To keep
it for ever is more than a clock can do. -/
theorem supported_runs_kept : ∃ events clients',
    Yields (Facilitator.acts ([briefFacilitator].map (·.fresh)) briefActs) events
      ([.supported (.ok ⟨[], [], []⟩), .nothing, .supported (.ok ⟨[], [], []⟩),
        .supported (.error (.transport .supported .undelivered)),
        .supported (.error (.transport .supported .undelivered)), .nothing, .brokenOff],
        clients') ∧
    Facilitator.requests events = [listRequest, listRequest, listRequest, listRequest] := by
  have hlist := supportedRun_bareList 10 (.ofRandom 7 default)
  have hlost := supportedRun_undelivered 10 (.ofRandom 7 default)
  have hendless := supportedRun_bareList SupportedCache.clockEnd (.ofRandom 7 default)
  obtain ⟨hruns, -⟩ := supported_runs [briefFacilitator] briefActs (by decide)
  have hrun : Runs ([briefFacilitator].map ClientHistory.start) [
      ⟨⟨0, .supported 5 6 7 default⟩, _, _⟩, ⟨⟨0, .derive .clone⟩, _, _⟩,
      ⟨⟨0, .supported 15 15 7 default⟩, _, _⟩, ⟨⟨1, .supported 15 15 7 default⟩, _, _⟩,
      ⟨⟨0, .supported 16 16 7 default⟩, _, _⟩,
      ⟨⟨0, .derive (.withLifetime SupportedCache.clockEnd)⟩, _, _⟩,
      ⟨⟨2, .supported 17 18 7 default⟩, _, _⟩] _ :=
    .cons (.here rfl (.stored rfl hlist (by decide))) (.cons (.here rfl (.derive .clone))
      (.cons (.here rfl (.kept rfl)) (.cons (.here rfl (.failed rfl hlost))
        (.cons (.here rfl (.failed rfl hlost)) (.cons (.here rfl (.derive _))
          (.cons (.here rfl (.brokenOff rfl hendless (by decide))) (.nil _)))))))
  exact ⟨_, _, (hruns _ _ _).2 ⟨_, _, hrun, rfl, rfl, rfl, rfl⟩, rfl⟩

/-- A client whose provider of extra headers fails. -/
def tokenlessFacilitator : Facilitator :=
  plainFacilitator.withProvider (.done (.error "no token"))

/-- A client whose provider fails asks for nothing, also past what is kept; and a client that would
keep an answer for ever does not give it, although it was told. -/
theorem supported_not_always_sent_or_kept :
    (¬ ∀ (f : Facilitator) (time : Nat) (random : Octets 16) events result,
      Yields (f.supportedUncached (.ofRandom time random)) events result →
        (Facilitator.requests events).length = 1) ∧
    ¬ ∀ (f : Facilitator) (asked answered time : Nat) (random : Octets 16) events (s : Supported),
      f.cache.get? asked = none →
        Yields (f.supportedUncached (.ofRandom time random)) events (.ok s) →
          ∃ f', Yields (f.supported asked answered (.ofRandom time random)) events
            (some (.ok s), f') := by
  refine ⟨fun h => ?_, fun h => ?_⟩
  · have hrun : tokenlessFacilitator.SupportedRun (.ofRandom 0 default) []
        (.error (.noExtraHeaders "no token")) :=
      .unheaded (.failed rfl rfl (Dialogue.yields_done.2 ⟨rfl, rfl⟩))
    have hyields :=
      (Facilitator.yields_supportedUncached (Stamp.isValue_requestId 0 default)).2 hrun
    exact absurd (h _ _ _ _ _ hyields) (by decide)
  · have hrun := supportedRun_bareList SupportedCache.clockEnd (.ofRandom 0 default)
    have hyields :=
      (Facilitator.yields_supportedUncached (Stamp.isValue_requestId 0 default)).2 hrun
    obtain ⟨f', hsupported⟩ := h endlessFacilitator 0 0 0 default _ _ rfl hyields
    rw [Facilitator.supported_of_none rfl, Dialogue.yields_bind_pure] at hsupported
    obtain ⟨told, -, hended⟩ := hsupported
    cases told with
    | error e => cases hended
    | ok s =>
      rw [Facilitator.keep_of_le (by decide)] at hended
      cases hended

end Tollbooth
