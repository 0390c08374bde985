import Tollbooth.Dialogue
/-!
# Runs of a dialogue

A dialogue is a tree, and a run of it is a path from the root: the questions that are asked one
after the other, each with the answer that the world gives.  Whatever the world is like, what
happens is one of these paths, so a statement about all runs is a statement about all worlds.

The definitions follow the tree: a step answers one question, and a run is a list of steps, so that
what is to be said of all runs is shown by induction on their events.  No world is ever mentioned,
and none has to be: the answers in a run are any answers at all, also such as no real server would
give.

Whatever is said about a client of this library is in the end said by `yields_bind`.  A client is a
few dialogues that are bound together, and each of them has a lemma about its own runs; the runs of
the whole are taken apart where the dialogues meet, and nobody has to look into a tree again.

* `Step d e d'` — the next question of `d` is asked and answered, and `d'` is what is left.
* `Leads d events d'` — after these events `d'` is what is left of `d`.  The events may stop
  anywhere, so this also covers worlds that never answer the next question.
* `Yields d events a` — the events lead to the result `a`.
* `leads_bind`, `yields_bind` — a run of a computation that goes on with another is a run of the
  first and then a run of the second.
* `yields_exchange` — what a single exchange comes to.
* `yields_limit_some`, `yields_limit_none` — what a limit lets through, and when it cuts off.
-/

set_option autoImplicit false

namespace Tollbooth.Dialogue

variable {α β : Type}

/-- A question that was asked, with the answer that was given. -/
inductive Event where
  | sent (request : Http.Request) (answer : Http.Exchange)
  | asked (chain : ChainNumber) (asset : Address) (answer : Reading)
  | signed (account : Address) (digest : Hash256) (answer : Except String (Octets 65))
  | waited (milliseconds : Nat)

/-- The next question is asked and answered. -/
inductive Step : Dialogue α → Event → Dialogue α → Prop
  | sent (request : Http.Request) (next : Http.Exchange → Dialogue α) (x : Http.Exchange) :
      Step (.send request next) (.sent request x) (next x)
  | asked (chain : ChainNumber) (asset : Address) (next : Reading → Dialogue α) (x : Reading) :
      Step (.read chain asset next) (.asked chain asset x) (next x)
  | signed (account : Address) (digest : Hash256)
      (next : Except String (Octets 65) → Dialogue α) (x : Except String (Octets 65)) :
      Step (.sign account digest next) (.signed account digest x) (next x)
  | waited (ms : Nat) (next : Dialogue α) : Step (.wait ms next) (.waited ms) next

/-- After these events the second computation is what is left of the first. -/
inductive Leads : Dialogue α → List Event → Dialogue α → Prop
  | nil (d : Dialogue α) : Leads d [] d
  | cons {d d' d'' : Dialogue α} {e : Event} {events : List Event} (s : Step d e d')
      (h : Leads d' events d'') : Leads d (e :: events) d''

/-- These events lead to the result. -/
def Yields (d : Dialogue α) (events : List Event) (a : α) : Prop := Leads d events (.done a)

/-! ## One question at a time

For every constructor it is said what the runs are that begin there.  Answers are the only thing
that is open in a run: two runs with the same events come to the same place, which is what
`Leads.unique` says, and a run to a result cannot be gone on with. -/

theorem leads_nil {d d' : Dialogue α} : Leads d [] d' ↔ d' = d := by
  constructor
  · intro h
    cases h
    rfl
  · rintro rfl
    exact .nil _

theorem leads_cons {d d' : Dialogue α} {e : Event} {events : List Event} :
    Leads d (e :: events) d' ↔ ∃ c, Step d e c ∧ Leads c events d' := by
  constructor
  · intro h
    cases h with
    | cons s h => exact ⟨_, s, h⟩
  · rintro ⟨c, s, h⟩
    exact .cons s h

/-- A computation that is finished asks nothing. -/
theorem not_step_done {a : α} {e : Event} {d : Dialogue α} : ¬ Step (.done a) e d := by
  intro s
  cases s

theorem leads_done {a : α} {events : List Event} {d : Dialogue α} :
    Leads (.done a) events d ↔ events = [] ∧ d = .done a := by
  cases events with
  | nil => simp [leads_nil]
  | cons e events => simp [leads_cons, not_step_done]

@[simp] theorem yields_done {a b : α} {events : List Event} :
    Yields (.done a) events b ↔ events = [] ∧ b = a := by
  rw [Yields, leads_done, Dialogue.done.injEq]

@[simp] theorem yields_pure {a b : α} {events : List Event} :
    Yields (pure a : Dialogue α) events b ↔ events = [] ∧ b = a :=
  yields_done

@[simp] theorem not_yields_stalled {a : α} {events : List Event} :
    ¬ Yields (.stalled : Dialogue α) events a := by
  intro h
  cases h with
  | cons s => cases s

@[simp] theorem yields_send {request : Http.Request} {next : Http.Exchange → Dialogue α}
    {events : List Event} {a : α} :
    Yields (.send request next) events a ↔
      ∃ x rest, events = .sent request x :: rest ∧ Yields (next x) rest a := by
  constructor
  · intro h
    cases h with
    | cons s h =>
      cases s
      exact ⟨_, _, rfl, h⟩
  · rintro ⟨x, rest, rfl, h⟩
    exact .cons (.sent request next x) h

@[simp] theorem yields_sign {account : Address} {digest : Hash256}
    {next : Except String (Octets 65) → Dialogue α} {events : List Event} {a : α} :
    Yields (.sign account digest next) events a ↔
      ∃ x rest, events = .signed account digest x :: rest ∧ Yields (next x) rest a := by
  constructor
  · intro h
    cases h with
    | cons s h =>
      cases s
      exact ⟨_, _, rfl, h⟩
  · rintro ⟨x, rest, rfl, h⟩
    exact .cons (.signed account digest next x) h

@[simp] theorem yields_wait {ms : Nat} {next : Dialogue α} {events : List Event} {a : α} :
    Yields (.wait ms next) events a ↔ ∃ rest, events = .waited ms :: rest ∧ Yields next rest a := by
  constructor
  · intro h
    cases h with
    | cons s h =>
      cases s
      exact ⟨_, rfl, h⟩
  · rintro ⟨rest, rfl, h⟩
    exact .cons (.waited ms next) h

/-- An answer decides how a computation goes on. -/
theorem Step.unique {d d' d'' : Dialogue α} {e : Event} (h : Step d e d') (h' : Step d e d'') :
    d' = d'' := by
  cases h <;> cases h' <;> rfl

theorem leads_append {d d' : Dialogue α} {before after : List Event} :
    Leads d (before ++ after) d' ↔ ∃ c, Leads d before c ∧ Leads c after d' := by
  induction before generalizing d with
  | nil => simp [leads_nil]
  | cons e before ih =>
    rw [List.cons_append, leads_cons]
    constructor
    · rintro ⟨c, s, h⟩
      obtain ⟨c', hb, ha⟩ := ih.1 h
      exact ⟨c', .cons s hb, ha⟩
    · rintro ⟨c', hb, ha⟩
      obtain ⟨c, s, hb⟩ := leads_cons.1 hb
      exact ⟨c, s, ih.2 ⟨c', hb, ha⟩⟩

theorem Leads.unique {d d' d'' : Dialogue α} {events : List Event} (h : Leads d events d')
    (h' : Leads d events d'') : d' = d'' := by
  induction h with
  | nil => exact (leads_nil.1 h').symm
  | cons s _ ih =>
    obtain ⟨c, s', h'⟩ := leads_cons.1 h'
    rw [s'.unique s] at h'
    exact ih h'

theorem Yields.unique {d : Dialogue α} {events : List Event} {a b : α} (h : Yields d events a)
    (h' : Yields d events b) : a = b := by
  injection Leads.unique h h'

/-- A computation that is finished asks nothing more. -/
theorem Yields.append_unique {d : Dialogue α} {events more : List Event} {a b : α}
    (h : Yields d events a) (h' : Yields d (events ++ more) b) : more = [] ∧ b = a := by
  obtain ⟨c, hc, hmore⟩ := leads_append.1 h'
  rw [hc.unique h] at hmore
  exact yields_done.1 hmore

/-- A computation that is finished within these events is finished after the same ones. -/
theorem Yields.prefix_unique {d : Dialogue α} {before before' after after' : List Event} {a b : α}
    (h : Yields d before a) (h' : Yields d before' b)
    (heq : before ++ after = before' ++ after') : before = before' ∧ a = b := by
  obtain ⟨more, rfl, -⟩ | ⟨more, rfl, -⟩ := List.append_eq_append_iff.1 heq
  · obtain ⟨rfl, rfl⟩ := h.append_unique h'
    exact ⟨(List.append_nil _).symm, rfl⟩
  · obtain ⟨rfl, rfl⟩ := h'.append_unique h
    exact ⟨List.append_nil _, rfl⟩

/-! ## One computation after another

The runs of `d >>= f` are those of `d`, each with a run of `f` behind it.  For runs that are broken
off there are two cases, since the first computation need not be finished when the events stop.  The
rest of the section takes these lemmas to the forms in which computations are really put together
here: with a function of the result, or with an error that ends everything. -/

theorem Step.bind {d d' : Dialogue α} {e : Event} (s : Step d e d') (f : α → Dialogue β) :
    Step (d >>= f) e (d' >>= f) := by
  cases s with
  | sent request next x => exact .sent request (fun x => next x >>= f) x
  | asked chain asset next x => exact .asked chain asset (fun x => next x >>= f) x
  | signed account digest next x => exact .signed account digest (fun x => next x >>= f) x
  | waited ms => exact .waited ms (d' >>= f)

/-- The next question of a computation that goes on with another is one of the first, unless that
one is finished. -/
theorem step_bind {d : Dialogue α} {f : α → Dialogue β} {e : Event} {c : Dialogue β} :
    Step (d >>= f) e c ↔
      (∃ d', Step d e d' ∧ c = (d' >>= f)) ∨ ∃ a, d = .done a ∧ Step (f a) e c := by
  constructor
  · intro s
    cases d with
    | done a => exact .inr ⟨a, rfl, s⟩
    | send request next => cases s; exact .inl ⟨_, .sent .., rfl⟩
    | read chain asset next => cases s; exact .inl ⟨_, .asked .., rfl⟩
    | sign account digest next => cases s; exact .inl ⟨_, .signed .., rfl⟩
    | wait ms next => cases s; exact .inl ⟨_, .waited .., rfl⟩
    | stalled => cases s
  · rintro (⟨d', s, rfl⟩ | ⟨a, rfl, s⟩)
    · exact s.bind f
    · exact s

/-- A run that goes on after a first computation either is still in it, or has its result and is
in the second one. -/
theorem leads_bind {d : Dialogue α} {f : α → Dialogue β} {events : List Event} {c : Dialogue β} :
    Leads (d >>= f) events c ↔
      (∃ d', Leads d events d' ∧ c = (d' >>= f)) ∨
        ∃ first rest a, events = first ++ rest ∧ Yields d first a ∧ Leads (f a) rest c := by
  -- On the events; `step_bind` tells to which of the two computations the next one belongs.
  induction events generalizing d with
  | nil =>
    rw [leads_nil]
    constructor
    · rintro rfl
      exact .inl ⟨d, .nil d, rfl⟩
    · rintro (⟨d', hd, rfl⟩ | ⟨first, rest, a, he, hd, hf⟩)
      · rw [leads_nil.1 hd]
      · obtain ⟨rfl, rfl⟩ := List.append_eq_nil_iff.1 he.symm
        rw [leads_nil.1 hf, ← leads_nil.1 hd, done_bind]
  | cons e events ih =>
    rw [leads_cons]
    constructor
    · rintro ⟨c', s', h⟩
      obtain ⟨d', s, rfl⟩ | ⟨a, rfl, s⟩ := step_bind.1 s'
      · obtain ⟨d'', hd, rfl⟩ | ⟨first, rest, a, rfl, hd, hf⟩ := ih.1 h
        · exact .inl ⟨d'', .cons s hd, rfl⟩
        · exact .inr ⟨e :: first, rest, a, rfl, .cons s hd, hf⟩
      · exact .inr ⟨[], e :: events, a, rfl, .nil _, .cons s h⟩
    · rintro (⟨d', hd, rfl⟩ | ⟨first, rest, a, he, hd, hf⟩)
      · obtain ⟨d'', s, hd⟩ := leads_cons.1 hd
        exact ⟨_, s.bind f, ih.2 (.inl ⟨d', hd, rfl⟩)⟩
      · cases first with
        | nil =>
          cases hd
          cases he
          exact leads_cons.1 hf
        | cons e' first =>
          cases he
          obtain ⟨d'', s, hd⟩ := leads_cons.1 hd
          exact ⟨_, s.bind f, ih.2 (.inr ⟨first, rest, a, rfl, hd, hf⟩)⟩

/-- **Runs compose.**  A run of a computation that goes on with another is a run of the first and
then a run of the second. -/
theorem yields_bind {d : Dialogue α} {f : α → Dialogue β} {events : List Event} {b : β} :
    Yields (d >>= f) events b ↔
      ∃ first rest a, events = first ++ rest ∧ Yields d first a ∧ Yields (f a) rest b := by
  rw [Yields, leads_bind]
  constructor
  · rintro (⟨d', hd, he⟩ | h)
    · cases d' with
      | done a =>
        rw [done_bind] at he
        exact ⟨events, [], a, (List.append_nil _).symm, hd, leads_nil.2 he⟩
      | send | read | sign | wait | stalled => cases he
    · exact h
  · exact .inr

theorem bind_assoc {γ : Type} (d : Dialogue α) (f : α → Dialogue β) (g : β → Dialogue γ) :
    (d >>= f >>= g) = d >>= fun a => f a >>= g := by
  induction d with
  | done a => rfl
  | send request next ih => exact congrArg (Dialogue.send request) (funext ih)
  | read chain asset next ih => exact congrArg (Dialogue.read chain asset) (funext ih)
  | sign account digest next ih => exact congrArg (Dialogue.sign account digest) (funext ih)
  | wait ms next ih => exact congrArg (Dialogue.wait ms) ih
  | stalled => rfl

/-- Making something of a result asks nothing more. -/
theorem yields_bind_pure {d : Dialogue α} {f : α → β} {events : List Event} {b : β} :
    Yields (d >>= fun a => pure (f a)) events b ↔ ∃ a, Yields d events a ∧ b = f a := by
  rw [yields_bind]
  constructor
  · rintro ⟨first, rest, a, rfl, hd, hpure⟩
    obtain ⟨rfl, rfl⟩ := yields_pure.1 hpure
    rw [List.append_nil]
    exact ⟨a, hd, rfl⟩
  · rintro ⟨a, hd, rfl⟩
    exact ⟨events, [], a, (List.append_nil _).symm, hd, yields_pure.2 ⟨rfl, rfl⟩⟩

/-- A computation that gives up on the errors of a first one succeeds just if both do. -/
theorem yields_bind_ok {ε ε' : Type} {d : Dialogue (Except ε α)}
    {f : Except ε α → Dialogue (Except ε' β)} {events : List Event} {b : β}
    (hf : ∀ e, ∃ e', f (.error e) = .done (.error e')) :
    Yields (d >>= f) events (.ok b) ↔
      ∃ first rest a, events = first ++ rest ∧ Yields d first (.ok a) ∧
        Yields (f (.ok a)) rest (.ok b) := by
  rw [yields_bind]
  constructor
  · rintro ⟨first, rest, r, he, hd, hrest⟩
    cases r with
    | error e =>
      obtain ⟨e', he'⟩ := hf e
      rw [he'] at hrest
      cases (yields_done.1 hrest).2
    | ok a => exact ⟨first, rest, a, he, hd, hrest⟩
  · rintro ⟨first, rest, a, he, hd, hrest⟩
    exact ⟨first, rest, .ok a, he, hd, hrest⟩

/-- The same where nothing more is asked after a first success. -/
theorem yields_bind_ok_pure {ε ε' : Type} {d : Dialogue (Except ε α)}
    {f : Except ε α → Dialogue (Except ε' β)} {g : α → β} {events : List Event} {b : β}
    (hf : ∀ e, ∃ e', f (.error e) = .done (.error e')) (hg : ∀ a, f (.ok a) = .done (.ok (g a))) :
    Yields (d >>= f) events (.ok b) ↔ ∃ a, Yields d events (.ok a) ∧ b = g a := by
  rw [yields_bind_ok hf]
  constructor
  · rintro ⟨first, rest, a, rfl, hd, hrest⟩
    rw [hg, yields_done] at hrest
    obtain ⟨rfl, heq⟩ := hrest
    rw [List.append_nil]
    exact ⟨a, hd, Except.ok.inj heq⟩
  · rintro ⟨a, hd, rfl⟩
    exact ⟨events, [], a, (List.append_nil _).symm, hd, by rw [hg, yields_done]; exact ⟨rfl, rfl⟩⟩

theorem leads_bind_pure {d : Dialogue α} {f : α → β} {events : List Event} {c : Dialogue β}
    (h : Leads (d >>= fun a => pure (f a)) events c) : ∃ d', Leads d events d' := by
  obtain ⟨d', hd, -⟩ | ⟨first, rest, a, rfl, hd, hpure⟩ := leads_bind.1 h
  · exact ⟨d', hd⟩
  · rw [(leads_done.1 hpure).1, List.append_nil]
    exact ⟨.done a, hd⟩

/-- The events that give a computation its result are a stage that every run through them passes. -/
theorem Yields.bind_append {d : Dialogue α} {f : α → Dialogue β} {before after : List Event} {a : α}
    {c : Dialogue β} (h : Yields d before a) :
    Leads (d >>= f) (before ++ after) c ↔ Leads (f a) after c := by
  have hstage : Leads (d >>= f) before (f a) :=
    leads_bind.2 (.inr ⟨before, [], a, (List.append_nil _).symm, h, .nil _⟩)
  rw [leads_append]
  constructor
  · rintro ⟨c', hb, ha⟩
    rwa [hb.unique hstage] at ha
  · exact fun ha => ⟨f a, hstage, ha⟩

/-! ## A single exchange

A sender either learns what became of its request or waits for good.  The latter has no result and
is therefore not seen in `yields_exchange`, but in `leads_exchange` it is. -/

/-- What a sender learns of an exchange, unless no answer ever comes. -/
def outcome? : Http.Exchange → Option (Except Http.TransportFault Http.Response)
  | .answered response => some (.ok response)
  | .failed fault => some (.error fault)
  | .silent => none

/-- **An exchange is one request.**  It ends with what the sender learns; to a URL without a host
nothing is sent. -/
theorem yields_exchange {request : Http.Request} {events : List Event}
    {r : Except Http.TransportFault Http.Response} :
    Yields (exchange request) events r ↔
      (request.url.hasHost = true ∧ ∃ x, events = [.sent request x] ∧ outcome? x = some r) ∨
        (request.url.hasHost = false ∧ events = [] ∧ r = .error .undelivered) := by
  cases hhost : request.url.hasHost with
  | false => simp [exchange, hhost]
  | true =>
    rw [exchange, if_pos hhost, yields_send]
    constructor
    · rintro ⟨x, rest, rfl, h⟩
      cases x with
      | answered | failed =>
        obtain ⟨rfl, rfl⟩ := yields_done.1 h
        exact .inl ⟨rfl, _, rfl, rfl⟩
      | silent => exact (not_yields_stalled h).elim
    · rintro (⟨-, x, rfl, h⟩ | ⟨h, -⟩)
      · refine ⟨x, [], rfl, ?_⟩
        cases x with
        | answered | failed => exact yields_done.2 ⟨rfl, (Option.some.inj h).symm⟩
        | silent => cases h
      · cases h

/-- However far an exchange gets, it sends nothing but its request, and that once. -/
theorem leads_exchange {request : Http.Request} {events : List Event}
    {d : Dialogue (Except Http.TransportFault Http.Response)}
    (h : Leads (exchange request) events d) : events = [] ∨ ∃ x, events = [.sent request x] := by
  rw [exchange] at h
  split at h
  · cases h with
    | nil => exact .inl rfl
    | cons s h =>
      cases s with
      | sent _ _ x =>
        refine .inr ⟨x, ?_⟩
        cases x with
        | answered | failed => rw [(leads_done.1 h).1]
        | silent =>
          cases h with
          | nil => rfl
          | cons s => cases s
  · exact .inl (leads_done.1 h).1

/-! ## Time limits

A limit goes through the tree and takes from what is left whenever time passes.  `step_limit` says
this for one step, where there are two cases: the computation takes a step of its own in time, or it
would be idle for what is left and is cut off.  Both results about whole runs follow from it by
induction on the events, with the limit that is left in the place of the limit. -/

/-- The time that an event takes, in milliseconds. -/
def Event.duration : Event → Nat
  | .waited ms => ms
  | _ => 0

/-- The event is over before a time limit.  Only time itself uses a limit up. -/
def Event.Fits (left : Nat) : Event → Prop
  | .waited ms => ms < left
  | _ => True

/-- The time that events take together. -/
def elapsed : List Event → Nat
  | [] => 0
  | e :: events => e.duration + elapsed events

theorem elapsed_cons (e : Event) (events : List Event) :
    elapsed (e :: events) = e.duration + elapsed events :=
  rfl

/-- The events stay within a time limit: each is over before what is left of it. -/
def InTime : Nat → List Event → Prop
  | _, [] => True
  | left, e :: events => e.Fits left ∧ InTime (left - e.duration) events

/-- The computation lets at least this time pass before it asks anything else. -/
def Idle (left : Nat) : Dialogue α → Prop
  | .wait ms _ => left ≤ ms
  | .stalled => True
  | _ => False

/-- Under a limit a computation asks what it asks anyway, as long as that is in time; where it
would let the rest of the limit pass, the limit ends it. -/
theorem step_limit {d : Dialogue α} {left : Nat} {e : Event} {c : Dialogue (Option α)} :
    Step (d.limit left) e c ↔
      (∃ d', Step d e d' ∧ e.Fits left ∧ c = d'.limit (left - e.duration)) ∨
        (Idle left d ∧ e = .waited left ∧ c = .done none) := by
  constructor
  · intro s
    cases d with
    | done a => cases s
    | send request next => cases s; exact .inl ⟨_, .sent .., trivial, rfl⟩
    | read chain asset next => cases s; exact .inl ⟨_, .asked .., trivial, rfl⟩
    | sign account digest next => cases s; exact .inl ⟨_, .signed .., trivial, rfl⟩
    | wait ms next =>
      rw [limit] at s
      split at s
      · next hms => cases s; exact .inl ⟨_, .waited .., hms, rfl⟩
      · next hms => cases s; exact .inr ⟨Nat.le_of_not_lt hms, rfl, rfl⟩
    | stalled => cases s; exact .inr ⟨trivial, rfl, rfl⟩
  · rintro (⟨d', s, he, rfl⟩ | ⟨hd, rfl, rfl⟩)
    · cases s with
      | sent request next x => exact .sent request (fun x => (next x).limit left) x
      | asked chain asset next x => exact .asked chain asset (fun x => (next x).limit left) x
      | signed account digest next x =>
        exact .signed account digest (fun x => (next x).limit left) x
      | waited ms =>
        have hms : ms < left := he
        rw [limit, if_pos hms]
        exact .waited ms _
    · cases d with
      | wait ms next =>
        rw [limit, if_neg (Nat.not_lt.2 hd)]
        exact .waited left _
      | stalled => exact .waited left _
      | done | send | read | sign => exact hd.elim

/-- **A limit lets through what is finished in time**, and changes nothing about it. -/
theorem yields_limit_some {events : List Event} {a : α} :
    ∀ {d : Dialogue α} {left : Nat},
      Yields (d.limit left) events (some a) ↔ Yields d events a ∧ InTime left events := by
  induction events with
  | nil =>
    intro d left
    rw [Yields, Yields, leads_nil, leads_nil]
    cases d with
    | done b => simp [limit, InTime]
    | wait ms next => rw [limit]; split <;> simp
    | send | read | sign | stalled => simp [limit]
  | cons e events ih =>
    intro d left
    rw [Yields, leads_cons, Yields, leads_cons, InTime]
    constructor
    · rintro ⟨c, s', h⟩
      obtain ⟨d', s, he, rfl⟩ | ⟨-, -, rfl⟩ := step_limit.1 s'
      · obtain ⟨hd, ht⟩ := ih.1 h
        exact ⟨⟨d', s, hd⟩, he, ht⟩
      · cases (leads_done.1 h).2
    · rintro ⟨⟨d', s, hd⟩, he, ht⟩
      exact ⟨_, step_limit.2 (.inl ⟨d', s, he, rfl⟩), ih.2 ⟨hd, ht⟩⟩

/-- **A limit cuts off what would go on idly.**  It does so when, after events that are all in
time, the computation would let the rest of the limit pass. -/
theorem yields_limit_none {events : List Event} :
    ∀ {d : Dialogue α} {left : Nat},
      Yields (d.limit left) events none ↔
        ∃ before d', events = before ++ [.waited (left - elapsed before)] ∧ Leads d before d' ∧
          InTime left before ∧ Idle (left - elapsed before) d' := by
  induction events with
  | nil =>
    intro d left
    rw [Yields, leads_nil]
    constructor
    · intro h
      cases d with
      | done | send | read | sign | stalled => cases h
      | wait ms next =>
        rw [limit] at h
        split at h <;> cases h
    · rintro ⟨before, d', he, -⟩
      cases before <;> cases he
  | cons e events ih =>
    intro d left
    rw [Yields, leads_cons]
    constructor
    · rintro ⟨c, s', h⟩
      obtain ⟨d', s, he, rfl⟩ | ⟨hd, rfl, rfl⟩ := step_limit.1 s'
      · obtain ⟨before, d'', rfl, hd, ht, hi⟩ := ih.1 h
        -- What is left after `e` and then after `before` is what is left after both.
        rw [Nat.sub_sub, ← elapsed_cons] at hi ⊢
        exact ⟨e :: before, d'', rfl, .cons s hd, ⟨he, ht⟩, hi⟩
      · obtain ⟨rfl, -⟩ := leads_done.1 h
        exact ⟨[], d, rfl, .nil d, trivial, hd⟩
    · rintro ⟨before, d', he, hd, ht, hi⟩
      cases before with
      | nil =>
        cases he
        cases hd
        exact ⟨_, step_limit.2 (.inr ⟨hi, rfl, rfl⟩), .nil _⟩
      | cons e' before =>
        rw [elapsed_cons, Nat.sub_add_eq] at he hi
        cases he
        obtain ⟨c, s, hd⟩ := leads_cons.1 hd
        exact ⟨_, step_limit.2 (.inl ⟨c, s, ht.1, rfl⟩), ih.2 ⟨before, d', rfl, hd, ht.2, hi⟩⟩

/-! ## Limits that need not be there

Callers may leave out the limit.  Then every run is in time, and nothing is ever cut off. -/

theorem yields_limit?_some {d : Dialogue α} {timeout : Option Nat} {events : List Event} {a : α} :
    Yields (d.limit? timeout) events (some a) ↔
      Yields d events a ∧ ∀ ms, timeout = some ms → InTime ms events := by
  cases timeout with
  | some ms => rw [limit?, yields_limit_some]; simp
  | none =>
    rw [limit?]
    refine yields_bind_pure.trans ⟨?_, ?_⟩
    · rintro ⟨a', hd, ⟨⟩⟩
      exact ⟨hd, fun ms h => nomatch h⟩
    · rintro ⟨hd, -⟩
      exact ⟨a, hd, rfl⟩

theorem yields_limit?_none {d : Dialogue α} {timeout : Option Nat} {events : List Event} :
    Yields (d.limit? timeout) events none ↔
      ∃ ms before d', timeout = some ms ∧ events = before ++ [.waited (ms - elapsed before)] ∧
        Leads d before d' ∧ InTime ms before ∧ Idle (ms - elapsed before) d' := by
  cases timeout with
  | some ms =>
    rw [limit?, yields_limit_none]
    simp
  | none =>
    rw [limit?]
    constructor
    · intro h
      obtain ⟨a, -, ⟨⟩⟩ := yields_bind_pure.1 h
    · rintro ⟨ms, before, d', ⟨⟩, -⟩

end Tollbooth.Dialogue
