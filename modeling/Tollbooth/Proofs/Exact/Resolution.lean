import Mathlib.Logic.Function.Basic
import Tollbooth.Proofs.Dialogue.Live
import Tollbooth.Proofs.Exact.Resolver
/-!
# Resolving over whole runs

A resolver is used for a while: pins come and go, and separators are resolved in between.  For all
this its pins are a map from keys to separators, and nothing else about it ever changes.

Pins are kept in a list of entries and are a map to whoever uses them; it is the map that the
statements are about, so that neither the order of entries nor how one is replaced comes into them.
An act is a step from one map to the next, a run is several of these, and the map is carried along
by an induction on the acts.

A separator is resolved by the first of three sources that has it: a pin, the chain, or the names of
the token.  Only the second is a question to the world.  A reader may ask in whatever way it likes,
and may fail or be too late; to the resolver that is all the same, and it goes on to the names.

* `Tells`, `Passes` — what can come of asking a chain.
* `Resolves` — what can come of resolving a separator: the events, and the answer.
* `Does`, `Runs` — what can come of one act, and of several, with the pins as a map.
* `reads` — the chains that are asked in a run.
* `resolver_runs` — a resolver does what this says, and comes to an end in every world.
-/

set_option autoImplicit false

namespace Tollbooth

open Dialogue (Event Leads Yields InTime Idle elapsed World Live)

/-- What pins are kept for when this query is asked. -/
def DomainQuery.key (q : DomainQuery) : PinKey := ⟨q.chain, q.asset⟩

variable {readers : ChainReaders} {q : DomainQuery} {events : List Event}

/-! ## Asking a chain

Readers have a limit on their time, so a run of a reader within a resolver is one that is in time,
or the beginning of one that is not.  `Tells` and `Passes` are the two answers that matter, and
between them they cover all that a reader can do. -/

namespace ChainReaders

/-- The chain has a reader, which is run once and has the separator in time. -/
def Tells (readers : ChainReaders) (q : DomainQuery) (events : List Event) (hash : Hash256) :
    Prop :=
  ∃ reader, readers.get? q.chain = some reader ∧
    Yields (reader q.asset) events (.answered hash) ∧ InTime readers.timeout events

/-- The chain is passed over. -/
inductive Passes (readers : ChainReaders) (q : DomainQuery) : List Event → Prop
  /-- Nobody can ask it. -/
  | unread (h : readers.get? q.chain = none) : Passes readers q []
  /-- Its reader is run once, and comes back in time with nothing. -/
  | failed {reader : ChainReader} {events : List Event} {reading : Reading}
      (h : readers.get? q.chain = some reader) (run : Yields (reader q.asset) events reading)
      (time : InTime readers.timeout events) (nothing : ∀ hash, reading ≠ .answered hash) :
      Passes readers q events
  /-- Its reader is run once, and is given up when the time is over. -/
  | late {reader : ChainReader} {before : List Event} {d : Dialogue Reading}
      (h : readers.get? q.chain = some reader) (run : Leads (reader q.asset) before d)
      (time : InTime readers.timeout before) (idle : Idle (readers.timeout - elapsed before) d) :
      Passes readers q (before ++ [.waited (readers.timeout - elapsed before)])

/-- What is made of the answer of a chain. -/
def separator? : Option Reading → Option Separator
  | some (.answered hash) => some ⟨hash⟩
  | _ => none

theorem lookup_of_none (h : readers.get? q.chain = none) : readers.lookup q = .done none := by
  rw [lookup, h]
  rfl

theorem lookup_of_some {reader : ChainReader} (h : readers.get? q.chain = some reader) :
    readers.lookup q =
      ((reader q.asset).limit readers.timeout >>= fun reading => pure (separator? reading)) := by
  rw [lookup, h]
  refine congrArg (_ >>= ·) (funext fun reading => ?_)
  rcases reading with _ | (_ | _ | _) <;> rfl

theorem yields_lookup_some {s : Separator} :
    Yields (readers.lookup q) events (some s) ↔ readers.Tells q events s.hash := by
  cases h : readers.get? q.chain with
  | none => simp [lookup_of_none h, Tells, h]
  | some reader =>
    rw [lookup_of_some h, Dialogue.yields_bind_pure]
    constructor
    · rintro ⟨reading, hrun, hs⟩
      rcases reading with _ | (hash | _ | _) <;> cases hs
      obtain ⟨hyields, htime⟩ := Dialogue.yields_limit_some.1 hrun
      exact ⟨reader, h, hyields, htime⟩
    · rintro ⟨reader', h', hyields, htime⟩
      cases h.symm.trans h'
      exact ⟨some (.answered s.hash), Dialogue.yields_limit_some.2 ⟨hyields, htime⟩, rfl⟩

theorem yields_lookup_none :
    Yields (readers.lookup q) events none ↔ readers.Passes q events := by
  cases h : readers.get? q.chain with
  | none =>
    rw [lookup_of_none h, Dialogue.yields_done]
    constructor
    · rintro ⟨rfl, -⟩
      exact .unread h
    · intro hp
      cases hp with
      | unread => exact ⟨rfl, rfl⟩
      | failed h' | late h' => cases h.symm.trans h'
  | some reader =>
    rw [lookup_of_some h, Dialogue.yields_bind_pure]
    constructor
    · rintro ⟨reading, hrun, hs⟩
      cases reading with
      | none =>
        obtain ⟨before, d, rfl, hleads, htime, hidle⟩ := Dialogue.yields_limit_none.1 hrun
        exact .late h hleads htime hidle
      | some reading =>
        obtain ⟨hyields, htime⟩ := Dialogue.yields_limit_some.1 hrun
        refine .failed h hyields htime fun hash => ?_
        rintro rfl
        cases hs
    · intro hp
      cases hp with
      | unread h' => cases h.symm.trans h'
      | @failed _ _ reading h' hyields htime hnothing =>
        cases h.symm.trans h'
        refine ⟨some reading, Dialogue.yields_limit_some.2 ⟨hyields, htime⟩, ?_⟩
        cases reading with
        | answered hash => exact absurd rfl (hnothing hash)
        | failed | silent => rfl
      | late h' hleads htime hidle =>
        cases h.symm.trans h'
        exact ⟨none, Dialogue.yields_limit_none.2 ⟨_, _, rfl, hleads, htime, hidle⟩, rfl⟩

theorem live_lookup (readers : ChainReaders) (q : DomainQuery) : Live (readers.lookup q) := by
  cases h : readers.get? q.chain with
  | none =>
    rw [lookup_of_none h]
    exact Dialogue.live_done none
  | some reader =>
    rw [lookup_of_some h]
    exact (Dialogue.live_limit _ _).bind fun reading => Dialogue.live_done _

end ChainReaders

/-! ## Resolving

Each constructor of `Resolves` says that the sources before it had nothing.  A pin is found without
any event, so where there is one the chain is not asked. -/

/-- All that can come of resolving a separator with these pins: the events, and the answer. -/
inductive Resolves (readers : ChainReaders) (pins : PinKey → Option Separator) (q : DomainQuery) :
    List Event → Except PaymentError ResolvedDomain → Prop
  /-- The separator is pinned, and nobody is asked. -/
  | pinned {s : Separator} (pin : pins q.key = some s) :
      Resolves readers pins q [] (.ok ⟨s, .pinned⟩)
  /-- The chain tells it. -/
  | onChain {events : List Event} {hash : Hash256} (unpinned : pins q.key = none)
      (told : readers.Tells q events hash) :
      Resolves readers pins q events (.ok ⟨⟨hash⟩, .onChain⟩)
  /-- It is computed, for the chain tells nothing. -/
  | computed {events : List Event} {name version : String} (unpinned : pins q.key = none)
      (passed : readers.Passes q events) (hname : q.name = some name)
      (hversion : q.version = some version) :
      Resolves readers pins q events
        (.ok ⟨SigningDomain.separator ⟨name, version, q.chain, q.asset⟩, .computed⟩)
  /-- It can neither be told nor computed. -/
  | missing {events : List Event} (unpinned : pins q.key = none) (passed : readers.Passes q events)
      (unnamed : q.name = none ∨ q.version = none) :
      Resolves readers pins q events (.error (.metadataMissing q.chain q.asset))

namespace DomainResolver

variable {r : DomainResolver}

/-- What is answered when nothing is pinned. -/
def unpinned (q : DomainQuery) : Option Separator → Except PaymentError ResolvedDomain
  | some s => .ok ⟨s, .onChain⟩
  | none =>
    match q.compute? with
    | some s => .ok ⟨s, .computed⟩
    | none => .error (.metadataMissing q.chain q.asset)

theorem resolve_of_not_pinned (h : r.pins.get? q.key = none) :
    r.resolve q = (r.readers.lookup q >>= fun told => pure (unpinned q told)) := by
  rw [DomainQuery.key] at h
  rw [resolve, h]
  refine congrArg (_ >>= ·) (funext fun told => ?_)
  cases told with
  | some s => rfl
  | none =>
    rw [unpinned]
    cases q.compute? <;> rfl

/-- Without an answer of the chain a separator is computed just if there are both names. -/
theorem unpinned_none (q : DomainQuery) :
    (∃ name version, q.name = some name ∧ q.version = some version ∧ unpinned q none =
      .ok ⟨SigningDomain.separator ⟨name, version, q.chain, q.asset⟩, .computed⟩) ∨
    ((q.name = none ∨ q.version = none) ∧
      unpinned q none = .error (.metadataMissing q.chain q.asset)) := by
  cases hname : q.name with
  | none => exact .inr ⟨.inl rfl, by rw [unpinned, DomainQuery.compute?, hname]; rfl⟩
  | some name =>
    cases hversion : q.version with
    | none => exact .inr ⟨.inr rfl, by rw [unpinned, DomainQuery.compute?, hname, hversion]; rfl⟩
    | some version =>
      exact .inl ⟨name, version, rfl, rfl,
        by rw [unpinned, DomainQuery.compute?, hname, hversion]; rfl⟩

/-- **A separator is resolved by the first source that has it.** -/
theorem yields_resolve {result : Except PaymentError ResolvedDomain} :
    Yields (r.resolve q) events result ↔ Resolves r.readers r.pins.get? q events result := by
  cases h : r.pins.get? q.key with
  | some s =>
    rw [resolve_of_pin h, Dialogue.yields_pure]
    constructor
    · rintro ⟨rfl, rfl⟩
      exact .pinned h
    · intro hr
      cases hr with
      | pinned h' => cases h.symm.trans h'; exact ⟨rfl, rfl⟩
      | onChain h' | computed h' | missing h' => cases h.symm.trans h'
  | none =>
    rw [resolve_of_not_pinned h, Dialogue.yields_bind_pure]
    constructor
    · rintro ⟨told, hlookup, rfl⟩
      cases told with
      | some s => exact .onChain h (ChainReaders.yields_lookup_some.1 hlookup)
      | none =>
        have hpassed := ChainReaders.yields_lookup_none.1 hlookup
        obtain ⟨name, version, hname, hversion, heq⟩ | ⟨hunnamed, heq⟩ := unpinned_none q
        · exact heq ▸ .computed h hpassed hname hversion
        · exact heq ▸ .missing h hpassed hunnamed
    · intro hr
      cases hr with
      | pinned h' => cases h.symm.trans h'
      | @onChain _ hash _ htold =>
        exact ⟨some ⟨hash⟩, ChainReaders.yields_lookup_some.2 htold, rfl⟩
      | computed _ hpassed hname hversion =>
        refine ⟨none, ChainReaders.yields_lookup_none.2 hpassed, ?_⟩
        rw [unpinned, DomainQuery.compute?, hname, hversion]
        rfl
      | missing _ hpassed hunnamed =>
        refine ⟨none, ChainReaders.yields_lookup_none.2 hpassed, ?_⟩
        obtain ⟨name, version, hname, hversion, -⟩ | ⟨-, heq⟩ := unpinned_none q
        · rw [hname, hversion] at hunnamed
          simp at hunnamed
        · exact heq.symm

theorem live_resolve (r : DomainResolver) (q : DomainQuery) : Live (r.resolve q) := by
  cases h : r.pins.get? q.key with
  | some s =>
    rw [resolve_of_pin h]
    exact Dialogue.live_done _
  | none =>
    rw [resolve_of_not_pinned h]
    exact (ChainReaders.live_lookup _ q).bind fun told => Dialogue.live_done _

end DomainResolver

/-! ## How often a chain is asked

The events of a run say how often, but only for readers that ask as they should: a reader is any
dialogue, and might ask several chains, or none.  `ChainReader.Asks` is what is demanded of it, and
the reader that asks its chain directly is one of these. -/

/-- The contracts that chains are asked for, in the order of asking. -/
def reads (events : List Event) : List (ChainNumber × Address) :=
  events.filterMap fun
    | .asked chain asset _ => some (chain, asset)
    | _ => none

@[simp] theorem reads_nil : reads [] = [] := rfl

theorem reads_waited (ms : Nat) : reads [.waited ms] = [] := rfl

@[simp] theorem reads_asked (chain : ChainNumber) (asset : Address) (reading : Reading)
    (events : List Event) :
    reads (.asked chain asset reading :: events) = (chain, asset) :: reads events := rfl

theorem reads_append (before after : List Event) :
    reads (before ++ after) = reads before ++ reads after :=
  List.filterMap_append

/-- The reader first of all asks its chain for the contract, and afterwards asks no chain. -/
def ChainReader.Asks (reader : ChainReader) (chain : ChainNumber) : Prop :=
  ∀ asset, ∃ next, reader asset = .read chain asset next ∧
    ∀ reading events d, Leads (next reading) events d → reads events = []

theorem ChainReader.asks_direct (chain : ChainNumber) : (direct chain).Asks chain := by
  intro asset
  refine ⟨_, rfl, fun reading events d h => ?_⟩
  cases reading with
  | answered | failed => rw [(Dialogue.leads_done.1 h).1, reads_nil]
  | silent =>
    cases h with
    | nil => rfl
    | cons s => cases s

/-- Such a reader asks once, unless it is not even started. -/
theorem ChainReader.Asks.reads_eq {reader : ChainReader} {chain : ChainNumber} {asset : Address}
    {d : Dialogue Reading} (h : reader.Asks chain) (hrun : Leads (reader asset) events d) :
    (events = [] ∧ d = reader asset) ∨ reads events = [(chain, asset)] := by
  obtain ⟨next, hreader, hnext⟩ := h asset
  cases events with
  | nil => exact .inl ⟨rfl, Dialogue.leads_nil.1 hrun⟩
  | cons e events =>
    rw [hreader] at hrun
    obtain ⟨c, s, hrun⟩ := Dialogue.leads_cons.1 hrun
    cases s with
    | asked _ _ _ reading => exact .inr (by rw [reads_asked, hnext reading events d hrun])

theorem ChainReader.Asks.reads_of_yields {reader : ChainReader} {chain : ChainNumber}
    {asset : Address} {reading : Reading} (h : reader.Asks chain)
    (hrun : Yields (reader asset) events reading) : reads events = [(chain, asset)] := by
  obtain ⟨-, hd⟩ | hreads := h.reads_eq hrun
  · obtain ⟨next, hreader, -⟩ := h asset
    cases hd.trans hreader
  · exact hreads

theorem ChainReaders.Passes.reads_eq (h : readers.Passes q events)
    (hreaders : ∀ chain reader, readers.get? chain = some reader → reader.Asks chain) :
    reads events = if readers.get? q.chain ≠ none then [(q.chain, q.asset)] else [] := by
  cases h with
  | unread hnone => simp [hnone]
  | failed hsome hrun => simp [hsome, (hreaders _ _ hsome).reads_of_yields hrun]
  | late hsome hrun _ hidle =>
    obtain ⟨rfl, rfl⟩ | hreads := (hreaders _ _ hsome).reads_eq hrun
    · obtain ⟨next, hreader, -⟩ := hreaders _ _ hsome q.asset
      rw [hreader] at hidle
      exact hidle.elim
    · rw [if_pos (by simp [hsome]), reads_append, hreads, reads_waited, List.append_nil]

/-- **A chain is asked once, and only for what is not pinned.** -/
theorem Resolves.reads_eq {pins : PinKey → Option Separator}
    {result : Except PaymentError ResolvedDomain} (h : Resolves readers pins q events result)
    (hreaders : ∀ chain reader, readers.get? chain = some reader → reader.Asks chain) :
    reads events =
      if pins q.key = none ∧ readers.get? q.chain ≠ none then [(q.chain, q.asset)] else [] := by
  cases h with
  | pinned pin => simp [pin]
  | onChain unpinned told =>
    obtain ⟨reader, hsome, hrun, -⟩ := told
    simp [unpinned, hsome, (hreaders _ _ hsome).reads_of_yields hrun]
  | computed unpinned passed | missing unpinned passed =>
    rw [passed.reads_eq hreaders]
    simp [unpinned]

/-! ## One act, and several

The step is shown in both directions, and so is the run, because a description that allows more than
what happens would be worth as little as one that allows less. -/

namespace DomainResolver

variable {r r' : DomainResolver}

/-- All that can come of an act: the events, the answer, and the pins that are there afterwards. -/
inductive Does (readers : ChainReaders) (pins : PinKey → Option Separator) :
    Act → List Event → Answer → (PinKey → Option Separator) → Prop
  | pin (key : PinKey) (s : Separator) :
      Does readers pins (.pin key s) [] .nothing (Function.update pins key (some s))
  | invalidate (key : PinKey) :
      Does readers pins (.invalidate key) [] (.pin (pins key)) (Function.update pins key none)
  | clear : Does readers pins .clear [] .nothing fun _ => none
  | get (key : PinKey) : Does readers pins (.get key) [] (.pin (pins key)) pins
  | resolve {q : DomainQuery} {events : List Event} {result : Except PaymentError ResolvedDomain}
      (h : Resolves readers pins q events result) :
      Does readers pins (.resolve q) events (.domain result) pins

/-- All that can come of several acts, one after the other. -/
inductive Runs (readers : ChainReaders) :
    (PinKey → Option Separator) → List Act → List Event → List Answer →
      (PinKey → Option Separator) → Prop
  | nil (pins : PinKey → Option Separator) : Runs readers pins [] [] [] pins
  | cons {pins pins' pins'' : PinKey → Option Separator} {a : Act} {as : List Act}
      {first rest : List Event} {answer : Answer} {answers : List Answer}
      (one : Does readers pins a first answer pins')
      (others : Runs readers pins' as rest answers pins'') :
      Runs readers pins (a :: as) (first ++ rest) (answer :: answers) pins''

theorem get?_pin_eq_update (pins : Pins) (key : PinKey) (s : Separator) :
    (pins.pin key s).get? = Function.update pins.get? key (some s) := by
  funext other
  rw [Pins.get?_pin, Function.update_apply]

theorem get?_invalidate_eq_update (pins : Pins) (key : PinKey) :
    (pins.invalidate key).2.get? = Function.update pins.get? key none := by
  funext other
  rw [Pins.get?_invalidate, Function.update_apply]

theorem act_invalidate (r : DomainResolver) (key : PinKey) :
    r.act (.invalidate key) =
      pure (.pin (r.pins.get? key), { r with pins := (r.pins.invalidate key).2 }) := by
  rw [← Pins.fst_invalidate]
  rfl

/-- An act does no more than it should. -/
theorem does_of_yields {a : Act} {answer : Answer} (h : Yields (r.act a) events (answer, r')) :
    r'.readers = r.readers ∧ Does r.readers r.pins.get? a events answer r'.pins.get? := by
  cases a with
  | pin key s =>
    obtain ⟨rfl, ⟨⟩⟩ := Dialogue.yields_pure.1 h
    exact ⟨rfl, get?_pin_eq_update r.pins key s ▸ .pin key s⟩
  | invalidate key =>
    rw [act_invalidate] at h
    obtain ⟨rfl, ⟨⟩⟩ := Dialogue.yields_pure.1 h
    exact ⟨rfl, get?_invalidate_eq_update r.pins key ▸ .invalidate key⟩
  | clear =>
    obtain ⟨rfl, ⟨⟩⟩ := Dialogue.yields_pure.1 h
    exact ⟨rfl, .clear⟩
  | get key =>
    obtain ⟨rfl, ⟨⟩⟩ := Dialogue.yields_pure.1 h
    exact ⟨rfl, .get key⟩
  | resolve q =>
    obtain ⟨result, hresult, ⟨⟩⟩ := Dialogue.yields_bind_pure.1 h
    exact ⟨rfl, .resolve (yields_resolve.1 hresult)⟩

/-- An act can do all that it should. -/
theorem Does.yields {a : Act} {answer : Answer} {pins : PinKey → Option Separator}
    (h : Does r.readers r.pins.get? a events answer pins) :
    ∃ r', Yields (r.act a) events (answer, r') ∧ r'.readers = r.readers ∧ r'.pins.get? = pins := by
  cases h with
  | pin key s => exact ⟨_, Dialogue.yields_pure.2 ⟨rfl, rfl⟩, rfl, get?_pin_eq_update r.pins key s⟩
  | invalidate key =>
    rw [act_invalidate]
    exact ⟨_, Dialogue.yields_pure.2 ⟨rfl, rfl⟩, rfl, get?_invalidate_eq_update r.pins key⟩
  | clear => exact ⟨_, Dialogue.yields_pure.2 ⟨rfl, rfl⟩, rfl, rfl⟩
  | get key => exact ⟨_, Dialogue.yields_pure.2 ⟨rfl, rfl⟩, rfl, rfl⟩
  | resolve hr =>
    exact ⟨r, Dialogue.yields_bind_pure.2 ⟨_, yields_resolve.2 hr, rfl⟩, rfl, rfl⟩

theorem yields_acts_nil {answers : List Answer} :
    Yields (r.acts []) events (answers, r') ↔ events = [] ∧ answers = [] ∧ r' = r := by
  rw [acts, Dialogue.yields_pure, Prod.mk.injEq]

theorem yields_acts_cons {a : Act} {as : List Act} {answers : List Answer} :
    Yields (r.acts (a :: as)) events (answers, r') ↔
      ∃ first rest answer others next, events = first ++ rest ∧ answers = answer :: others ∧
        Yields (r.act a) first (answer, next) ∧ Yields (next.acts as) rest (others, r') := by
  rw [acts, Dialogue.yields_bind]
  constructor
  · rintro ⟨first, rest, ⟨answer, next⟩, rfl, hone, hrest⟩
    obtain ⟨⟨others, last⟩, hothers, ⟨⟩⟩ := Dialogue.yields_bind_pure.1 hrest
    exact ⟨first, rest, answer, others, next, rfl, rfl, hone, hothers⟩
  · rintro ⟨first, rest, answer, others, next, rfl, rfl, hone, hothers⟩
    refine ⟨first, rest, (answer, next), rfl, hone, ?_⟩
    exact Dialogue.yields_bind_pure.2 ⟨(others, r'), hothers, rfl⟩

/-- Several acts do no more than they should, by `does_of_yields` for each. -/
theorem runs_of_yields {as : List Act} {answers : List Answer}
    (h : Yields (r.acts as) events (answers, r')) :
    r'.readers = r.readers ∧ Runs r.readers r.pins.get? as events answers r'.pins.get? := by
  induction as generalizing r events answers with
  | nil =>
    obtain ⟨rfl, rfl, rfl⟩ := yields_acts_nil.1 h
    exact ⟨rfl, .nil _⟩
  | cons a as ih =>
    obtain ⟨first, rest, answer, others, next, rfl, rfl, hone, hothers⟩ := yields_acts_cons.1 h
    obtain ⟨hreaders, hdoes⟩ := does_of_yields hone
    obtain ⟨hreaders', hruns⟩ := ih hothers
    rw [hreaders] at hreaders' hruns
    exact ⟨hreaders', .cons hdoes hruns⟩

/-- Several acts can do all that they should. -/
theorem Runs.yields {as : List Act} {answers : List Answer} {pins : PinKey → Option Separator}
    (h : Runs r.readers r.pins.get? as events answers pins) :
    ∃ r', Yields (r.acts as) events (answers, r') ∧ r'.readers = r.readers ∧
      r'.pins.get? = pins := by
  induction as generalizing r events answers with
  | nil =>
    cases h
    exact ⟨r, yields_acts_nil.2 ⟨rfl, rfl, rfl⟩, rfl, rfl⟩
  | cons a as ih =>
    cases h with
    | cons one others =>
      obtain ⟨next, hone, hreaders, rfl⟩ := one.yields
      rw [← hreaders] at others
      obtain ⟨r', hothers, hreaders', hpins⟩ := ih others
      exact ⟨r', yields_acts_cons.2 ⟨_, _, _, _, next, rfl, rfl, hone, hothers⟩,
        hreaders'.trans hreaders, hpins⟩

theorem live_act (r : DomainResolver) (a : Act) : Live (r.act a) := by
  cases a with
  | resolve q => exact (live_resolve r q).bind fun result => Dialogue.live_done _
  | pin | invalidate | clear | get => exact Dialogue.live_done _

theorem live_acts (r : DomainResolver) (as : List Act) : Live (r.acts as) := by
  induction as generalizing r with
  | nil => exact Dialogue.live_done _
  | cons a as ih =>
    exact (live_act r a).bind fun one => (ih one.2).bind fun others => Dialogue.live_done _

/-- What is not pinned stays so until it is pinned again. -/
theorem Runs.unpinned {pins pins' : PinKey → Option Separator} {key : PinKey} {as : List Act}
    {answers : List Answer} (h : Runs readers pins as events answers pins')
    (hkey : pins key = none) (has : ∀ s, Act.pin key s ∉ as) : pins' key = none := by
  induction h with
  | nil => exact hkey
  | @cons pins _ _ a as _ _ _ _ one _ ih =>
    refine ih ?_ fun s hs => has s (List.mem_cons_of_mem a hs)
    cases one with
    | pin other s =>
      have hne : key ≠ other := by
        rintro rfl
        exact has s List.mem_cons_self
      rw [Function.update_of_ne hne, hkey]
    | invalidate other =>
      rw [Function.update_apply, hkey]
      exact ite_self none
    | clear => rfl
    | get | resolve => exact hkey

end DomainResolver

open DomainResolver (Act Runs)

/-- **A resolver does as it should, over whole runs.**  Whatever pins and readers it starts with and
whatever is done with it, what happens is a run of the map of its pins, and each such run can
happen; its readers stay, and in every world it comes to an end.  Each time a separator is resolved,
readers that ask their chains are made to do so once, and only for what is not pinned.  A pin that
was removed is not used again until there is a new one. -/
theorem resolver_runs (r : DomainResolver) (as : List Act) :
    (∀ events answers r', Yields (r.acts as) events (answers, r') →
      r'.readers = r.readers ∧ Runs r.readers r.pins.get? as events answers r'.pins.get?) ∧
    (∀ events answers pins, Runs r.readers r.pins.get? as events answers pins →
      ∃ r', Yields (r.acts as) events (answers, r') ∧ r'.readers = r.readers ∧
        r'.pins.get? = pins) ∧
    (∀ (σ : Type) (world : World (StateM σ)) (s : σ), ∃ events answers r',
      Yields (r.acts as) events (answers, r') ∧
        ((r.acts as).run world s).1 = some (answers, r')) ∧
    ((∀ chain reader, r.readers.get? chain = some reader → reader.Asks chain) →
      ∀ pins q events result, Resolves r.readers pins q events result →
        reads events = if pins q.key = none ∧ r.readers.get? q.chain ≠ none
          then [(q.chain, q.asset)] else []) ∧
    (∀ key events answers r', (∀ s, Act.pin key s ∉ as) →
      Yields (r.acts (.invalidate key :: as)) events (answers, r') →
        ∀ q events d, q.key = key → Yields (r'.resolve q) events (.ok d) →
          d.provenance ≠ .pinned) := by
  refine ⟨fun events answers r' => DomainResolver.runs_of_yields,
    fun events answers pins => Runs.yields, fun σ world s => ?_,
    fun hreaders pins q events result h => h.reads_eq hreaders,
    fun key events answers r' hpin h q events' d hq hd => ?_⟩
  · obtain ⟨events, ⟨answers, r'⟩, hyields, hrun⟩ := (DomainResolver.live_acts r as).run world s
    exact ⟨events, answers, r', hyields, hrun⟩
  · have hkey : r'.pins.get? q.key = none := by
      cases (DomainResolver.runs_of_yields h).2 with
      | cons one others =>
        cases one with
        | invalidate => exact hq ▸ others.unpinned (Function.update_self ..) hpin
    cases DomainResolver.yields_resolve.1 hd with
    | pinned pin => cases hkey.symm.trans pin
    | onChain | computed => exact nofun

/-- A resolver that asks one chain, and has no pins. -/
def asking (chain : ChainNumber) : DomainResolver :=
  ⟨.empty, ChainReaders.empty.insert chain (.direct chain)⟩

theorem asks_asking (chain c : ChainNumber) (reader : ChainReader)
    (h : (asking chain).readers.get? c = some reader) : reader.Asks c := by
  by_cases hc : chain = c
  · subst hc
    have hreader : reader = .direct chain := by
      simpa [asking, ChainReaders.get?, ChainReaders.insert] using h.symm
    exact hreader ▸ ChainReader.asks_direct chain
  · simp [asking, ChainReaders.get?, ChainReaders.insert, ChainReaders.empty, hc] at h

/-- A query with names for the token zero of the chain zero. -/
def bareQuery : DomainQuery := ⟨default, .zero, some "", some ""⟩

/-- A chain is asked, and is silent until the time is up. -/
def bareSilence : List Event := [.asked bareQuery.chain bareQuery.asset .silent, .waited 10000]

/-- A pin is used and removed; then the chain is asked once, and as it is silent, the separator is
computed. -/
theorem resolver_runs_removed :
    (∃ r', Yields
      ((asking bareQuery.chain).acts [.pin bareQuery.key ⟨default⟩, .resolve bareQuery,
        .invalidate bareQuery.key, .resolve bareQuery]) bareSilence
      ([.nothing, .domain (.ok ⟨⟨default⟩, .pinned⟩), .pin (some ⟨default⟩),
        .domain (.ok ⟨SigningDomain.separator ⟨"", "", bareQuery.chain, .zero⟩, .computed⟩)], r')) ∧
    reads bareSilence = [(bareQuery.chain, bareQuery.asset)] := by
  have hreader : (asking bareQuery.chain).readers.get? bareQuery.chain =
      some (.direct bareQuery.chain) := rfl
  have hrun : Leads (ChainReader.direct bareQuery.chain bareQuery.asset)
      [.asked bareQuery.chain bareQuery.asset .silent] .stalled := .cons (.asked ..) (.nil _)
  have hpassed : (asking bareQuery.chain).readers.Passes bareQuery bareSilence :=
    .late hreader hrun ⟨trivial, trivial⟩ trivial
  have hpinned := Function.update_self bareQuery.key (some (Separator.mk default))
    (asking bareQuery.chain).pins.get?
  have hcomputed (pins : PinKey → Option Separator) (h : pins bareQuery.key = none) :=
    Resolves.computed h hpassed rfl rfl
  obtain ⟨-, hruns, -, hreads, -⟩ := resolver_runs (asking bareQuery.chain)
    [.pin bareQuery.key ⟨default⟩, .resolve bareQuery, .invalidate bareQuery.key,
      .resolve bareQuery]
  constructor
  · obtain ⟨r', hyields, -⟩ := hruns _ _ _ (.cons (.pin ..) (.cons (.resolve (.pinned hpinned))
      (.cons (.invalidate _) (.cons (.resolve (hcomputed _ (Function.update_self ..)))
        (.nil _)))))
    rw [hpinned] at hyields
    exact ⟨r', hyields⟩
  · exact (hreads (asks_asking _) _ _ _ _ (hcomputed (fun _ => none) rfl)).trans
      (if_pos ⟨rfl, nofun⟩)

end Tollbooth
