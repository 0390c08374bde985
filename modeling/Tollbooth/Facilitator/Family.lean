import Tollbooth.Facilitator.Client
/-!
# Clients in use

A client is used for a while: it is asked what is supported, its kept answer is dropped, and other
clients are made from it, which are used beside it.  `Facilitator.does` does one thing with a
client, `Facilitator.act` with one of several, and `Facilitator.acts` does several things one after
the other.

A clock is read for what is kept.  What it shows when a client looks for a kept answer, and when it
keeps a new one, stands with what is done.  A call that would keep an answer beyond the end of the
clock is broken off; whoever catches that finds the client as it was, and may go on with it.
-/

set_option autoImplicit false

namespace Tollbooth

/-- How a client is made from another one. -/
inductive Derivation where
  | clone
  | withCredentials (c : Credentials)
  | withoutCredentials
  | withProvider (p : HeaderProvider)
  | withTimeout (ms : Nat)
  | withLifetime (ms : Nat)
  | withoutCache

namespace Facilitator

/-- Makes a client from another one. -/
def derive (f : Facilitator) : Derivation → Facilitator
  | .clone => f.fresh
  | .withCredentials c => f.withCredentials c
  | .withoutCredentials => f.withoutCredentials
  | .withProvider p => f.withProvider p
  | .withTimeout ms => f.withTimeout ms
  | .withLifetime ms => f.withLifetime ms
  | .withoutCache => f.withoutCache

/-- What can be done with a client.  A request takes its stamp from a time and random bytes. -/
inductive Deed where
  /-- What is supported is asked for at the time `asked`; a new answer is kept at `answered`. -/
  | supported (asked answered time : Nat) (random : Octets 16)
  /-- What is supported is asked for past the kept answer. -/
  | supportedUncached (time : Nat) (random : Octets 16)
  /-- The kept answer is dropped. -/
  | clear
  /-- Another client is made. -/
  | derive (how : Derivation)

/-- What is learned when something is done with a client. -/
inductive Answer where
  | nothing
  | supported (result : Except FacilitatorError Supported)
  /-- The call was broken off, for the clock cannot show when its answer expires. -/
  | brokenOff

/-- What is learned from a call, which may have been broken off. -/
def Answer.ofCall : Option (Except FacilitatorError Supported) → Answer
  | some result => .supported result
  | none => .brokenOff

/-- Does one thing with a client.  The client afterwards and those that were made come with the
answer. -/
def does (f : Facilitator) : Deed → Dialogue (Answer × Facilitator × List Facilitator)
  | .supported asked answered time random => do
    let (result, f) ← f.supported asked answered (.ofRandom time random)
    return (.ofCall result, f, [])
  | .supportedUncached time random => do
    let result ← f.supportedUncached (.ofRandom time random)
    return (.supported result, f, [])
  | .clear => return (.nothing, f.fresh, [])
  | .derive how => return (.nothing, f, [f.derive how])

/-- Something is done with one of several clients. -/
structure Act where
  /-- The place of the client among the others. -/
  place : Nat
  deed : Deed

/-- Does something with one of several clients; those that are made come last. -/
def act (clients : List Facilitator) (a : Act) : Dialogue (Answer × List Facilitator) :=
  match clients[a.place]? with
  | none => return (.nothing, clients)
  | some f => do
    let (answer, f, made) ← f.does a.deed
    return (answer, clients.set a.place f ++ made)

/-- Does several things, one after the other. -/
def acts (clients : List Facilitator) : List Act → Dialogue (List Answer × List Facilitator)
  | [] => return ([], clients)
  | a :: as => do
    let (answer, clients) ← act clients a
    let (answers, clients) ← acts clients as
    return (answer :: answers, clients)

end Facilitator

end Tollbooth
