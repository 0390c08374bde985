import Tollbooth.Chain.Address
import Tollbooth.Chain.Id
import Tollbooth.Http.Message
/-!
# Computations that talk to the world outside

Paying for a request takes a conversation: requests are sent, chains are asked for what they know,
a key that is kept elsewhere is asked to sign, and time passes.  A `Dialogue` is such a computation
as data: it is either finished or it asks a question and goes on with whatever is answered.  What a
computation does against every possible world is thereby a statement about a tree.

`Dialogue.limit` cuts a computation off when it takes too long, and `Dialogue.run` lets a world
answer.  A computation may also be stalled for good, which only a limit ends.

The answers are not part of a computation.  What a server sends, what a chain knows and whether a
signer agrees are arguments of the next step, so there is nothing to assume about them, and a
theorem about a dialogue holds for servers that misbehave as well as for those that do not.  The
same computation runs against the real world and against a list of prepared answers.
-/

set_option autoImplicit false

namespace Tollbooth

/-- What a chain answers when asked for a signing domain. -/
inductive Reading where
  | answered (separator : Hash256)
  | failed
  /-- No answer ever comes. -/
  | silent
deriving DecidableEq, Inhabited

/-- A computation that talks to the world outside. -/
inductive Dialogue (α : Type) where
  /-- The computation is finished. -/
  | done (result : α)
  /-- A request is sent. -/
  | send (request : Http.Request) (next : Http.Exchange → Dialogue α)
  /-- A chain is asked for the signing domain of a contract. -/
  | read (chain : ChainNumber) (asset : Address) (next : Reading → Dialogue α)
  /-- The holder of an account's key is asked to sign a digest. -/
  | sign (account : Address) (digest : Hash256) (next : Except String (Octets 65) → Dialogue α)
  /-- Time passes, in milliseconds. -/
  | wait (milliseconds : Nat) (next : Dialogue α)
  /-- Nothing ever happens again. -/
  | stalled

namespace Dialogue

variable {α β : Type}

/-- The computation that goes on with the result of another one. -/
def bind (d : Dialogue α) (f : α → Dialogue β) : Dialogue β :=
  match d with
  | .done a => f a
  | .send request next => .send request fun x => (next x).bind f
  | .read chain asset next => .read chain asset fun x => (next x).bind f
  | .sign account digest next => .sign account digest fun x => (next x).bind f
  | .wait ms next => .wait ms (next.bind f)
  | .stalled => .stalled

instance : Monad Dialogue where
  pure := .done
  bind := bind

@[simp] theorem done_bind (a : α) (f : α → Dialogue β) : (Dialogue.done a >>= f) = f a := rfl

@[simp] theorem pure_bind (a : α) (f : α → Dialogue β) : (pure a >>= f : Dialogue β) = f a := rfl

/-- Sends a request and waits for what becomes of it, for good if no answer comes.  Nothing is
delivered to a URL without a host. -/
def exchange (request : Http.Request) : Dialogue (Except Http.TransportFault Http.Response) :=
  if request.url.hasHost then
    .send request fun
      | .answered response => .done (.ok response)
      | .failed fault => .done (.error fault)
      | .silent => .stalled
  else .done (.error .undelivered)

/-! ## Limits

A limit is a change of the tree.  It counts down where time passes and ends the computation where
nothing is left of it; what has been asked until then has been asked. -/

/-- The computation with a limit on its time: without a result if the limit passes first.  A wait of
exactly the limit is cut off, and what would come after it at the same moment is not seen; but what
takes no time is given under every limit, for it is looked at before the clock is. -/
def limit : Nat → Dialogue α → Dialogue (Option α)
  | _, .done a => .done (some a)
  | left, .send request next => .send request fun x => (next x).limit left
  | left, .read chain asset next => .read chain asset fun x => (next x).limit left
  | left, .sign account digest next => .sign account digest fun x => (next x).limit left
  | left, .wait ms next =>
    if ms < left then .wait ms (next.limit (left - ms)) else .wait left (.done none)
  | left, .stalled => .wait left (.done none)

/-- The computation with a limit if there is one. -/
def limit? : Option Nat → Dialogue α → Dialogue (Option α)
  | some ms, d => d.limit ms
  | none, d => d.bind fun a => .done (some a)

/-! ## Worlds

A world is a way to answer, with effects of any kind.  The questions of a computation do not depend
on it, but on the answers alone. -/

/-- A world answers the questions of a computation, and changes by it. -/
structure World (m : Type → Type) where
  send : Http.Request → m Http.Exchange
  read : ChainNumber → Address → m Reading
  sign : Address → Hash256 → m (Except String (Octets 65))
  wait : Nat → m Unit

/-- The computation with the answers of a world; it has no result if it stalls. -/
def run {m : Type → Type} [Monad m] (world : World m) : Dialogue α → m (Option α)
  | .done a => pure (some a)
  | .send request next => do (next (← world.send request)).run world
  | .read chain asset next => do (next (← world.read chain asset)).run world
  | .sign account digest next => do (next (← world.sign account digest)).run world
  | .wait ms next => do
    world.wait ms
    next.run world
  | .stalled => pure none

end Dialogue

end Tollbooth
