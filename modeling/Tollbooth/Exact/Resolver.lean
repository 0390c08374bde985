import Tollbooth.Dialogue
import Tollbooth.Exact.Digest
import Tollbooth.Duration
/-!
# Resolving signing domains

A payer needs the separator of the token's signing domain.  It may be pinned, the chain may tell
it, or it may be computed from a name and a version that the offer gives; the sources are tried in
this order.  A chain that fails or does not answer in time is passed over.

Pins are a finite map by chain number and asset (`Pins.get?`, `Pins.pin`, `Pins.invalidate`).  They
may change while a resolver is in use: `DomainResolver.act` does one thing with it, and
`DomainResolver.acts` several.

The three sources are not equally good.  A pin was put there on purpose; a chain tells what its
contract checks signatures against, if the endpoint can be trusted; a separator that is computed
from names is right if the names are.  So where a separator came from is part of the answer.
-/

set_option autoImplicit false

namespace Tollbooth

/-- A token contract on a chain, as pins are kept for it. -/
structure PinKey where
  chain : ChainNumber
  asset : Address
deriving DecidableEq

/-- Pinned separators: one for each key. -/
structure Pins where
  entries : List (PinKey × Separator)

namespace Pins

/-- No pins. -/
def empty : Pins := ⟨[]⟩

/-- The number of pins. -/
def size (pins : Pins) : Nat := pins.entries.length

/-- The separator pinned for a key. -/
def get? (pins : Pins) (key : PinKey) : Option Separator :=
  (pins.entries.find? fun e => e.1 == key).map (·.2)

/-- Pins a separator in place of any other for the key. -/
def pin (pins : Pins) (key : PinKey) (s : Separator) : Pins :=
  ⟨(key, s) :: pins.entries.filter fun e => !(e.1 == key)⟩

/-- Removes the pin of a key, which comes with the pins that are left. -/
def invalidate (pins : Pins) (key : PinKey) : Option Separator × Pins :=
  let (removed, kept) := pins.entries.partition fun e => e.1 == key
  (removed.head?.map (·.2), ⟨kept⟩)

/-- The separators that are pinned from the start: chain, asset, separator. -/
def builtin : List (Nat × String × String) :=
  [(10087, "0x9be8Df37C788B244cFc28E46654aD5Ec28a880AF",
    "0x2c2d6b621e73a4a094449d1894717413742130fb20149ec48340ca0354d1a707")]

/-- The pins that are there from the start. -/
def defaults : Pins :=
  builtin.foldl
    (fun pins (chain, asset, separator) =>
      match ChainNumber.ofNat? chain, Address.parse? asset, Separator.parse? separator with
      | some chain, some asset, some separator => pins.pin ⟨chain, asset⟩ separator
      | _, _, _ => pins)
    empty

end Pins

/-- What a separator is wanted for. -/
structure DomainQuery where
  chain : ChainNumber
  asset : Address
  name : Option String
  version : Option String

/-- Where a separator came from. -/
inductive Provenance where
  | pinned
  | onChain
  | computed
deriving DecidableEq

/-- The word for a source. -/
def Provenance.text : Provenance → String
  | .pinned => "pinned"
  | .onChain => "on-chain"
  | .computed => "local"

/-- A separator and where it came from. -/
structure ResolvedDomain where
  separator : Separator
  provenance : Provenance

/-- A way to ask a chain for the separator of a contract. -/
abbrev ChainReader := Address → Dialogue Reading

/-- Asks the world outside directly. -/
def ChainReader.direct (chain : ChainNumber) : ChainReader := fun asset =>
  .read chain asset fun
    | .silent => .stalled
    | reading => .done reading

/-- Readers by chain. -/
structure ChainReaders where
  entries : List (ChainNumber × ChainReader)
  /-- How long a chain may take to answer, in milliseconds. -/
  timeout : Nat

namespace ChainReaders

/-- How long a chain may take unless it is set. -/
def defaultTimeout : Nat := 10000

/-- No readers. -/
def empty : ChainReaders := ⟨[], defaultTimeout⟩

/-- The reader of a chain. -/
def get? (readers : ChainReaders) (chain : ChainNumber) : Option ChainReader :=
  (readers.entries.find? fun e => e.1 == chain).map (·.2)

/-- Sets the reader of a chain in place of any other. -/
def insert (readers : ChainReaders) (chain : ChainNumber) (reader : ChainReader) : ChainReaders :=
  { readers with
    entries := (chain, reader) :: readers.entries.filter fun e => !(e.1 == chain) }

/-- The readers as they are shown. -/
def shown (readers : ChainReaders) : String :=
  "ChainSeparators \x7b chains: [" ++
    ", ".intercalate (readers.entries.map fun e => "Eip155ChainReference(" ++ e.1.text ++ ")") ++
    "], timeout: " ++ (Duration.ofMilliseconds readers.timeout).text ++ " \x7d"

/-- The separator that the chain tells in time, if it has a reader. -/
def lookup (readers : ChainReaders) (q : DomainQuery) : Dialogue (Option Separator) :=
  match readers.get? q.chain with
  | none => return none
  | some reader => do
    match ← (reader q.asset).limit readers.timeout with
    | some (.answered hash) => return some ⟨hash⟩
    | _ => return none

end ChainReaders

/-- The separator computed from a name and a version, if both are given. -/
def DomainQuery.compute? (q : DomainQuery) : Option Separator := do
  let name ← q.name
  let version ← q.version
  return SigningDomain.separator ⟨name, version, q.chain, q.asset⟩

/-- What is needed to resolve a separator. -/
structure DomainResolver where
  pins : Pins
  readers : ChainReaders

namespace DomainResolver

/-- The resolver with the built-in pins and no readers. -/
def default : DomainResolver := ⟨.defaults, .empty⟩

/-- Resolves the separator of a query: pinned, told by the chain, or computed. -/
def resolve (r : DomainResolver) (q : DomainQuery) :
    Dialogue (Except PaymentError ResolvedDomain) :=
  match r.pins.get? ⟨q.chain, q.asset⟩ with
  | some s => return .ok ⟨s, .pinned⟩
  | none => do
    match ← r.readers.lookup q with
    | some s => return .ok ⟨s, .onChain⟩
    | none =>
      match q.compute? with
      | some s => return .ok ⟨s, .computed⟩
      | none => return .error (.metadataMissing q.chain q.asset)

/-- What can be done with a resolver. -/
inductive Act where
  /-- A separator is pinned. -/
  | pin (key : PinKey) (s : Separator)
  /-- A pin is removed. -/
  | invalidate (key : PinKey)
  /-- All pins are removed. -/
  | clear
  /-- A pin is looked up. -/
  | get (key : PinKey)
  /-- A separator is resolved. -/
  | resolve (q : DomainQuery)

/-- What is learned when something is done with a resolver. -/
inductive Answer where
  | nothing
  /-- The pin that is or was there, if any. -/
  | pin (s : Option Separator)
  | domain (result : Except PaymentError ResolvedDomain)

/-- Does one thing with a resolver. -/
def act (r : DomainResolver) : Act → Dialogue (Answer × DomainResolver)
  | .pin key s => return (.nothing, { r with pins := r.pins.pin key s })
  | .invalidate key =>
    let (removed, pins) := r.pins.invalidate key
    return (.pin removed, { r with pins })
  | .clear => return (.nothing, { r with pins := .empty })
  | .get key => return (.pin (r.pins.get? key), r)
  | .resolve q => do
    let result ← r.resolve q
    return (.domain result, r)

/-- Does several things with a resolver, one after the other. -/
def acts (r : DomainResolver) : List Act → Dialogue (List Answer × DomainResolver)
  | [] => return ([], r)
  | a :: as => do
    let (answer, r) ← r.act a
    let (answers, r) ← r.acts as
    return (answer :: answers, r)

/-- The resolver as it is shown. -/
def shown (r : DomainResolver) : String :=
  "DomainSeparatorResolver \x7b pinned: " ++ toString r.pins.size ++
    ", sources: [Pinned, OnChain, Local] \x7d"

end DomainResolver

end Tollbooth
