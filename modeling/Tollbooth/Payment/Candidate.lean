import Tollbooth.Dialogue
import Tollbooth.Payment.Error
import Tollbooth.Protocol.Demand
import Tollbooth.Timestamp
/-!
# Candidates for payment

A scheme looks at a demand and says which of its offers it can pay: each is a `Candidate`, which
can be asked for the header text that pays it.  `candidates` collects those of several schemes in
the order of the offers, and a `Selector` picks the one to pay.

A selector answers with a member of the list that it was given, so it cannot invent a payment.

What a candidate says of its offer is what the offer says, unread as far as possible.  The amount is
a text here, and may be no number; a selector that compares amounts has to read them, and signing
checks them.
-/

set_option autoImplicit false

namespace Tollbooth

/-- What a payment takes from the moment it is made: the time and a number used once. -/
structure Occasion where
  now : Timestamp
  nonce : Hash256
deriving DecidableEq

/-- An offer that a scheme can pay. -/
structure Candidate where
  /-- The place of the offer in the demand. -/
  offerIndex : Nat
  chain : ChainId
  asset : String
  /-- The amount as offered; it is checked when the payment is made. -/
  amount : String
  scheme : String
  version : Nat
  payTo : String
  /-- Makes the payment: the text of the header that carries it. -/
  sign : Occasion → Dialogue (Except PaymentError String)

/-- The candidate as it is shown. -/
def Candidate.shown (c : Candidate) : String :=
  "PaymentCandidate \x7b offer_index: " ++ toString c.offerIndex ++
    ", chain_id: ChainId \x7b namespace: " ++ Text.quoted c.chain.ns ++
    ", reference: " ++ Text.quoted c.chain.reference ++ " \x7d, asset: " ++ Text.quoted c.asset ++
    ", amount: " ++ Text.quoted c.amount ++ ", scheme: " ++ Text.quoted c.scheme ++
    ", x402_version: " ++ toString c.version ++ ", pay_to: " ++ Text.quoted c.payTo ++ ", .. \x7d"

/-- A way to pay: the candidates that a demand gives it. -/
structure Scheme where
  accept : Demand → List Candidate

/-- The candidates of all schemes in the order of the offers.  For the same offer the earlier scheme
comes first, and the candidates of one scheme keep their order. -/
def candidates (schemes : List Scheme) (demand : Demand) : List Candidate :=
  (schemes.flatMap fun s => s.accept demand).mergeSort fun a b => a.offerIndex ≤ b.offerIndex

/-- A choice among candidates. -/
abbrev Selector := (cs : List Candidate) → Option { c : Candidate // c ∈ cs }

/-- Picks the first candidate. -/
def Selector.first : Selector
  | [] => none
  | c :: _ => some ⟨c, List.mem_cons_self⟩

end Tollbooth
