import Tollbooth.Json.Record
import Tollbooth.Json.Write
/-!
# Verification and settlement outcomes

A facilitator answers that a payment is valid or why not, and that it was settled or why not.  On
the wire both are records with a flag that decides which other members matter: a positive answer
has to name the payer, or the transaction, while a negative one only has a reason, which may be
empty.
-/

set_option autoImplicit false

namespace Tollbooth

open Json

/-- Whether a payment is valid. -/
inductive Verification where
  | valid (payer : String)
  | invalid (reason : String) (payer : Option String)
deriving DecidableEq

namespace Verification

/-- The payment is valid. -/
def isValid : Verification → Bool
  | .valid _ => true
  | .invalid _ _ => false

def flagSlot : Slot Bool := (Slot.required "isValid" readBool).orNamed "is_valid"
def payerSlot : Slot (Option String) := .optional "payer" readString
def reasonSlot : Slot (Option String) :=
  (Slot.optional "invalidReason" readString).orNamed "invalid_reason"

/-- Reads a verification. -/
def read : Reader Verification :=
  readRecord [flagSlot.field, payerSlot.field, reasonSlot.field] fun r => do
    let valid ← r.get flagSlot
    let payer ← r.get payerSlot
    let reason ← r.get reasonSlot
    if valid then
      match payer with
      | some payer => return .valid payer
      | none => .error (.missing "payer")
    else return .invalid (reason.getD "") payer

/-- Writes a verification; a negative one always has a reason. -/
def toDoc : Verification → Doc
  | .valid payer => .ofMembers [("isValid", .bool true), ("payer", .ofString payer)]
  | .invalid reason payer =>
    .ofPresent [
      ("isValid", some (.bool false)),
      ("payer", payer.map Doc.ofString),
      ("invalidReason", some (.ofString reason))]

end Verification

/-- Whether a payment was settled. -/
inductive Settlement where
  | settled (transaction : String) (network : String) (payer : Option String)
  | failed (reason : String) (network : String) (payer : Option String)
      (transaction : Option String)
deriving DecidableEq

namespace Settlement

/-- The payment was settled. -/
def isSettled : Settlement → Bool
  | .settled _ _ _ => true
  | .failed _ _ _ _ => false

def flagSlot : Slot Bool := .required "success" readBool
def reasonSlot : Slot (Option String) :=
  (Slot.optional "errorReason" readString).orNamed "error_reason"
def payerSlot : Slot (Option String) := .optional "payer" readString
def transactionSlot : Slot (Option String) := .optional "transaction" readString
def networkSlot : Slot String := .defaulted "network" readString ""

/-- Reads a settlement. -/
def read : Reader Settlement :=
  readRecord [flagSlot.field, reasonSlot.field, payerSlot.field, transactionSlot.field,
      networkSlot.field] fun r => do
    let settled ← r.get flagSlot
    let reason ← r.get reasonSlot
    let payer ← r.get payerSlot
    let transaction ← r.get transactionSlot
    let network ← r.get networkSlot
    if settled then
      match transaction with
      | some transaction => return .settled transaction network payer
      | none => .error (.missing "transaction")
    else return .failed (reason.getD "") network payer transaction

/-- Writes a settlement; a negative one always has a reason. -/
def toDoc : Settlement → Doc
  | .settled transaction network payer =>
    .ofPresent [
      ("success", some (.bool true)),
      ("payer", payer.map Doc.ofString),
      ("transaction", some (.ofString transaction)),
      ("network", some (.ofString network))]
  | .failed reason network payer transaction =>
    .ofPresent [
      ("success", some (.bool false)),
      ("errorReason", some (.ofString reason)),
      ("payer", payer.map Doc.ofString),
      ("transaction", transaction.map Doc.ofString),
      ("network", some (.ofString network))]

end Settlement

end Tollbooth
