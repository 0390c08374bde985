import Tollbooth.Amount
import Tollbooth.Json.Octets
import Tollbooth.Json.Record
import Tollbooth.Payment.Error
import Tollbooth.Timestamp
/-!
# Transfer authorizations

An authorization lets a token contract move an amount from the payer to the payee within a window
of time.  On the wire its numbers are decimal strings; `Authorization.transfer` takes them as
numbers, or says which of them is wrong.
-/

set_option autoImplicit false

namespace Tollbooth

open Json

/-- An authorization as it travels: numbers are texts. -/
structure Authorization where
  payer : Address
  payee : Address
  value : String
  validAfter : String
  validBefore : String
  nonce : Hash256
deriving DecidableEq

/-- An authorization whose numbers are known. -/
structure Transfer where
  payer : Address
  payee : Address
  value : Amount
  validAfter : Amount
  validBefore : Amount
  nonce : Hash256
deriving DecidableEq

namespace Authorization

/-! ## Documents

The numbers are written as texts, since they have 256 bits and a reader of JSON may have fewer. -/

def payerSlot : Slot Address := .required "from" readAddress
def payeeSlot : Slot Address := .required "to" readAddress
def valueSlot : Slot String := .required "value" readString
def validAfterSlot : Slot String := .required "validAfter" readString
def validBeforeSlot : Slot String := .required "validBefore" readString
def nonceSlot : Slot Hash256 := .required "nonce" (readOctets 32)

/-- Reads an authorization. -/
def read : Reader Authorization :=
  readRecord [payerSlot.field, payeeSlot.field, valueSlot.field, validAfterSlot.field,
      validBeforeSlot.field, nonceSlot.field] fun r =>
    return {
      payer := ← r.get payerSlot
      payee := ← r.get payeeSlot
      value := ← r.get valueSlot
      validAfter := ← r.get validAfterSlot
      validBefore := ← r.get validBeforeSlot
      nonce := ← r.get nonceSlot }

/-- Writes an authorization; addresses have their checksum form. -/
def toDoc (a : Authorization) : Doc :=
  .ofMembers [
    ("from", .ofString a.payer.checksum),
    ("to", .ofString a.payee.checksum),
    ("value", .ofString a.value),
    ("validAfter", .ofString a.validAfter),
    ("validBefore", .ofString a.validBefore),
    ("nonce", .ofOctets a.nonce)]

/-! ## Terms

An authorization that was received may spell its numbers in any way, or have none.  One that is
written here has them in their shortest form. -/

/-- A new authorization that is valid from now on for a length of time. -/
def fresh (payer payee : Address) (value : Amount) (now : Timestamp) (window : Duration)
    (nonce : Hash256) : Authorization :=
  { payer, payee
    value := value.text
    validAfter := now.text
    validBefore := (now.add window).text
    nonce }

/-- The authorization with its numbers, if they are all well written and the window is not empty.
Of several flaws the first in this order is named: value, start, end, window. -/
def transfer (a : Authorization) : Except PaymentError Transfer := do
  let some value := Amount.parse? a.value | .error (.invalidAmount a.value)
  let some validAfter := Amount.parse? a.validAfter
    | .error (.invalidAuthorization (.validAfter a.validAfter))
  let some validBefore := Amount.parse? a.validBefore
    | .error (.invalidAuthorization (.validBefore a.validBefore))
  if validBefore.toNat ≤ validAfter.toNat then .error (.invalidAuthorization .emptyWindow)
  else
    return {
      payer := a.payer, payee := a.payee, value, validAfter, validBefore, nonce := a.nonce }

end Authorization

end Tollbooth
