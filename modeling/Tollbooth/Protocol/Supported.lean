import Tollbooth.Json.Record
import Tollbooth.Json.Write
/-!
# What a facilitator supports

A facilitator lists the kinds of payment it can verify and settle.  Kinds that cannot be read are
left out of the list, so that a kind of a later version does not hide the others.
-/

set_option autoImplicit false

namespace Tollbooth

open Json

/-- A kind of payment: protocol version, scheme and network. -/
structure SupportedKind where
  version : Nat
  scheme : String
  network : String
  extra : Option Value

namespace SupportedKind

def versionSlot : Slot Nat := .required "x402Version" (readNat 256)
def schemeSlot : Slot String := .required "scheme" readString
def networkSlot : Slot String := .required "network" readString
def extraSlot : Slot (Option Value) := .optional "extra" readGeneric

/-- Reads a kind of payment. -/
def read : Reader SupportedKind :=
  readRecord [versionSlot.field, schemeSlot.field, networkSlot.field, extraSlot.field] fun r =>
    return {
      version := ← r.get versionSlot
      scheme := ← r.get schemeSlot
      network := ← r.get networkSlot
      extra := ← r.get extraSlot }

/-- Writes a kind of payment. -/
def toDoc (k : SupportedKind) : Doc :=
  .ofPresent [
    ("x402Version", some (.ofNat k.version)),
    ("scheme", some (.ofString k.scheme)),
    ("network", some (.ofString k.network)),
    ("extra", k.extra.map Value.toDoc)]

end SupportedKind

/-- The list of what a facilitator supports. -/
structure Supported where
  kinds : List SupportedKind
  extensions : List String
  /-- The accounts that sign for the facilitator, by pattern of chains. -/
  signers : List (String × List String)

namespace Supported

def kindsSlot : Slot (List SupportedKind) :=
  .defaulted "kinds" (readListLenient SupportedKind.read) []
def extensionsSlot : Slot (List String) := .defaulted "extensions" (readList readString) []
def signersSlot : Slot (List (String × List String)) :=
  .defaulted "signers" (readMap (readList readString)) []

/-- Reads the list of what is supported. -/
def read : Reader Supported :=
  readRecord [kindsSlot.field, extensionsSlot.field, signersSlot.field] fun r =>
    return {
      kinds := ← r.get kindsSlot
      extensions := ← r.get extensionsSlot
      signers := ← r.get signersSlot }

/-- Writes the list of what is supported. -/
def toDoc (s : Supported) : Doc :=
  .ofMembers [
    ("kinds", .ofList (s.kinds.map SupportedKind.toDoc)),
    ("extensions", .ofList (s.extensions.map Doc.ofString)),
    ("signers", .ofMembers (s.signers.map fun (k, vs) => (k, .ofList (vs.map Doc.ofString))))]

end Supported

end Tollbooth
