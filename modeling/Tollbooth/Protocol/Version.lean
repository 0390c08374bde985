import Tollbooth.Json.Record
import Tollbooth.Json.Write
/-!
# Protocol versions

Documents carry the version of the payment protocol they belong to as a number.  `readVersion`
reads either version; `readMarker` only the one that a document type is made for.

A payload may come without a readable version.  `detect` then infers it from the members that only
payloads of one version have: an accepted offer for the second, a scheme and a network for the
first.
-/

set_option autoImplicit false

namespace Tollbooth

/-- A version of the payment protocol. -/
inductive ProtocolVersion where
  | v1
  | v2
deriving DecidableEq, Inhabited

namespace ProtocolVersion

open Json

/-- The number of a version. -/
def number : ProtocolVersion → Nat
  | .v1 => 1
  | .v2 => 2

/-- The version of a number. -/
def ofNumber? : Nat → Option ProtocolVersion
  | 1 => some .v1
  | 2 => some .v2
  | _ => none

/-- The number in decimal. -/
def text (v : ProtocolVersion) : String := toString v.number

/-- Writes a version as a number. -/
def toDoc (v : ProtocolVersion) : Doc := .ofNat v.number

/-- Reads either version. -/
def read : Reader ProtocolVersion := fun site d => do
  let n ← readNat 256 site d
  match ofNumber? n with
  | some v => return v
  | none => .error (.refused s!"unsupported x402Version {n}")

/-- Reads the number of exactly this version. -/
def readMarker (v : ProtocolVersion) : Reader Unit := fun site d => do
  let n ← readNat 256 site d
  if n = v.number then return ()
  else .error (.refused s!"expected version {v.text}, got {n}")

end ProtocolVersion

/-! ## Detection

The number is read as any value, and counts if it is a natural number.  Whatever else stands in its
place is passed over, and the shape decides.  This is what is in fact done with a number such as
2.5, though it was given. -/

/-- Why the version of a payload is not known. -/
inductive DetectError where
  /-- The payload is no record at all. -/
  | notARecord (fault : Json.Fault)
  /-- There is no version of this number. -/
  | unsupported (number : Nat)
  /-- No version, and no members to infer it from. -/
  | unknownShape
deriving DecidableEq

/-- What is said of a payload whose version is not known. -/
def DetectError.message : DetectError → String
  | .notARecord fault => "Payload is not a JSON object: " ++ fault.message
  | .unsupported n => s!"Unsupported x402Version {n}"
  | .unknownShape => "Cannot infer protocol version from payload shape"

/-- The members of a payload that tell its version.  Of all but the version only their presence
matters. -/
structure VersionHints where
  version : Option Json.Value
  accepted : Bool
  scheme : Bool
  network : Bool

namespace VersionHints

open Json

/-- Reads over a member and tells whether it is there: null counts as absent. -/
def readPresence : Reader Bool := fun site d => Option.isSome <$> readOption readSkipped site d

def versionSlot : Slot (Option Value) := .optional "x402Version" readGeneric
def acceptedSlot : Slot Bool := .defaulted "accepted" readPresence false
def schemeSlot : Slot Bool := .defaulted "scheme" readPresence false
def networkSlot : Slot Bool := .defaulted "network" readPresence false

/-- Reads the members that tell the version. -/
def read : Reader VersionHints :=
  readRecord [versionSlot.field, acceptedSlot.field, schemeSlot.field, networkSlot.field] fun r =>
    return {
      version := ← r.get versionSlot
      accepted := ← r.get acceptedSlot
      scheme := ← r.get schemeSlot
      network := ← r.get networkSlot }

/-- The version that the members tell: a number decides, and only without one the shape. -/
def decide (hints : VersionHints) : Except DetectError ProtocolVersion :=
  match hints.version with
  | some (.number (.natural n)) =>
    match ProtocolVersion.ofNumber? n with
    | some v => .ok v
    | none => .error (.unsupported n)
  | _ =>
    if hints.accepted then .ok .v2
    else if hints.scheme && hints.network then .ok .v1
    else .error .unknownShape

end VersionHints

/-- The version of a payload. -/
def ProtocolVersion.detect (payload : Bytes) : Except DetectError ProtocolVersion :=
  match VersionHints.read.ofText payload with
  | .error fault => .error (.notARecord fault)
  | .ok hints => hints.decide

end Tollbooth
