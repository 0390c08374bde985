import Tollbooth.Json.Reader
/-!
# Reading records

A record is an object with known members: unknown members are read over, and a known member that
occurs twice is refused when it occurs.  A member may have a second name.  A record may also be
given as an array of its members in the order of their declaration, where members with a default
may be left out at the end.

A record type declares a `Slot` for each of its members and reads them with `readRecord`.  Reading
goes through the document once in its order, checking each known member as it is met; after that
each slot takes its value, in the order of declaration, which is when a missing member is reported.
-/

set_option autoImplicit false

namespace Tollbooth.Json

open Tollbooth (Bytes)

/-- A member of a record. -/
structure Slot (α : Type) where
  name : String
  /-- Another name that is read as this one. -/
  alias? : Option String
  /-- The member may be left out at the end of an array. -/
  omissible : Bool
  /-- The value of a member that is absent from an object. -/
  absent : Except Fault α
  read : Reader α

/-- A member that has to be there. -/
def Slot.required {α : Type} (name : String) (read : Reader α) : Slot α :=
  ⟨name, none, false, .error (.missing name), read⟩

/-- A member that has a value when it is absent. -/
def Slot.defaulted {α : Type} (name : String) (read : Reader α) (value : α) : Slot α :=
  ⟨name, none, true, .ok value, read⟩

/-- A member that may be null or absent, also at the end of an array. -/
def Slot.optional {α : Type} (name : String) (read : Reader α) : Slot (Option α) :=
  .defaulted name (readOption read) none

/-- A member that may be null or absent in an object, but is counted in an array. -/
def Slot.nullable {α : Type} (name : String) (read : Reader α) : Slot (Option α) :=
  { Slot.optional name read with omissible := false }

/-- The same member with a second name. -/
def Slot.orNamed {α : Type} (slot : Slot α) (other : String) : Slot α :=
  { slot with alias? := some other }

/-- A member with its type forgotten: its names, and whether a document is readable as it. -/
structure Field where
  name : String
  alias? : Option String
  omissible : Bool
  check : Reader Unit

/-- The slot as a field. -/
def Slot.field {α : Type} (slot : Slot α) : Field :=
  ⟨slot.name, slot.alias?, slot.omissible, fun site d => (fun _ => ()) <$> slot.read site d⟩

/-- The key names this field. -/
def Field.hasName (field : Field) (key : String) : Bool :=
  field.name == key || field.alias? == some key

/-- The members of a record as they were found, by name. -/
structure Record where
  site : Site
  found : List (String × Doc)

/-- The members found in an object, in its order. -/
def collectEntries (fields : List Field) (site : Site) :
    List (String × Doc) → List (Bytes × Doc) → Except Fault (List (String × Doc))
  | found, [] => .ok found
  | found, (body, d) :: rest =>
    match unescape? body with
    | none => .error .malformed
    | some key =>
      match fields.find? (·.hasName key) with
      | none => do
        readSkipped site d
        collectEntries fields site found rest
      | some field =>
        if found.any (·.1 == field.name) then .error (.duplicate field.name)
        else do
          field.check site d
          collectEntries fields site (found ++ [(field.name, d)]) rest

/-- The members found in an array, in the order of their declaration. -/
def collectItems (site : Site) (closed : Bool) :
    List Field → List Doc → Except Fault (List (String × Doc))
  | [], [] => if closed then .ok [] else .error .malformed
  | [], _ :: _ => .error site.surplus
  | field :: fields, [] =>
    if !closed then .error .malformed
    else if field.omissible then collectItems site closed fields []
    else .error .wrongLength
  | field :: fields, d :: ds => do
    field.check site d
    let rest ← collectItems site closed fields ds
    return (field.name, d) :: rest

/-- The members of a record. -/
def collect (fields : List Field) : Reader Record := fun site d =>
  match d with
  | .object members => do
    let inner ← site.enter
    let found ← collectEntries fields inner [] members.entries
    if members.closed then return ⟨inner, found⟩ else .error .malformed
  | .array items => do
    let inner ← site.enter
    let found ← collectItems inner items.closed fields items.values
    return ⟨inner, found⟩
  | d => .error (mistake site d)

/-- The value of a member. -/
def Record.get {α : Type} (record : Record) (slot : Slot α) : Except Fault α :=
  match record.found.find? (·.1 == slot.name) with
  | some (_, d) => slot.read record.site d
  | none => slot.absent

/-- Reads a record with these members; `build` takes their values in the order of declaration. -/
def readRecord {α : Type} (fields : List Field) (build : Record → Except Fault α) : Reader α :=
  fun site d => do build (← collect fields site d)

end Tollbooth.Json
