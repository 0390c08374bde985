import Tollbooth.Json.Number
import Tollbooth.Json.StringBody
/-!
# Generic JSON values

A `Value` is a document with its spelling forgotten: strings are texts, numbers are numbers, and
the members of an object are sorted by key with one member for each.  `Value.toDoc` writes it
without blanks, so a value that was read and written again is in a normal form.
-/

set_option autoImplicit false

namespace Tollbooth.Json

/-- A generic JSON value.  The members of an object are in increasing order of their keys. -/
inductive Value where
  | null
  | bool (value : Bool)
  | number (value : Number)
  | string (value : String)
  | array (items : List Value)
  | object (members : List (String × Value))

instance : Inhabited Value := ⟨.null⟩

namespace Value

/-- The members with one more: it takes the place of a member of the same key. -/
def insertMember {α : Type} (key : String) (value : α) : List (String × α) → List (String × α)
  | [] => [(key, value)]
  | (k, v) :: rest =>
    if key < k then (key, value) :: (k, v) :: rest
    else if key = k then (key, value) :: rest
    else (k, v) :: insertMember key value rest

/-- The member of this key. -/
def lookupMember {α : Type} (key : String) (members : List (String × α)) : Option α :=
  (members.find? fun m => m.1 == key).map (·.2)

mutual

/-- The document of a value, without blanks. -/
def toDoc : Value → Doc
  | .null => .null
  | .bool b => .bool b
  | .number n => .number (Bytes.ofString n.text)
  | .string s => .string (escape s)
  | .array items => .array (.ofList (toDocs items))
  | .object members => .object (.ofList (toMembers members))

/-- The documents of some values. -/
def toDocs : List Value → List Doc
  | [] => []
  | v :: vs => v.toDoc :: toDocs vs

/-- The documents of some members. -/
def toMembers : List (String × Value) → List (Bytes × Doc)
  | [] => []
  | (k, v) :: ms => (escape k, v.toDoc) :: toMembers ms

end

/-- The member of an object; a value of another kind has none. -/
def get? (key : String) : Value → Option Value
  | .object members => lookupMember key members
  | _ => none

/-- The text of a string value. -/
def asString? : Value → Option String
  | .string s => some s
  | _ => none

end Value

end Tollbooth.Json
