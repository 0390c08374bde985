import Tollbooth.Json.Value
/-!
# Writing documents

Values are written as documents without blanks, members in the order of their declaration.  An
absent optional member is left out, or written as null where the format keeps it.
`Doc.pretty` lays a document out for people, two spaces for each level.
-/

set_option autoImplicit false

namespace Tollbooth.Json

open Tollbooth (Bytes)

namespace Doc

/-- The document of a text. -/
def ofString (s : String) : Doc := .string (escape s)

/-- The document of a natural number. -/
def ofNat (n : Nat) : Doc := .number (Bytes.ofString (toString n))

/-- The document of some documents in order. -/
def ofList (ds : List Doc) : Doc := .array (.ofList ds)

/-- The object with these members in order. -/
def ofMembers (ms : List (String × Doc)) : Doc :=
  .object (.ofList (ms.map fun (key, d) => (escape key, d)))

/-- The object with these members in order, without the absent ones. -/
def ofPresent (ms : List (String × Option Doc)) : Doc :=
  ofMembers (ms.filterMap fun (key, d) => d.map (key, ·))

/-- The document of an optional value that is written as null when it is absent. -/
def ofOption {α : Type} (write : α → Doc) : Option α → Doc
  | none => .null
  | some a => write a

/-- The text of a document, as text. -/
def render (d : Doc) : String := (Bytes.toString? d.text).getD ""

end Doc

/-! ## Layout for people

Each item and member has a line of its own, indented by its depth.  This changes blanks only, so a
complete document is read as the same value in either layout. -/

/-- A new line at a level of indentation. -/
def newline (level : Nat) : Bytes := 0x0a :: List.replicate (2 * level) 0x20

mutual

/-- The text of a document with a line for each item and member. -/
def Doc.pretty (level : Nat) : Doc → Bytes
  | .array (.close _) => [0x5b, 0x5d]
  | .object (.close _) => [0x7b, 0x7d]
  | .array items => 0x5b :: items.pretty (level + 1) true
  | .object members => 0x7b :: members.pretty (level + 1) true
  | d => d.text

/-- The lines of the rest of an array. -/
def Items.pretty (level : Nat) (first : Bool) : Items → Bytes
  | .broken => []
  | .torn _ => []
  | .close _ => newline (level - 1) ++ [0x5d]
  | .item _ _ value rest =>
    (if first then [] else [0x2c]) ++ newline level ++ value.pretty level ++
      rest.pretty level false

/-- The lines of the rest of an object. -/
def Members.pretty (level : Nat) (first : Bool) : Members → Bytes
  | .broken => []
  | .close _ => newline (level - 1) ++ [0x7d]
  | .member _ _ key _ _ value rest =>
    (if first then [] else [0x2c]) ++ newline level ++ (0x22 :: key ++ [0x22]) ++
      [0x3a, 0x20] ++ value.pretty level ++ rest.pretty level false

end

/-- The text of a document laid out for people. -/
def Doc.renderPretty (d : Doc) : String := (Bytes.toString? (d.pretty 0)).getD ""

end Tollbooth.Json
