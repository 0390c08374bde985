import Tollbooth.Bytes
/-!
# JSON documents as concrete syntax

A `Doc` is the exact syntax of one JSON value: number tokens and string bodies as they were
spelled, and the blanks between tokens.  Nothing is lost, so `Doc.text` gives back the text a
document was scanned from, and a member that has to travel unchanged is simply kept as a `Doc`.

A document may also be *broken off*: the constructors named `broken` stand where the text stops
being JSON.  Everything before that place is still a tree, so that a reader which works through a
document in order meets the first problem first, whether it is a wrong type or wrong text.  An array
may be *torn*: one more item goes wrong right before it closes, which some readers overlook.
`Doc.complete` tells whether there is no such place.
-/

set_option autoImplicit false

namespace Tollbooth.Json

open Tollbooth (Bytes)

mutual

/-- One JSON value, as spelled. -/
inductive Doc where
  /-- The text goes wrong here. -/
  | broken
  | null
  | bool (value : Bool)
  /-- A number token. -/
  | number (token : Bytes)
  /-- A string: what stands between the quotes, escapes included. -/
  | string (body : Bytes)
  | array (items : Items)
  | object (members : Members)

/-- What follows the opening bracket of an array, up to its end.  `before` are the blanks in front
of the comma (none for the first item, which has no comma). -/
inductive Items where
  | broken
  /-- The next item goes wrong, and the array closes right behind the place where it does.  The text
  of both is kept. -/
  | torn (spelled : Bytes)
  | close (gap : Bytes)
  | item (before gap : Bytes) (value : Doc) (rest : Items)

/-- What follows the opening brace of an object, up to its end.  `key` is a string body. -/
inductive Members where
  | broken
  | close (gap : Bytes)
  | member (before gap key afterKey afterColon : Bytes) (value : Doc) (rest : Members)

end

instance : Inhabited Doc := ⟨.broken⟩

/-! ## The text of a document

Each part has the blanks around it, so nothing has to be made up: a complete document that was
scanned has the text that it was scanned from. -/

mutual

/-- The text of a document. -/
def Doc.text : Doc → Bytes
  | .broken => []
  | .null => [0x6e, 0x75, 0x6c, 0x6c]
  | .bool true => [0x74, 0x72, 0x75, 0x65]
  | .bool false => [0x66, 0x61, 0x6c, 0x73, 0x65]
  | .number token => token
  | .string body => 0x22 :: body ++ [0x22]
  | .array items => 0x5b :: items.text true
  | .object members => 0x7b :: members.text true

/-- The text of the rest of an array; `first` when no item stands before it. -/
def Items.text (first : Bool) : Items → Bytes
  | .broken => []
  | .torn spelled => spelled
  | .close gap => gap ++ [0x5d]
  | .item before gap value rest =>
    (if first then [] else before ++ [0x2c]) ++ gap ++ value.text ++ rest.text false

/-- The text of the rest of an object; `first` when no member stands before it. -/
def Members.text (first : Bool) : Members → Bytes
  | .broken => []
  | .close gap => gap ++ [0x7d]
  | .member before gap key afterKey afterColon value rest =>
    (if first then [] else before ++ [0x2c]) ++ gap ++ (0x22 :: key ++ [0x22]) ++ afterKey ++
      (0x3a :: afterColon) ++ value.text ++ rest.text false

end

/-! ## Completeness and content

What stands in front of the place where a container is broken off can still be had; whether the
container was closed behind it is asked for by itself. -/

mutual

/-- No place of the document is broken. -/
def Doc.complete : Doc → Bool
  | .broken => false
  | .array items => items.complete
  | .object members => members.complete
  | _ => true

/-- No place of the rest of this array is broken. -/
def Items.complete : Items → Bool
  | .broken => false
  | .torn _ => false
  | .close _ => true
  | .item _ _ value rest => value.complete && rest.complete

/-- No place of the rest of this object is broken. -/
def Members.complete : Members → Bool
  | .broken => false
  | .close _ => true
  | .member _ _ _ _ _ value rest => value.complete && rest.complete

end

/-- The values of an array, in order. -/
def Items.values : Items → List Doc
  | .broken => []
  | .torn _ => []
  | .close _ => []
  | .item _ _ value rest => value :: rest.values

/-- The array was closed by its bracket. -/
def Items.closed : Items → Bool
  | .broken => false
  | .torn _ => false
  | .close _ => true
  | .item _ _ _ rest => rest.closed

/-- The array was closed behind a faulty item. -/
def Items.isTorn : Items → Bool
  | .broken => false
  | .torn _ => true
  | .close _ => false
  | .item _ _ _ rest => rest.isTorn

/-- The members of an object, in order: key bodies and values. -/
def Members.entries : Members → List (Bytes × Doc)
  | .broken => []
  | .close _ => []
  | .member _ _ key _ _ value rest => (key, value) :: rest.entries

/-- The object was closed by its brace. -/
def Members.closed : Members → Bool
  | .broken => false
  | .close _ => true
  | .member _ _ _ _ _ _ rest => rest.closed

/-! ## Compact documents

Written documents have no blanks. -/

/-- The array body with these values and no blanks. -/
def Items.ofList : List Doc → Items
  | [] => .close []
  | d :: ds => .item [] [] d (Items.ofList ds)

/-- The object body with these members and no blanks. -/
def Members.ofList : List (Bytes × Doc) → Members
  | [] => .close []
  | (key, d) :: ds => .member [] [] key [] [] d (Members.ofList ds)

@[simp] theorem Items.values_ofList (ds : List Doc) : (Items.ofList ds).values = ds := by
  induction ds with
  | nil => rfl
  | cons d ds ih => simp [Items.ofList, Items.values, ih]

@[simp] theorem Items.closed_ofList (ds : List Doc) : (Items.ofList ds).closed = true := by
  induction ds with
  | nil => rfl
  | cons d ds ih => simp [Items.ofList, Items.closed, ih]

@[simp] theorem Members.entries_ofList (ms : List (Bytes × Doc)) :
    (Members.ofList ms).entries = ms := by
  induction ms with
  | nil => rfl
  | cons m ms ih => simp [Members.ofList, Members.entries, ih]

@[simp] theorem Members.closed_ofList (ms : List (Bytes × Doc)) :
    (Members.ofList ms).closed = true := by
  induction ms with
  | nil => rfl
  | cons m ms ih => simp [Members.ofList, Members.closed, ih]

end Tollbooth.Json
