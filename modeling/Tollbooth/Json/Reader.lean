import Tollbooth.Json.Value
/-!
# Reading documents as values of a type

A reader turns a document into a value of some type or says what is wrong with it.  Readers work
through a document in its order, so of several problems the first one is reported; a wrong type is
reported before anything inside the value is looked at.

* Scalars: `readString`, `readBool`, `readNat`, `readInt`.
* Documents themselves: `readSkipped` and `readVerbatim` only look at the syntax, `readGeneric`
  reads any value.
* Containers: `readList`, `readMap`, `readOption`.
* Records are read by `Tollbooth.Json.Record`.
-/

set_option autoImplicit false

namespace Tollbooth.Json

open Tollbooth (Bytes)

/-- What can be wrong with a document that is read. -/
inductive Fault where
  /-- The text is not JSON here, or it is nested too deeply, or a number or string in it cannot be
  represented. -/
  | malformed
  /-- A value of another kind was expected. -/
  | mistyped
  /-- A number does not fit. -/
  | outOfRange
  /-- A sequence is too short or too long. -/
  | wrongLength
  /-- A member is missing. -/
  | missing (member : String)
  /-- A member occurs twice. -/
  | duplicate (member : String)
  /-- The content of a value is refused, for a reason of the domain. -/
  | refused (reason : String)
  /-- The content of a value does not have the form that its type asks for, such as hexadecimal
  digits or a URL. -/
  | illFormed
deriving DecidableEq, Inhabited

/-- What is said of a fault. -/
def Fault.message : Fault → String
  | .malformed => "the text is not well-formed JSON"
  | .mistyped => "a value has the wrong type"
  | .outOfRange => "a number is out of range"
  | .wrongLength => "an array has the wrong length"
  | .missing name => "missing field `" ++ name ++ "`"
  | .duplicate name => "duplicate field `" ++ name ++ "`"
  | .refused reason => reason
  | .illFormed => "a text does not have the form that is asked for"

/-- What a document is read from. -/
inductive Site where
  /-- A text that is read as it comes; containers may be entered so many levels deeper. -/
  | text (levels : Nat)
  /-- A generic value, which is at hand as a whole. -/
  | value
deriving DecidableEq, Inhabited

namespace Site

/-- How deep a text may be nested where values are kept. -/
def nestingLimit : Nat := 127

/-- The start of a text. -/
def start : Site := .text nestingLimit

/-- The site inside a container. -/
def enter : Site → Except Fault Site
  | .text 0 => .error .malformed
  | .text (levels + 1) => .ok (.text levels)
  | .value => .ok .value

/-- What it means that an array has more items than were asked for: wrong text if more of it is to
come, else a wrong length. -/
def surplus : Site → Fault
  | .text _ => .malformed
  | .value => .wrongLength

/-- The number of a token.  The tokens of a value at hand are its own shortest texts. -/
def number? : Site → Bytes → Option Number
  | .text _ => Number.ofToken?
  | .value => Number.ofShortest?

end Site

/-- A way to read a value of a type. -/
abbrev Reader (α : Type) := Site → Doc → Except Fault α

/-- What to say of a document of the wrong kind.  A scalar is looked at first, so it is wrong text
if it cannot be represented; a container is not entered. -/
def mistake (site : Site) : Doc → Fault
  | .broken => .malformed
  | .number token => if (site.number? token).isSome then .mistyped else .malformed
  | .string body => if (unescape? body).isSome then .mistyped else .malformed
  | _ => .mistyped

/-! ## Scalars

A scalar of another kind is a mistake in its type only if it could be represented; else it is wrong
text, as a reader finds out when it takes the token. -/

/-- Reads a text. -/
def readString : Reader String := fun site d =>
  match d with
  | .string body =>
    match unescape? body with
    | some s => .ok s
    | none => .error .malformed
  | d => .error (mistake site d)

/-- Reads a truth value. -/
def readBool : Reader Bool := fun site d =>
  match d with
  | .bool b => .ok b
  | d => .error (mistake site d)

/-- Reads a number as it is. -/
def readNumber : Reader Number := fun site d =>
  match d with
  | .number token =>
    match site.number? token with
    | some n => .ok n
    | none => .error .malformed
  | d => .error (mistake site d)

/-- Reads an integer between the bounds.  A float is of the wrong kind even if it is whole. -/
def readInt (least greatest : Int) : Reader Int := fun site d => do
  let n : Int ←
    match ← readNumber site d with
    | .natural n => pure (n : Int)
    | .negative n => pure (-(n : Int))
    | .float _ => .error .mistyped
  if least ≤ n ∧ n ≤ greatest then return n else .error .outOfRange

/-- Reads an integer from zero to below the bound. -/
def readNat (bound : Nat) : Reader Nat := fun site d =>
  Int.toNat <$> readInt 0 ((bound : Int) - 1) site d

/-! ## Documents themselves

A value of unknown type is read as a generic value, which takes numbers and strings as what they
stand for, or only looked through for its syntax. -/

/-- Reads over a document: only its syntax matters. -/
def readSkipped : Reader Unit := fun _ d => if d.complete then .ok () else .error .malformed

/-- The key of an object that stands for a JSON text: the string of its only member is that text. -/
def embeddingKey : String := "$serde_json::private::RawValue"

/-- How an object with the key `embeddingKey` is read: as the value of the text in it, or like any
other object. -/
abbrev Embedding := Option (String → Except Fault Value)

/-- The first member of an object if it has the key `embeddingKey`, and whether the object is closed
right behind it. -/
def Members.embedded? : Members → Option (Doc × Bool)
  | .member _ _ body _ _ d rest =>
    if unescape? body = some embeddingKey then
      some (d, match rest with
        | .close _ => true
        | _ => false)
    else none
  | _ => none

/-- The value that an object with an embedded text stands for.  Nothing may follow the text. -/
def readEmbedded (site : Site) (read : String → Except Fault Value) (d : Doc) (closed : Bool) :
    Except Fault Value := do
  let v ← read (← readString site d)
  if closed then return v else .error site.surplus

mutual

/-- The generic value of a document. -/
def generic (embedding : Embedding) : Site → Doc → Except Fault Value
  | _, .broken => .error .malformed
  | _, .null => .ok .null
  | _, .bool b => .ok (.bool b)
  | site, .number token => Value.number <$> readNumber site (.number token)
  | site, .string body => Value.string <$> readString site (.string body)
  | site, .array items => do
    let inner ← site.enter
    Value.array <$> genericItems embedding inner items
  | site, .object members => do
    let inner ← site.enter
    match embedding, members.embedded? with
    | some read, some (d, closed) => readEmbedded inner read d closed
    | _, _ => Value.object <$> genericMembers embedding inner [] members

/-- The generic values of array items. -/
def genericItems (embedding : Embedding) : Site → Items → Except Fault (List Value)
  | _, .broken => .error .malformed
  | _, .torn _ => .error .malformed
  | _, .close _ => .ok []
  | site, .item _ _ d rest => do
    let v ← generic embedding site d
    let vs ← genericItems embedding site rest
    return v :: vs

/-- The generic values of members, put to those that came before. -/
def genericMembers (embedding : Embedding) :
    Site → List (String × Value) → Members → Except Fault (List (String × Value))
  | _, _, .broken => .error .malformed
  | _, found, .close _ => .ok found
  | site, found, .member _ _ body _ _ d rest =>
    match unescape? body with
    | none => .error .malformed
    | some key => do
      let v ← generic embedding site d
      genericMembers embedding site (Value.insertMember key v found) rest

end

/-- The value of an embedded text.  A text that is no JSON is a string of the wrong form.  A text in
the text is shorter than it, so its length is fuel enough. -/
def genericText : Nat → String → Except Fault Value
  | 0, _ => .error .illFormed
  | fuel + 1, s =>
    let (d, rest) := scanFront (Bytes.ofString s)
    match generic (some (genericText fuel)) .start d with
    | .ok v => if allBlank rest then .ok v else .error .illFormed
    | .error .malformed => .error .illFormed
    | .error fault => .error fault

/-- Reads any value.  Of members with the same key the last one counts. -/
def readGeneric : Reader Value := generic (some fun s => genericText (s.utf8ByteSize + 1) s)

/-- Reads over any value that could be kept: it has no text that cannot be represented, and is not
nested too deeply. -/
def readStored : Reader Unit := fun site d => (fun _ => ()) <$> generic none site d

/-! ## Containers

A container is entered one level deeper, and its items are read one by one until one of them cannot
be. -/

/-- Reads items one by one; `closed` tells whether the array was closed after them. -/
def readItems {α : Type} (read : Doc → Except Fault α) (closed : Bool) :
    List Doc → Except Fault (List α)
  | [] => if closed then .ok [] else .error .malformed
  | d :: ds => do
    let a ← read d
    let rest ← readItems read closed ds
    return a :: rest

/-- Reads an array of values. -/
def readList {α : Type} (read : Reader α) : Reader (List α) := fun site d =>
  match d with
  | .array items => do
    let inner ← site.enter
    readItems (read inner) items.closed items.values
  | d => .error (mistake site d)

/-- Reads an array and keeps the items that can be read.  In a text an item is stored before it is
read, so text that is wrong there still spoils the whole. -/
def readListLenient {α : Type} (read : Reader α) : Reader (List α) := fun site d =>
  match d with
  | .array items => do
    let inner ← site.enter
    let read? (item : Doc) : Except Fault (Option α) := do
      match inner with
      | .text _ => readStored inner item
      | .value => pure ()
      return (read inner item).toOption
    return (← readItems read? items.closed items.values).reduceOption
  | d => .error (mistake site d)

/-- Reads the entries of an object as a map, sorted by key; of equal keys the last one counts. -/
def readEntries {α : Type} (read : Doc → Except Fault α) (closed : Bool) :
    List (String × α) → List (Bytes × Doc) → Except Fault (List (String × α))
  | found, [] => if closed then .ok found else .error .malformed
  | found, (body, d) :: rest =>
    match unescape? body with
    | none => .error .malformed
    | some key => do
      let a ← read d
      readEntries read closed (Value.insertMember key a found) rest

/-- Reads an object as a map. -/
def readMap {α : Type} (read : Reader α) : Reader (List (String × α)) := fun site d =>
  match d with
  | .object members => do
    let inner ← site.enter
    readEntries (read inner) members.closed [] members.entries
  | d => .error (mistake site d)

/-- Reads a value that may be null. -/
def readOption {α : Type} (read : Reader α) : Reader (Option α) := fun site d =>
  match d with
  | .null => .ok none
  | d => some <$> read site d

/-- Reads a text and takes it as a value of a type, or refuses its content. -/
def readText {α : Type} (parse : String → Except Fault α) : Reader α := fun site d => do
  parse (← readString site d)

/-! ## Whole texts and values

The same readers serve for a text as it comes and for a generic value that is at hand; the site that
is handed down tells them which it is. -/

/-- Reads a whole text: nothing but blanks may follow the value. -/
def Reader.ofText {α : Type} (read : Reader α) (s : Bytes) : Except Fault α := do
  let (d, rest) := scanFront s
  let a ← read .start d
  if allBlank rest then return a else .error .malformed

/-- Reads a generic value as a value of a type. -/
def Reader.ofValue {α : Type} (read : Reader α) (v : Value) : Except Fault α :=
  read .value v.toDoc

end Tollbooth.Json
