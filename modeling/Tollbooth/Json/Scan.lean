import Tollbooth.Json.Doc
import Tollbooth.Json.Token
/-!
# Scanning a text into a document

`Doc.scan` reads one value from the front of a text and returns the rest.  It never fails: where
the text is not JSON the tree is broken off.  Only where an array closes right behind a faulty item
does it go on behind the bracket.  `scanDocument` also takes the blanks around the value
and demands that nothing else follows.

Each level of nesting and each item takes at least one byte and at most three steps, so thrice the
length is fuel enough; no caller sees it.
-/

set_option autoImplicit false

namespace Tollbooth.Json

/-! ## Values

Behind a place that goes wrong nothing is left of the text, so whatever contains it is broken off as
well.  Only an array that is torn has a rest, and what contains it goes on. -/

mutual

/-- One value at the front of a text, and the rest.  Blanks in front are not skipped. -/
def Doc.scan : Nat → Bytes → Doc × Bytes
  | 0, _ => (.broken, [])
  | _ + 1, [] => (.broken, [])
  | fuel + 1, c :: s =>
    if c == 0x22 then
      match scanBody s with
      | some (body, rest) => (.string body, rest)
      | none => (.broken, [])
    else if c == 0x5b then
      let (items, rest) := Items.scan fuel true s
      (.array items, rest)
    else if c == 0x7b then
      let (members, rest) := Members.scan fuel true s
      (.object members, rest)
    else if c == 0x6e then
      match scanWord [0x75, 0x6c, 0x6c] s with
      | some rest => (.null, rest)
      | none => (.broken, [])
    else if c == 0x74 then
      match scanWord [0x72, 0x75, 0x65] s with
      | some rest => (.bool true, rest)
      | none => (.broken, [])
    else if c == 0x66 then
      match scanWord [0x61, 0x6c, 0x73, 0x65] s with
      | some rest => (.bool false, rest)
      | none => (.broken, [])
    else
      match scanNumber (c :: s) with
      | some (token, rest) => (.number token, rest)
      | none => (.broken, [])

/-- The rest of an array; `first` when no item stands before it. -/
def Items.scan : Nat → Bool → Bytes → Items × Bytes
  | 0, _, _ => (.broken, [])
  | fuel + 1, first, s =>
    match splitBlanks s with
    | (gap, 0x5d :: rest) => (.close gap, rest)
    | (gap, s) =>
      if first then
        let (value, s) := Doc.scan fuel s
        let (items, s) := Items.scan fuel false s
        (.item [] gap value items, s)
      else
        match s with
        | 0x2c :: s =>
          let (gap', s) := splitBlanks s
          let (value, s') := Doc.scan fuel s
          let (items, s') := Items.scan fuel false s'
          let faulty : Bool :=
            match value with
            | .broken => true
            | .string body => (unescapeBytes? body).isNone && !items.complete
            | _ => false
          match if faulty then overlook? s else none with
          | some rest => (.torn (gap ++ 0x2c :: gap' ++ s.take (s.length - rest.length)), rest)
          | none => (.item gap gap' value items, s')
        | _ => (.broken, [])

/-- The rest of an object; `first` when no member stands before it. -/
def Members.scan : Nat → Bool → Bytes → Members × Bytes
  | 0, _, _ => (.broken, [])
  | fuel + 1, first, s =>
    match splitBlanks s with
    | (gap, 0x7d :: rest) => (.close gap, rest)
    | (gap, s) =>
      if first then Members.scanMember fuel [] gap s
      else
        match s with
        | 0x2c :: s =>
          let (gap', s) := splitBlanks s
          Members.scanMember fuel gap gap' s
        | _ => (.broken, [])

/-- A member whose key starts here, and the members after it.  A missing colon spoils the value,
not the key before it. -/
def Members.scanMember : Nat → Bytes → Bytes → Bytes → Members × Bytes
  | 0, _, _, _ => (.broken, [])
  | fuel + 1, before, gap, s =>
    match s with
    | 0x22 :: s =>
      match scanBody s with
      | none => (.broken, [])
      | some (key, s) =>
        let (afterKey, s) := splitBlanks s
        match s with
        | 0x3a :: s =>
          let (afterColon, s) := splitBlanks s
          let (value, s) := Doc.scan fuel s
          let (members, s) := Members.scan fuel false s
          (.member before gap key afterKey afterColon value members, s)
        | _ => (.member before gap key afterKey [] .broken .broken, [])
    | _ => (.broken, [])

end

/-- The value at the front of a text after blanks, and what follows it. -/
def scanFront (s : Bytes) : Doc × Bytes := Doc.scan (3 * s.length + 3) (splitBlanks s).2

end Tollbooth.Json
