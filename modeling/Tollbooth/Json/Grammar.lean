import Tollbooth.Json.Scan
/-!
# Which documents are spelled as JSON

`Doc.wellFormed` says of a document that it is the syntax of a JSON text: nothing is broken off,
every number is one token, every string body ends where the string ends, and only blanks stand
between tokens.  These are the documents that scanning a text without faults gives.
-/

set_option autoImplicit false

namespace Tollbooth.Json

open Tollbooth (Bytes)

/-- The bytes are one number token. -/
def isNumberToken (token : Bytes) : Bool := scanNumber token == some (token, [])

/-- The bytes are the body of a string: a quote put after them ends it, and none before does. -/
def isStringBody (body : Bytes) : Bool := scanBody (body ++ [0x22]) == some (body, [])

mutual

/-- The document is the syntax of a JSON text. -/
def Doc.wellFormed : Doc → Bool
  | .broken => false
  | .null => true
  | .bool _ => true
  | .number token => isNumberToken token
  | .string body => isStringBody body
  | .array items => items.wellFormed true
  | .object members => members.wellFormed true

/-- The rest of an array is spelled as JSON; the first item has no comma and no blanks before it. -/
def Items.wellFormed (first : Bool) : Items → Bool
  | .broken => false
  | .torn _ => false
  | .close gap => allBlank gap
  | .item before gap value rest =>
    (if first then before.isEmpty else allBlank before) && allBlank gap && value.wellFormed &&
      rest.wellFormed false

/-- The rest of an object is spelled as JSON; the first member has no comma and no blanks before
it. -/
def Members.wellFormed (first : Bool) : Members → Bool
  | .broken => false
  | .close gap => allBlank gap
  | .member before gap key afterKey afterColon value rest =>
    (if first then before.isEmpty else allBlank before) && allBlank gap && isStringBody key &&
      allBlank afterKey && allBlank afterColon && value.wellFormed && rest.wellFormed false

end

end Tollbooth.Json
