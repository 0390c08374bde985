import Tollbooth.Json.Grammar
import Tollbooth.Json.Reader
import Tollbooth.Json.Write
/-!
# Documents kept verbatim

Offers and payloads travel through the program without being interpreted as a whole: what was
received has to be sent on unchanged.  A `Verbatim` is a well-formed document together with its
text, which is valid UTF-8; writing it gives exactly that text again.

That the document is well-formed and its text is UTF-8 is in the type, so nothing has to be checked
when it is written.
-/

set_option autoImplicit false

namespace Tollbooth.Json

/-- A document that is sent on as it was spelled. -/
structure Verbatim where
  doc : Doc
  text : String
  isJson : doc.wellFormed = true
  isText : Bytes.toString? doc.text = some text

namespace Verbatim

instance : Inhabited Verbatim := ⟨.null, "null", by rfl, by decide +kernel⟩

/-- The document with its text, if it is JSON and its text is UTF-8. -/
def ofDoc? (d : Doc) : Option Verbatim :=
  if h : d.wellFormed = true then
    match hs : Bytes.toString? d.text with
    | some s => some ⟨d, s, h, hs⟩
    | none => none
  else none

/-- The document as it is written.  Written documents are well-formed. -/
def written (d : Doc) : Verbatim := (ofDoc? d).getD default

/-- Reads a document verbatim. -/
def read : Reader Verbatim := fun _ d =>
  match ofDoc? d with
  | some v => .ok v
  | none => .error .malformed

/-- Writes the document as it was spelled. -/
def toDoc (v : Verbatim) : Doc := v.doc

/-- Reads a type from a document that was kept verbatim. -/
def readAs {α : Type} (v : Verbatim) (read : Reader α) : Except Fault α := read .start v.doc

end Verbatim

end Tollbooth.Json
