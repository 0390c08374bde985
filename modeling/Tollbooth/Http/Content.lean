import Tollbooth.Http.MediaType
import Tollbooth.Http.Message
import Tollbooth.Text.Charset
/-!
# The text of a response

A response may name the encoding of its content as a parameter of the content type.
-/

set_option autoImplicit false

namespace Tollbooth.Http

/-- The value of a header as far as it is plain ASCII. -/
def asciiText? (value : Bytes) : Option String :=
  if value.all fun b => b == 0x09 || (0x20 ≤ b && b < 0x7f) then Bytes.toString? value else none

/-- The encoding that the headers name. -/
def charsetOf (headers : Headers) : Text.Charset :=
  (do Text.Charset.ofLabel? (← MediaType.parameter? "charset"
    (← asciiText? (← headers.get? "content-type")))).getD .utf8

/-- The text of a response, unless it broke off. -/
def Response.text? (r : Response) : Option String :=
  r.body.map (charsetOf r.headers).decodeMarked

end Tollbooth.Http
