import Tollbooth.Http.Url
/-!
# References to URLs

What stands in a document or a header may be a URL in full, or only that part of one in which it
differs from the URL of the document.  `Url.join?` reads both: a text that starts with a scheme is a
URL of its own, unless the scheme is that of the base and no authority follows; everything else
takes the place of the fragment, the query, the last segment, the path or the authority of the base.

The base has to be the URL of something that was requested.
-/

set_option autoImplicit false

namespace Tollbooth.Http.Url

/-- The segments of the path. -/
def segments (u : Url) : List Path.Segment :=
  match u.path with
  | .segments parts => parts
  | .plain _ => []

/-- The slashes, forward or backward, that a text starts with. -/
def leadingSlashes (cs : List Char) : List Char := cs.takeWhile (Path.isSlash true)

/-- The URL with another path, or with another authority and path behind two slashes.  Two forward
slashes are all that stands in front of an authority; of others there may be more. -/
def at? (u : Url) (cs : List Char) : Option Url :=
  match (leadingSlashes cs).length, cs with
  | 0, cs =>
    let parts := Path.resolve u.segments.dropLast (Path.split true cs)
    some { u with path := .segments parts }
  | 1, cs => some { u with path := pathOf true cs }
  | _, '/' :: '/' :: authority => behindSlashes? u.scheme false authority
  | n, cs => behindSlashes? u.scheme false (cs.drop n)

/-- The URL that a text without a scheme refers to. -/
def relative? (u : Url) (cs : List Char) : Option Url := do
  let (rest, fragment) := Text.splitFirst '#' cs
  let (path, query) := Text.splitFirst '?' rest
  if path = [] then
    if query.isSome then return u.withEnd query fragment
    else return { u with fragment := fragment.map (Percent.encode Percent.fragment) }
  else
    return (← u.at? path).withEnd query fragment

/-- The URL that a text refers to from another one. -/
def join? (u : Url) (reference : String) : Option Url :=
  let cs := clean reference.toList
  match splitScheme? cs with
  | some (scheme, rest) =>
    if scheme = u.scheme ∧ (leadingSlashes rest).length < 2 then u.relative? rest
    else ofScheme? scheme rest
  | none => u.relative? cs

end Tollbooth.Http.Url
