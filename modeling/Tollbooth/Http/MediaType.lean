import Tollbooth.Text.Split
/-!
# Media types

A media type is two tokens with a slash between them, and parameters behind semicolons:
`text/plain; charset=utf-8`.  The value of a parameter is a token or stands in quotes.  A text that
is not spelled like that has no media type, and so no parameters.

* `MediaType.parameters?` reads the parameters of a media type.
* `MediaType.parameter?` is the first one of a name.
-/

set_option autoImplicit false

namespace Tollbooth.Http.MediaType

/-- A character of a token. -/
def isTokenChar (c : Char) : Bool := c.isAlphanum || "!#$%&'*+-.^_\x60|~".toList.contains c

/-- A character that may stand between quotes. -/
def isQuotedChar (c : Char) : Bool := 31 < c.toNat && c != '\x7f'

/-- The tokens of a media type, and what stands behind the first semicolon if there is one. -/
def splitTypes? (cs : List Char) : Option (List Char × List Char × Option (List Char)) := do
  let upper := cs.takeWhile isTokenChar
  guard (upper ≠ [])
  let '/' :: rest := cs.dropWhile isTokenChar | none
  let lower := rest.takeWhile isTokenChar
  match rest.dropWhile isTokenChar with
  | [] => return (upper, lower, none)
  | ';' :: behind => if lower = [] then none else return (upper, lower, some behind)
  | _ => none

/-- A value in quotes, and what stands behind it.  The first character is part of the value whatever
it is. -/
def quoted? : List Char → Option (List Char × List Char)
  | [] => none
  | c :: cs =>
    match cs.dropWhile (· != '"') with
    | _ :: rest =>
      let value := c :: cs.takeWhile (· != '"')
      if value.all isQuotedChar then some (value, rest) else none
    | [] => none

/-- What stands behind a semicolon, or nothing at the end. -/
def afterValue? : List Char → Option (List Char)
  | [] => some []
  | ';' :: rest => some rest
  | _ => none

/-- A value, and what stands behind it and its semicolon. -/
def value? : List Char → Option (List Char × List Char)
  | '"' :: cs => do
    let (value, rest) ← quoted? cs
    return (value, ← afterValue? (rest.dropWhile (· == ' ')))
  | cs => do
    let value := cs.takeWhile isTokenChar
    let rest := cs.dropWhile isTokenChar
    guard (value ≠ [] ∨ rest = [])
    return (value, ← afterValue? rest)

/-- Parameters with semicolons between them; each is longer than nothing, so that the length of the
text bounds their number. -/
def readParameters? (fuel : Nat) (cs : List Char) : Option (List (List Char × List Char)) :=
  match fuel, cs.dropWhile (· == ' ') with
  | _, [] => some []
  | 0, _ => none
  | fuel + 1, cs => do
    let name := cs.takeWhile isTokenChar
    guard (name ≠ [])
    let '=' :: rest := cs.dropWhile isTokenChar | none
    let (value, rest) ← value? rest
    return (name, value) :: (← readParameters? fuel rest)

/-- The parameters of a media type: names and values. -/
def parameters? (s : String) : Option (List (List Char × List Char)) := do
  let (_, _, behind) ← splitTypes? s.toList
  match behind with
  | none => return []
  | some cs => readParameters? cs.length cs

/-- The first parameter of a name, which is in lower case. -/
def parameter? (name : String) (s : String) : Option String := do
  let found ← (← parameters? s).find? fun p => String.ofList (p.1.map Char.toLower) == name
  return .ofList found.2

end Tollbooth.Http.MediaType
