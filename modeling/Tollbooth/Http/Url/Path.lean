import Tollbooth.Http.Url.Percent
import Tollbooth.Text.Split
/-!
# Paths of URLs

A path is a list of segments.  Reading one resolves the segments that mean the directory itself or
the one above, so that no path has them.

* `Path.resolve` puts segments behind those that are there.
* `Path.collapse` drops empty segments in front, which the path of a file never has.
-/

set_option autoImplicit false

namespace Tollbooth.Http.Path

/-- A segment of a path, percent-encoded where it has to be. -/
abbrev Segment := List Char

/-- A segment that means the directory itself. -/
def isDot (cs : Segment) : Bool :=
  let l := cs.map Char.toLower
  l == ['.'] || l == ['%', '2', 'e']

/-- A segment that means the directory above. -/
def isDoubleDot (cs : Segment) : Bool :=
  let l := cs.map Char.toLower
  l == ['.', '.'] || l == ['.', '%', '2', 'e'] || l == ['%', '2', 'e', '.'] ||
    l == ['%', '2', 'e', '%', '2', 'e']

/-- A letter and the mark of a drive. -/
def startsDrive (c m : Char) : Bool := c.isAlpha && (m == ':' || m == '|')

/-- A segment that names a drive. -/
def isDrive : Segment → Bool
  | [c, m] => startsDrive c m
  | _ => false

/-- A segment that nothing leads above: it names a drive, perhaps with a backslash behind it. -/
def isTop : Segment → Bool
  | [c, m] => startsDrive c m
  | c :: m :: '\\' :: _ => startsDrive c m
  | _ => false

/-- The directory above: the last segment is left out unless nothing leads above it. -/
def parent (done : List Segment) : List Segment :=
  match done.getLast? with
  | some last => if isTop last then done else done.dropLast
  | none => []

/-- Puts the parts of a path behind the segments that are there: those that mean the directory or
the one above are resolved on the way, and leave the path open at its end. -/
def resolve : List Segment → List (List Char) → List Segment
  | done, [] => done
  | done, [last] =>
    if isDoubleDot last then parent done ++ [[]]
    else if isDot last then done ++ [[]]
    else done ++ [Percent.encode Percent.path last]
  | done, part :: rest =>
    if isDoubleDot part then resolve (parent done) rest
    else if isDot part then resolve done rest
    else resolve (done ++ [Percent.encode Percent.path part]) rest

/-- The parts of a path, where a drive in front is written with a colon. -/
def withColon : List (List Char) → List (List Char)
  | [c, m] :: parts => (if startsDrive c m then [c, ':'] else [c, m]) :: parts
  | parts => parts

/-- The path without empty segments in front; a path of empty segments only is the root. -/
def collapse (parts : List Segment) : List Segment :=
  match parts.dropWhile (· == []) with
  | [] => [[]]
  | parts => parts

/-- A separator of segments: a backslash separates those of web addresses too. -/
def isSlash (web : Bool) (c : Char) : Bool := c == '/' || (web && c == '\\')

/-- The text without the slash that it starts with. -/
def withoutSlash (web : Bool) : List Char → List Char
  | [] => []
  | c :: cs => if isSlash web c then cs else c :: cs

/-- The parts of a text between its slashes. -/
def split (web : Bool) (cs : List Char) : List (List Char) := Text.splitAll (isSlash web) cs

end Tollbooth.Http.Path
