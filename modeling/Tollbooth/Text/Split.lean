/-!
# Splitting texts at marks

A mark is a character that separates parts of a text and belongs to none of them.
-/

set_option autoImplicit false

namespace Tollbooth.Text

/-- The part in front of the first mark, and the part behind it if there is one. -/
def splitFirst (mark : Char) (cs : List Char) : List Char × Option (List Char) :=
  match cs.dropWhile (· != mark) with
  | _ :: rest => (cs.takeWhile (· != mark), some rest)
  | [] => (cs, none)

/-- The part in front of the last mark if there is one, and the part behind it. -/
def splitLast (mark : Char) (cs : List Char) : Option (List Char) × List Char :=
  match splitFirst mark cs.reverse with
  | (back, some front) => (some front.reverse, back.reverse)
  | (back, none) => (none, back.reverse)

/-- The parts between all marks: one more than there are marks. -/
def splitAll (isMark : Char → Bool) : List Char → List (List Char)
  | [] => [[]]
  | c :: cs =>
    if isMark c then [] :: splitAll isMark cs
    else
      match splitAll isMark cs with
      | [] => [[c]]
      | part :: parts => (c :: part) :: parts

end Tollbooth.Text
