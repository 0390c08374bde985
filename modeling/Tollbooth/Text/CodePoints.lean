import Tollbooth.Text.Hex
import Tollbooth.Text.Split
/-!
# Tables of code points

A table lists ranges of code points in increasing order, and may say which code points belong to
those of a range.  It is written as a text: `41-5a:61` is a range whose first code point has U+0061
for a target, the next one U+0062 and so on; a range of one code point is written as that, and may
have several targets with points between them.

* `CodePoints.has` tells whether a table lists a code point.
* `CodePoints.targets?` gives what belongs to it.
-/

set_option autoImplicit false

namespace Tollbooth.Text

/-- A range of code points, both ends included, with the targets of its first one. -/
structure CodePoints.Range where
  first : Nat
  last : Nat
  targets : List Nat
deriving Inhabited

/-- Ranges of code points in increasing order. -/
abbrev CodePoints := Array CodePoints.Range

namespace CodePoints

/-- The number that hexadecimal digits spell. -/
def number (cs : List Char) : Nat := cs.foldl (fun n c => 16 * n + (Hex.value? c).getD 0) 0

/-- The range that an entry spells. -/
def Range.ofText (cs : List Char) : Range :=
  let (range, targets) := splitFirst ':' cs
  let (first, last) := splitFirst '-' range
  ⟨number first, number (last.getD first),
    (targets.map fun ts => (splitAll (· == '.') ts).map number).getD []⟩

/-- The table that a text spells, with blanks and line breaks between its entries. -/
def ofText (s : String) : CodePoints :=
  let entries := (splitAll (fun c => c == ' ' || c == '\n') s.toList).filter (· != [])
  (entries.map Range.ofText).toArray

/-- The range with a code point among those from `low` to below `high`. -/
def search (table : CodePoints) (n low high : Nat) : Option Range :=
  if low < high then
    let middle := (low + high) / 2
    match table[middle]? with
    | none => none
    | some r =>
      if n < r.first then search table n low middle
      else if r.last < n then search table n (middle + 1) high
      else some r
  else none
termination_by high - low

/-- The range with a code point. -/
def find? (table : CodePoints) (n : Nat) : Option Range := search table n 0 table.size

/-- The table lists the code point. -/
def has (table : CodePoints) (n : Nat) : Bool := (find? table n).isSome

/-- What belongs to a code point, if the table lists it. -/
def targets? (table : CodePoints) (n : Nat) : Option (List Nat) :=
  (find? table n).map fun r => r.targets.map (· + (n - r.first))

/-- What belongs to all code points of the range that the code point is in. -/
def value? (table : CodePoints) (n : Nat) : Option Nat := (find? table n).bind (·.targets.head?)

end CodePoints

end Tollbooth.Text
