import Tollbooth.Http.Url.Domain.Table
import Tollbooth.Http.Url.Punycode
import Tollbooth.Text.Bidi
import Tollbooth.Text.Joining
import Tollbooth.Text.Mark
import Tollbooth.Text.Normal
/-!
# Domain names

Domain names may be spelled in any script, but travel in ASCII.  A name is brought to a normal form
first: some characters stand for others, some are left out, and what is left is composed.  Then each
of its labels has to be fit to be shown, and is written in ASCII if it has other characters.  A
label that is written so already has to be one that could have been written.

* `Domain.normal?` is the normal form of a name.
* `Domain.ascii?` is the name in ASCII.
-/

set_option autoImplicit false

namespace Tollbooth.Http.Domain

open Tollbooth.Text (CodePoints)

/-! ## Normal forms -/

/-- What a character stands for; none if no domain name has it. -/
def standsFor? (c : Char) : Option (List Char) :=
  let n := c.toNat
  if n < 0x80 then some [c.toLower]
  else if disallowed.has n then none
  else if ignored.has n then some []
  else
    match mapped.targets? n with
    | some ts => some (ts.map Char.ofNat)
    | none => some [c]

/-- The normal form of a name. -/
def normal? (cs : List Char) : Option (List Char) :=
  (cs.mapM standsFor?).map fun parts => Text.Normal.compose parts.flatten

/-! ## Labels -/

/-- The characters are ASCII. -/
def isAscii (cs : List Char) : Bool := cs.all (·.toNat < 0x80)

/-- How a label starts that is written in ASCII but stands for another one. -/
def encodedFront : List Char := ['x', 'n', '-', '-']

/-- The class of the signs that kill a vowel. -/
def killerClass : Nat := 9

/-- Every invisible joiner or non-joiner of a label stands behind a sign that kills a vowel; a
non-joiner may also keep two letters from joining.  `before` is what stands in front, reversed. -/
def joinersFit (before : List Char) : List Char → Bool
  | [] => true
  | c :: cs =>
    let afterKiller := before.head?.any fun b => Text.Normal.classOf b.toNat == killerClass
    let fits :=
      if c == '\u200d' then afterKiller
      else if c == '\u200c' then afterKiller || Text.Joining.separates before cs
      else true
    fits && joinersFit (c :: before) cs

/-- A label in its normal form can be shown: it starts with no mark, and its joiners fit. -/
def isShowable (label : List Char) : Bool :=
  !label.head?.any Text.isMark && joinersFit [] label

/-- How many characters a label beyond ASCII may have. -/
def longest : Nat := 1000
/-- How many characters may spell a label beyond ASCII. -/
def longestEncoded : Nat := 2000

/-- A label with its spelling in ASCII. -/
structure Label where
  shown : List Char
  ascii : List Char

/-- The label that the ASCII spelling behind `encodedFront` stands for. -/
def decoded? (spelled : List Char) : Option Label := do
  guard (isAscii spelled ∧ spelled.length ≤ longestEncoded)
  let shown ← Punycode.decode? spelled
  guard (!isAscii shown && normal? shown == some shown && !encodedFront.isPrefixOf shown &&
    isShowable shown)
  return ⟨shown, encodedFront ++ spelled⟩

/-- The label that a part of a normal form is. -/
def label? (part : List Char) : Option Label :=
  if encodedFront.isPrefixOf part then decoded? (part.drop 4)
  else if isAscii part then some ⟨part, part⟩
  else if part.length ≤ longest && isShowable part then
    some ⟨part, encodedFront ++ Punycode.encode part⟩
  else none

/-! ## Whole names -/

/-- The labels of a name.  If text from right to left is among them, each has to keep to one
direction. -/
def labels? (cs : List Char) : Option (List Label) := do
  let labels ← (Text.splitAll (· == '.') (← normal? cs)).mapM label?
  guard (!(labels.any fun l => l.shown.any Text.Bidi.turns) ||
    labels.all fun l => Text.Bidi.keepsDirection l.shown)
  return labels

/-- The name in ASCII.  A name that is ASCII and has no label that stands for another one is only
written in lower case. -/
def ascii? (cs : List Char) : Option (List Char) :=
  let lower := cs.map Char.toLower
  let isPlain := isAscii cs &&
    !(Text.splitAll (· == '.') lower).any fun part => encodedFront.isPrefixOf part
  if isPlain then some lower
  else (labels? cs).map fun labels => ['.'].intercalate (labels.map (·.ascii))

end Tollbooth.Http.Domain
