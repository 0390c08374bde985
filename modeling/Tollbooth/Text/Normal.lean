import Tollbooth.Text.Normal.Table
/-!
# The composed form of texts

Texts that look the same may be spelled by different characters.  The composed form is one of these
spellings: all characters are taken apart, marks behind a letter are put in order, and whatever can
be put together is.

* `Normal.decompose` takes a text apart and puts its marks in order.
* `Normal.compose` gives the composed form.
-/

set_option autoImplicit false

namespace Tollbooth.Text.Normal

/-! ## Hangul syllables

Syllables are numbered by their letters, so a table is not needed for them. -/

/-- The first syllable, and the first of the leading, vowel and trailing letters; as trailing letter
it stands for none. -/
def syllables : Nat := 0xac00
/-- The first leading letter. -/
def leadings : Nat := 0x1100
/-- The first vowel. -/
def vowels : Nat := 0x1161
/-- One below the first trailing letter. -/
def trailings : Nat := 0x11a7

/-- The letters of a syllable. -/
def letters? (n : Nat) : Option (List Nat) :=
  if syllables ≤ n ∧ n < syllables + 11172 then
    let i := n - syllables
    let front := [leadings + i / 588, vowels + i % 588 / 28]
    some (if i % 28 = 0 then front else front ++ [trailings + i % 28])
  else none

/-- The syllable of a leading letter and a vowel, or of a syllable and a trailing letter. -/
def syllable? (a b : Nat) : Option Nat :=
  if leadings ≤ a ∧ a < leadings + 19 ∧ vowels ≤ b ∧ b < vowels + 21 then
    some (syllables + ((a - leadings) * 21 + (b - vowels)) * 28)
  else if syllables ≤ a ∧ a < syllables + 11172 ∧ (a - syllables) % 28 = 0 ∧
      trailings < b ∧ b < trailings + 28 then some (a + (b - trailings))
  else none

/-! ## Taking apart

A character is taken apart as far as that goes, and the marks behind a letter are sorted by class,
where marks of one class keep their order. -/

/-- The class of a character among the marks behind a letter; zero for a letter. -/
def classOf (n : Nat) : Nat := (classes.value? n).getD 0

/-- Takes the first character of a pair apart as long as it is one itself. -/
def apart : Nat → Nat → List Nat
  | 0, n => [n]
  | fuel + 1, n =>
    match composites.targets? n with
    | some [a, b] => apart fuel a ++ [b]
    | _ => [n]

/-- All characters that a character is taken apart to.  No character is composed of more than
four. -/
def parts (n : Nat) : List Nat :=
  if n < 0x80 then [n]
  else
    match letters? n with
    | some ls => ls
    | none => (singular.targets? n).getD (apart 3 n)

/-- Puts a mark in its place among those in front of it, the last one first: behind all that have
its class or a lower one. -/
def insertMark (mark : Nat × Nat) : List (Nat × Nat) → List (Nat × Nat)
  | [] => [mark]
  | m :: ms => if mark.2 < m.2 then m :: insertMark mark ms else mark :: m :: ms

/-- The characters with the marks behind each letter in order.  `marks` are those behind the last
letter, the last one first. -/
def order (marks : List (Nat × Nat)) : List Nat → List (Nat × Nat)
  | [] => marks.reverse
  | n :: ns =>
    let k := classOf n
    if k = 0 then marks.reverse ++ (n, 0) :: order [] ns else order (insertMark (n, k) marks) ns

/-- The text taken apart, each character with its class. -/
def decompose (ns : List Nat) : List (Nat × Nat) := order [] (ns.flatMap parts)

/-! ## Putting together

The letter takes in what stands behind it, as long as nothing that stays between them is in the
way. -/

/-- The character that two characters compose. -/
def pair? (a b : Nat) : Option Nat :=
  match syllable? a b with
  | some n => some n
  | none => (composites.toList.find? fun r => r.targets == [a, b]).map (·.first)

/-- What has been put together: the last letter, and what stands behind it. -/
structure Cluster where
  letter : Option Nat
  behind : List (Nat × Nat)

/-- The characters of a cluster. -/
def Cluster.text (c : Cluster) : List Nat := c.letter.toList ++ c.behind.map (·.1)

/-- The composite of the letter of a cluster and a character behind it, unless a character between
them is in the way. -/
def Cluster.joined? (c : Cluster) (next : Nat × Nat) : Option Nat :=
  match c.letter with
  | none => none
  | some letter =>
    match c.behind.getLast? with
    | none => pair? letter next.1
    | some last => if last.2 < next.2 then pair? letter next.1 else none

/-- Puts characters together, going on with a cluster. -/
def joinFrom (c : Cluster) : List (Nat × Nat) → List Nat
  | [] => c.text
  | next :: rest =>
    match c.joined? next with
    | some n => joinFrom { c with letter := some n } rest
    | none =>
      if next.2 = 0 then c.text ++ joinFrom ⟨some next.1, []⟩ rest
      else joinFrom { c with behind := c.behind ++ [next] } rest

/-- The composed form of a text. -/
def compose (cs : List Char) : List Char :=
  (joinFrom ⟨none, []⟩ (decompose (cs.map Char.toNat))).map Char.ofNat

end Tollbooth.Text.Normal
