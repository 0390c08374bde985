import Tollbooth.Text.Split
/-!
# Labels in ASCII

A label of a domain name that has other characters is written in ASCII: first its ASCII characters,
then behind a hyphen a series of numbers that say where the others are inserted, in increasing order
of their code points.  Numbers have variable length, in base 36 with digits from `a` to `z` and from
`0` to `9`, and the length at which a number may end follows the numbers before it.

* `Punycode.encode` writes a label so.
* `Punycode.decode?` reads it.
-/

set_option autoImplicit false

namespace Tollbooth.Http.Punycode

/-! ## Numbers

A number has its least digit first.  Each place has a threshold, and a digit below it is the last
one; the thresholds follow the bias, which is adapted so that most numbers are short. -/

/-- A digit of base 36. -/
def digit (n : Nat) : Char :=
  if n < 26 then Char.ofNat (0x61 + n) else Char.ofNat (0x30 + (n - 26))

/-- The value of a digit of base 36. -/
def digitValue? (c : Char) : Option Nat :=
  if c.isLower then some (c.toNat - 0x61)
  else if c.isUpper then some (c.toNat - 0x41)
  else if c.isDigit then some (c.toNat - 0x30 + 26)
  else none

/-- The bias after a number was written. -/
def adaptFrom : Nat → Nat → Nat → Nat
  | 0, _, k => k
  | fuel + 1, delta, k =>
    if delta > 455 then adaptFrom fuel (delta / 35) (k + 36) else k + 36 * delta / (delta + 38)

/-- The bias for the next number. -/
def adapt (delta count : Nat) (first : Bool) : Nat :=
  let delta := if first then delta / 700 else delta / 2
  adaptFrom 64 (delta + delta / count) 0

/-- The value below which a digit at a place ends its number. -/
def threshold (k bias : Nat) : Nat :=
  if k ≤ bias then 1 else if k ≥ bias + 26 then 26 else k - bias

/-- The digits of a number. -/
def digits : Nat → Nat → Nat → Nat → List Char
  | 0, _, _, _ => []
  | fuel + 1, q, k, bias =>
    let t := threshold k bias
    if q < t then [digit q]
    else digit (t + (q - t) % (36 - t)) :: digits fuel ((q - t) / (36 - t)) (k + 36) bias

/-- A number whose digits stand in front, weighted from `weight` on and added to `sum`, and what
follows it. -/
def number? (bias : Nat) : Nat → Nat → Nat → List Char → Option (Nat × List Char)
  | _, _, _, [] => none
  | k, weight, sum, c :: cs =>
    match digitValue? c with
    | none => none
    | some d =>
      let t := threshold k bias
      if d < t then some (sum + d * weight, cs)
      else number? bias (k + 36) (weight * (36 - t)) (sum + d * weight) cs

/-! ## Writing

The characters beyond ASCII are gone through in the order of their code points, and for each of them
along the label.  What is counted on the way is how many states a reader would pass over. -/

/-- The state while the characters beyond ASCII are written in increasing order. -/
structure Insertion where
  code : Nat
  delta : Nat
  bias : Nat
  handled : Nat
  first : Bool
  written : List Char

/-- Goes over one character of the label. -/
def Insertion.pass (target : Nat) (s : Insertion) (c : Char) : Insertion :=
  if c.toNat < target then { s with delta := s.delta + 1 }
  else if c.toNat = target then
    { s with
      delta := 0
      bias := adapt s.delta (s.handled + 1) s.first
      handled := s.handled + 1
      first := false
      written := s.written ++ digits 64 s.delta 36 s.bias }
  else s

/-- Writes all characters of one code point. -/
def Insertion.round (label : List Char) (s : Insertion) (target : Nat) : Insertion :=
  let s := { s with delta := s.delta + (target - s.code) * (s.handled + 1), code := target }
  let s := label.foldl (Insertion.pass target) s
  { s with delta := s.delta + 1, code := target + 1 }

/-- A label with characters beyond ASCII as it is written in ASCII. -/
def encode (label : List Char) : List Char :=
  let basic := label.filter (·.toNat < 0x80)
  let targets := ((label.map Char.toNat).filter (0x80 ≤ ·)).mergeSort.eraseDups
  let start : Insertion := ⟨0x80, 0, 72, basic.length, true, []⟩
  let s := targets.foldl (Insertion.round label) start
  (if basic = [] then [] else basic ++ ['-']) ++ s.written

/-! ## Reading

Each number leads from one insertion to the next: the quotient tells how much greater the code point
is, the remainder where it goes. -/

/-- Inserts the characters that numbers tell of: `n` is the last code point, `i` the place behind
it. -/
def insertAll : Nat → Nat → Nat → Nat → List Char → List Char → Option (List Char)
  | _, _, _, _, done, [] => some done
  | 0, _, _, _, _, _ => none
  | fuel + 1, n, i, bias, done, cs => do
    let (sum, rest) ← number? bias 36 1 i cs
    let count := done.length + 1
    let n := n + sum / count
    if n.isValidChar then
      insertAll fuel n (sum % count + 1) (adapt (sum - i) count (i = 0))
        (done.insertIdx (sum % count) (Char.ofNat n)) rest
    else none

/-- The label that was written in ASCII.  Each number has a digit at least, so the length is fuel
enough. -/
def decode? (cs : List Char) : Option (List Char) :=
  match Text.splitLast '-' cs with
  | (some (b :: basic), numbers) => insertAll numbers.length 0x80 0 72 (b :: basic) numbers
  | _ => insertAll cs.length 0x80 0 72 [] cs

end Tollbooth.Http.Punycode
