import Tollbooth.Number.Binary64
/-!
# The shortest decimal text of a floating-point number

Among the decimals that round back to a number, the text has the fewest digits, and of those with
equally many it is the nearest, the even one if two are equally near.  For each count of digits only
the two neighbours of the number on that decimal grid have to be tried.  Where the point stands and
how the exponent is written is `FloatFormat`, a record apart from the digits.
-/

set_option autoImplicit false

namespace Tollbooth.Shortest

/-- The greatest `x` with `10 ^ x ≤ num / den`, for positive arguments. -/
def decimalExponent (num den : Nat) : Int :=
  let guess : Int := (((num.log2 : Int) - (den.log2 : Int)) * 30103) / 100000
  let atMost (x : Int) : Bool :=
    if x < 0 then den ≤ num * Nat.pow 10 (-x).toNat else den * Nat.pow 10 x.toNat ≤ num
  if atMost (guess + 1) then guess + 1
  else if atMost guess then guess
  else if atMost (guess - 1) then guess - 1
  else guess - 2

/-- The reals that round to a magnitude, as quarters of its last place: the lower end, the upper
end, and whether the ends belong to it. -/
def roundingInterval (m : Nat) (e : Int) : Nat × Nat × Bool :=
  let low := if m = Binary64.hiddenBit ∧ e > Binary64.minExponent then 4 * m - 1 else 4 * m - 2
  (low, 4 * m + 2, m % 2 = 0)

/-- The decimal `n · 10 ^ p` lies in the rounding interval of the magnitude. -/
def roundsTo (m : Nat) (e : Int) (n : Nat) (p : Int) : Bool :=
  let (low, high, closed) := roundingInterval m e
  -- both sides are brought to whole numbers by the powers of ten and two
  let scale2 := if e - 2 < 0 then Nat.pow 2 (2 - e).toNat else 1
  let unit := if e - 2 < 0 then 1 else Nat.pow 2 (e - 2).toNat
  let scale10 := if p < 0 then Nat.pow 10 (-p).toNat else 1
  let power := if p < 0 then 1 else Nat.pow 10 p.toNat
  let x := n * power * scale2
  let lo := low * unit * scale10
  let hi := high * unit * scale10
  if closed then lo ≤ x && x ≤ hi else lo < x && x < hi

/-- The neighbour of `num / den` on the grid `10 ^ p` that rounds back to the magnitude: the nearer
one if both do, and the even one of two equally near. -/
def onGrid (m : Nat) (e : Int) (num den : Nat) (p : Int) : Option Nat :=
  let n := if p < 0 then num * Nat.pow 10 (-p).toNat else num
  let d := if p < 0 then den else den * Nat.pow 10 p.toNat
  let below := n / d
  let above := below + 1
  let nearer :=
    if 2 * (n % d) < d then below
    else if 2 * (n % d) > d then above
    else if below % 2 = 0 then below else above
  let other := if nearer = below then above else below
  if nearer ≠ 0 && roundsTo m e nearer p then some nearer
  else if other ≠ 0 && roundsTo m e other p then some other
  else none

/-- The first grid with a hit, from the coarsest of `count` grids on. -/
def search (m : Nat) (e : Int) (num den : Nat) : Nat → Int → Nat × Int
  | 0, p => (onGrid m e num den p |>.getD 0, p)
  | count + 1, p =>
    match onGrid m e num den p with
    | some n => (n, p)
    | none => search m e num den count (p - 1)

/-- Digits without trailing zeros, and the exponent that makes up for them. -/
def dropZeros : Nat → Nat → Int → Nat × Int
  | 0, n, p => (n, p)
  | fuel + 1, n, p => if n ≠ 0 ∧ n % 10 = 0 then dropZeros fuel (n / 10) (p + 1) else (n, p)

/-- The shortest decimal `n · 10 ^ p` that rounds to a positive magnitude. -/
def decimal (m : Nat) (e : Int) : Nat × Int :=
  let (num, den) := Binary64.quotient m e
  let x := decimalExponent num den
  let (n, p) := search m e num den 17 x
  dropZeros 20 n p

end Tollbooth.Shortest

namespace Tollbooth

/-- Where a float's text is positional, and how its exponent is written otherwise. -/
structure FloatFormat where
  /-- The least decimal exponent that is written positionally. -/
  leastPositional : Int
  /-- The greatest decimal exponent that is written positionally. -/
  greatestPositional : Int
  /-- The least number of exponent digits. -/
  exponentDigits : Nat

/-- Documents write floats positionally from `10 ^ -5` to below `10 ^ 16`, always with a point, and
otherwise with a signed exponent of as many digits as it has. -/
def FloatFormat.document : FloatFormat := ⟨-5, 15, 1⟩

/-- The text of a number that has these digits and this decimal exponent. -/
def FloatFormat.layout (format : FloatFormat) (digits : List Char) (x : Int) : List Char :=
  if format.leastPositional ≤ x ∧ x ≤ format.greatestPositional then
    if x < 0 then ['0', '.'] ++ List.replicate (-x - 1).toNat '0' ++ digits
    else
      let whole := x.toNat + 1
      let padded := digits ++ List.replicate (whole - digits.length) '0'
      let fraction := padded.drop whole
      padded.take whole ++ '.' :: (if fraction.isEmpty then ['0'] else fraction)
  else
    let mantissa :=
      match digits with
      | d :: d' :: rest => d :: '.' :: d' :: rest
      | ds => ds
    let sign := if x < 0 then '-' else '+'
    let exponent := Nat.toDigits 10 x.natAbs
    mantissa ++ 'e' :: sign ::
      (List.replicate (format.exponentDigits - exponent.length) '0' ++ exponent)

/-- The shortest text of a floating-point number in a format. -/
def Binary64.text (format : FloatFormat) (x : Binary64) : String :=
  let magnitude :=
    if x.mantissa = 0 then ['0', '.', '0']
    else
      let (n, p) := Shortest.decimal x.mantissa x.exponent
      let digits := Nat.toDigits 10 n
      format.layout digits (p + (digits.length - 1 : Nat))
  .ofList (if x.negative then '-' :: magnitude else magnitude)

end Tollbooth
