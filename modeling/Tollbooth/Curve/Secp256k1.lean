/-!
# The curve secp256k1

Points of the curve `y² = x³ + 7` over the field of a 256-bit prime, in homogeneous coordinates:
`(X : Y : Z)` stands for `(X / Z, Y / Z)`, and `Z` is zero for the point at infinity alone.  One
addition formula holds for all pairs of points, doubling and the point at infinity included.
-/

set_option autoImplicit false

namespace Tollbooth.Secp256k1

/-- The prime of the field. -/
def prime : Nat := 0xfffffffffffffffffffffffffffffffffffffffffffffffffffffffefffffc2f

/-- The number of points. -/
def order : Nat := 0xfffffffffffffffffffffffffffffffebaaedce6af48a03bbfd25e8cd0364141

/-- The bits of a 256-bit number, most significant first. -/
def bits (n : Nat) : List Bool := (List.range 256).reverse.map n.testBit

/-- A power modulo `m`, for exponents of 256 bits. -/
def powMod (m base exponent : Nat) : Nat :=
  (bits exponent).foldl
    (fun acc bit => let s := acc * acc % m; if bit then s * base % m else s) 1

/-- The inverse modulo a prime. -/
def invMod (m x : Nat) : Nat := powMod m x (m - 2)

/-! ## The field -/

/-- The sum of two field elements. -/
def add (x y : Nat) : Nat := (x + y) % prime

/-- The difference of two field elements. -/
def sub (x y : Nat) : Nat := (x + (prime - y)) % prime

/-- The product of two field elements. -/
def mul (x y : Nat) : Nat := x * y % prime

/-- A square root, if the element is a square: the prime leaves three when divided by four. -/
def sqrt? (x : Nat) : Option Nat :=
  let r := powMod prime x ((prime + 1) / 4)
  if mul r r = x % prime then some r else none

/-! ## Points

No point has order two, which is why the formula of addition has no exceptional cases.  A multiple
is had by doubling and adding, without a case for the point at infinity. -/

/-- A point in homogeneous coordinates. -/
structure Point where
  x : Nat
  y : Nat
  z : Nat
deriving DecidableEq, Inhabited

namespace Point

/-- The point at infinity. -/
def infinity : Point := ⟨0, 1, 0⟩

/-- The base point. -/
def base : Point :=
  ⟨0x79be667ef9dcbbac55a06295ce870b07029bfcdb2dce28d959f2815b16f81798,
    0x483ada7726a3c4655da4fbfc0e1108a8fd17b448a68554199c47d08ffb10d4b8, 1⟩

/-- The sum of two points. -/
def add (p q : Point) : Point :=
  let xx := mul p.x q.x
  let yy := mul p.y q.y
  let zz := mul 21 (mul p.z q.z)
  let xy := Secp256k1.add (mul p.x q.y) (mul q.x p.y)
  let yz := Secp256k1.add (mul p.y q.z) (mul q.y p.z)
  let xz := Secp256k1.add (mul p.x q.z) (mul q.x p.z)
  let plus := Secp256k1.add yy zz
  let minus := sub yy zz
  ⟨sub (mul xy minus) (mul 21 (mul yz xz)),
    Secp256k1.add (mul plus minus) (mul 63 (mul xx xz)),
    Secp256k1.add (mul yz plus) (mul 3 (mul xx xy))⟩

/-- A multiple of a point, for factors of 256 bits. -/
def smul (n : Nat) (p : Point) : Point :=
  (bits n).foldl (fun acc bit => let d := acc.add acc; if bit then d.add p else d) infinity

/-- The two coordinates of a point, unless it is the one at infinity. -/
def affine? (p : Point) : Option (Nat × Nat) :=
  if p.z % prime = 0 then none
  else
    let i := invMod prime p.z
    some (mul p.x i, mul p.y i)

/-- The point with this abscissa whose ordinate is odd or even as asked. -/
def ofAbscissa? (x : Nat) (odd : Bool) : Option Point := do
  let y ← sqrt? (Secp256k1.add (mul x (mul x x)) 7)
  return ⟨x, if (y % 2 == 1) == odd then y else sub 0 y, 1⟩

end Point

end Tollbooth.Secp256k1
