import Tollbooth.Curve.Secp256k1
import Tollbooth.Chain.Address
import Tollbooth.Hash.Sha256
/-!
# Signatures over secp256k1

Signing is deterministic: the secret scalar of a signature is drawn from the key and the digest by
the construction of RFC 6979 over SHA-256.  The second half of a signature is always the smaller of
its two possible values, and a last byte of 27 or 28 tells which point was used, so that the
signer's address can be recovered.
-/

set_option autoImplicit false

namespace Tollbooth

open Secp256k1

/-- A signature of 65 bytes: two scalars and a byte that tells the parity of the point. -/
abbrev Signature := Octets 65

/-- A private key: a scalar that is neither zero nor beyond the order of the curve. -/
structure PrivateKey where
  scalar : Nat
  isPositive : 0 < scalar
  isBelow : scalar < order

namespace PrivateKey

/-- The key of a scalar. -/
def ofScalar? (n : Nat) : Option PrivateKey :=
  if h : 0 < n ∧ n < order then some ⟨n, h.1, h.2⟩ else none

/-- The key that sixty-four hexadecimal digits spell, after an optional `0x`. -/
def parse? (s : String) : Option PrivateKey :=
  (Octets.parse? 32 s).bind fun b => ofScalar? b.toNat

end PrivateKey

/-- The address of a point: the last twenty bytes of the hash of its coordinates. -/
def Address.ofPoint? (p : Point) : Option Address := do
  let (x, y) ← p.affine?
  let hash := Keccak.hash (Bytes.ofNat 32 x ++ Bytes.ofNat 32 y)
  Address.mk <$> Octets.ofBytes? 20 (hash.toBytes.drop 12)

/-- The address of a key. -/
def PrivateKey.address (key : PrivateKey) : Address :=
  (Address.ofPoint? (Point.base.smul key.scalar)).getD .zero

namespace Ecdsa

/-- The state from which secret scalars are drawn. -/
structure Generator where
  key : Bytes
  value : Bytes

/-- Mixes a byte and some data into the state. -/
def Generator.mix (g : Generator) (mark : UInt8) (data : Bytes) : Generator :=
  let key := (Sha256.hmac g.key (g.value ++ mark :: data)).toBytes
  ⟨key, (Sha256.hmac key g.value).toBytes⟩

/-- The state for a key and a digest. -/
def Generator.start (key : PrivateKey) (digest : Hash256) : Generator :=
  let data := Bytes.ofNat 32 key.scalar ++ Bytes.ofNat 32 (digest.toNat % order)
  let g : Generator := ⟨List.replicate 32 0, List.replicate 32 1⟩
  (g.mix 0 data).mix 1 data

/-- The signature with a secret scalar, unless one of its halves would be zero. -/
def signWith? (key : PrivateKey) (digest : Hash256) (k : Nat) : Option Signature := do
  let (x, y) ← (Point.base.smul k).affine?
  let r := x % order
  let s := invMod order k * (digest.toNat + r * key.scalar) % order
  if r = 0 || s = 0 then none
  else
    let high := s > order / 2
    let odd := (y % 2 == 1) != high
    Octets.ofBytes? 65 (Bytes.ofNat 32 r ++ Bytes.ofNat 32 (if high then order - s else s) ++
      [if odd then 28 else 27])

/-- The signature with the first suitable scalar that the state gives. -/
def signFrom (key : PrivateKey) (digest : Hash256) : Nat → Generator → Signature
  | 0, _ => Vector.replicate 65 0
  | tries + 1, g =>
    let value := (Sha256.hmac g.key g.value).toBytes
    let k := Bytes.toNat value
    let signature? := if 0 < k ∧ k < order then signWith? key digest k else none
    match signature? with
    | some signature => signature
    | none => signFrom key digest tries (Generator.mix ⟨g.key, value⟩ 0 [])

/-- The signature of a digest.  A scalar is unsuitable with a probability below `2 ^ -127`. -/
def sign (key : PrivateKey) (digest : Hash256) : Signature :=
  signFrom key digest 64 (.start key digest)

/-- The address whose key made a signature of a digest. -/
def recover? (digest : Hash256) (signature : Bytes) : Option Address := do
  guard (signature.length = 65)
  let r := Bytes.toNat (signature.take 32)
  let s := Bytes.toNat ((signature.drop 32).take 32)
  guard (0 < r ∧ r < order ∧ 0 < s ∧ s < order)
  let p ← Point.ofAbscissa? r (signature.getLast? == some 28)
  let i := invMod order r
  let u := (order - digest.toNat % order) * i % order
  let v := s * i % order
  Address.ofPoint? ((Point.base.smul u).add (p.smul v))

end Ecdsa

end Tollbooth
