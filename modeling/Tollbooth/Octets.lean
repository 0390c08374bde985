import Tollbooth.Text.Hex
/-!
# Byte strings of a fixed length

Addresses, hashes, nonces and signatures have a fixed number of bytes, which is in their type.
-/

set_option autoImplicit false

namespace Tollbooth

/-- A byte string of `n` bytes. -/
abbrev Octets (n : Nat) := Vector UInt8 n

namespace Octets

/-- The bytes, if there are `n` of them. -/
def ofBytes? (n : Nat) (b : Bytes) : Option (Octets n) :=
  if h : b.length = n then some ⟨b.toArray, by simpa using h⟩ else none

/-- The bytes as a list. -/
def toBytes {n : Nat} (v : Octets n) : Bytes := v.toList

/-- The last `n` bytes of a number, most significant first. -/
def ofNat (n : Nat) (x : Nat) : Octets n := ⟨(Bytes.ofNat n x).toArray, by simp⟩

/-- The number that the bytes denote. -/
def toNat {n : Nat} (v : Octets n) : Nat := Bytes.toNat v.toBytes

/-- `0x` and two lower-case digits for each byte. -/
def text {n : Nat} (v : Octets n) : String := "0x" ++ Hex.encode v.toBytes

/-- The bytes that exactly `2 * n` hexadecimal digits spell, after an optional `0x`. -/
def parse? (n : Nat) (s : String) : Option (Octets n) := (Hex.decode? s).bind (ofBytes? n)

@[simp] theorem length_toBytes {n : Nat} (v : Octets n) : v.toBytes.length = n := by
  simp [toBytes]

theorem ofBytes?_toBytes {n : Nat} (v : Octets n) : ofBytes? n v.toBytes = some v := by
  simp [ofBytes?, toBytes, Vector.toList]

theorem toBytes_injective {n : Nat} {v w : Octets n} (h : v.toBytes = w.toBytes) : v = w := by
  have := congrArg (ofBytes? n) h
  simpa [ofBytes?_toBytes] using this

end Octets

/-- A 256-bit string: a hash, a nonce, a private key. -/
abbrev Hash256 := Octets 32

/-- A hash function to 256 bits. -/
abbrev HashFunction := Bytes → Hash256

end Tollbooth
