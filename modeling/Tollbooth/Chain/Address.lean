import Tollbooth.Hash.Keccak
/-!
# Account addresses

An address is twenty bytes.  Its checksum form spells a letter among its forty digits in upper case
where the digit at the same place of the hash of the lower-case form is eight or more.  Addresses
are read in any case; the checksum is written but never demanded.
-/

set_option autoImplicit false

namespace Tollbooth

/-- The address of an account or a contract. -/
structure Address where
  octets : Octets 20
deriving DecidableEq

namespace Address

instance : Inhabited Address := ⟨⟨Vector.replicate 20 0⟩⟩

/-- The address of no account. -/
def zero : Address := ⟨Vector.replicate 20 0⟩

/-- The address that forty hexadecimal digits spell, after an optional `0x`. -/
def parse? (s : String) : Option Address := (Octets.parse? 20 s).map Address.mk

/-- The lower-case form. -/
def lower (a : Address) : String := a.octets.text

/-- The checksum form under a hash function. -/
def checksumWith (hash : HashFunction) (a : Address) : String :=
  let digits := Hex.encodeChars a.octets.toBytes
  let marks := Hex.encodeChars (hash (digits.map fun c => UInt8.ofNat c.toNat)).toBytes
  let cased := List.zipWith (fun c m => if (Hex.value? m).getD 0 ≥ 8 then c.toUpper else c)
    digits marks
  "0x" ++ .ofList cased

/-- The checksum form. -/
def checksum (a : Address) : String := a.checksumWith Keccak.hash

/-- The address as a word: twelve zero bytes in front. -/
def toWord (a : Address) : Bytes := List.replicate 12 0 ++ a.octets.toBytes

end Address

end Tollbooth
