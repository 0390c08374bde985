import Tollbooth.Exact.Authorization
/-!
# Digests of transfers

What a payer signs is the hash of a transfer within the signing domain of its token contract.  The
domain is given by its separator, which is itself the hash of the contract's name, version, chain
and address.  Each layout is spelled out here byte for byte; `Tollbooth.Exact.TypedData` derives the
same hashes from the description of a type.

Every function takes the hash function as an argument in its `…With` form, together with the list
of byte strings that are hashed on the way, so that what a digest binds can be stated for any hash
function; the plain forms use Keccak-256.
-/

set_option autoImplicit false

namespace Tollbooth

open Json

/-- The separator of a signing domain. -/
structure Separator where
  hash : Hash256
deriving DecidableEq

namespace Separator

instance : Inhabited Separator := ⟨⟨Vector.replicate 32 0⟩⟩

/-- The separator in hexadecimal. -/
def text (s : Separator) : String := s.hash.text

/-- The separator that a text spells. -/
def parse? (s : String) : Option Separator := (Octets.parse? 32 s).map Separator.mk

/-- Reads a separator. -/
def read : Reader Separator := fun site d => Separator.mk <$> readOctets 32 site d

/-- Writes a separator. -/
def toDoc (s : Separator) : Doc := .ofOctets s.hash

end Separator

/-- A signing domain. -/
structure SigningDomain where
  name : String
  version : String
  chain : ChainNumber
  contract : Address
deriving DecidableEq

namespace SigningDomain

/-- The type of a signing domain. -/
def typeText : String :=
  "EIP712Domain(string name,string version,uint256 chainId,address verifyingContract)"

/-- What is hashed last for the separator. -/
def preimage (hash : HashFunction) (d : SigningDomain) : Bytes :=
  (hash (Bytes.ofString typeText)).toBytes ++ (hash (Bytes.ofString d.name)).toBytes ++
    (hash (Bytes.ofString d.version)).toBytes ++ Bytes.ofNat 32 d.chain.number ++ d.contract.toWord

/-- The separator of the domain under a hash function. -/
def separatorWith (hash : HashFunction) (d : SigningDomain) : Separator := ⟨hash (d.preimage hash)⟩

/-- The separator of the domain. -/
def separator (d : SigningDomain) : Separator := d.separatorWith Keccak.hash

end SigningDomain

namespace Transfer

/-- The type of a transfer. -/
def typeText : String :=
  "TransferWithAuthorization(address from,address to,uint256 value,uint256 validAfter," ++
    "uint256 validBefore,bytes32 nonce)"

/-- What is hashed for the transfer itself. -/
def preimage (hash : HashFunction) (t : Transfer) : Bytes :=
  (hash (Bytes.ofString typeText)).toBytes ++ t.payer.toWord ++ t.payee.toWord ++
    t.value.toWord ++ t.validAfter.toWord ++ t.validBefore.toWord ++ t.nonce.toBytes

/-- The hash of the transfer itself under a hash function. -/
def structHashWith (hash : HashFunction) (t : Transfer) : Hash256 := hash (t.preimage hash)

/-- The hash of the transfer itself. -/
def structHash (t : Transfer) : Hash256 := t.structHashWith Keccak.hash

/-- What is hashed for the digest: two marks, the separator and the hash of the transfer. -/
def digestPreimage (hash : HashFunction) (t : Transfer) (s : Separator) : Bytes :=
  [0x19, 0x01] ++ s.hash.toBytes ++ (t.structHashWith hash).toBytes

/-- The digest of the transfer within a domain under a hash function. -/
def digestWith (hash : HashFunction) (t : Transfer) (s : Separator) : Hash256 :=
  hash (t.digestPreimage hash s)

/-- The digest of the transfer within a domain. -/
def digest (t : Transfer) (s : Separator) : Hash256 := t.digestWith Keccak.hash s

end Transfer

namespace Authorization

/-- The digest that is signed for an authorization, under a hash function. -/
def digestWith (hash : HashFunction) (a : Authorization) (s : Separator) :
    Except PaymentError Hash256 :=
  a.transfer.map fun t => t.digestWith hash s

/-- The digest that is signed for an authorization. -/
def digest (a : Authorization) (s : Separator) : Except PaymentError Hash256 :=
  a.digestWith Keccak.hash s

end Authorization

end Tollbooth
