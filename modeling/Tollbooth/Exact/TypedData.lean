import Tollbooth.Amount
import Tollbooth.Exact.Digest
/-!
# Typed data

A message to be signed can be described as typed data: the name of its type and its members, each
with a name and a value of a known kind.  From the description follow the text of the type, the
bytes that are hashed for the message, and, with a domain that is described in the same way, the
digest to sign.

`SigningDomain.typedData` and `Transfer.typedData` describe what payers sign.  The layouts that
follow from the descriptions are those of `Tollbooth.Exact.Digest`.
-/

set_option autoImplicit false

namespace Tollbooth

/-- A value of typed data. -/
inductive TypedValue where
  | address (a : Address)
  | number (a : Amount)
  | word (w : Hash256)
  | text (s : String)
deriving DecidableEq

namespace TypedValue

/-- The name of a kind of value. -/
def kind : TypedValue → String
  | .address _ => "address"
  | .number _ => "uint256"
  | .word _ => "bytes32"
  | .text _ => "string"

/-- The 32 bytes that stand for a value: a text is hashed. -/
def toWord (hash : HashFunction) : TypedValue → Bytes
  | .address a => a.toWord
  | .number a => a.toWord
  | .word w => w.toBytes
  | .text s => (hash (Bytes.ofString s)).toBytes

end TypedValue

/-- A message with a type. -/
structure TypedData where
  name : String
  members : List (String × TypedValue)
deriving DecidableEq

namespace TypedData

/-- The text of the type: its name and the kinds and names of its members. -/
def typeText (d : TypedData) : String :=
  d.name ++ "(" ++
    ",".intercalate (d.members.map fun (name, value) => value.kind ++ " " ++ name) ++ ")"

/-- What is hashed for the message. -/
def preimage (hash : HashFunction) (d : TypedData) : Bytes :=
  (hash (Bytes.ofString d.typeText)).toBytes ++ d.members.flatMap fun m => m.2.toWord hash

/-- The hash of the message under a hash function. -/
def hashWith (hash : HashFunction) (d : TypedData) : Hash256 := hash (d.preimage hash)

/-- The digest to sign for a message in a domain under a hash function. -/
def signingHashWith (hash : HashFunction) (domain message : TypedData) : Hash256 :=
  hash ([0x19, 0x01] ++ (domain.hashWith hash).toBytes ++ (message.hashWith hash).toBytes)

/-- The digest to sign for a message in a domain. -/
def signingHash (domain message : TypedData) : Hash256 := signingHashWith Keccak.hash domain message

end TypedData

/-- The domain as typed data. -/
def SigningDomain.typedData (d : SigningDomain) : TypedData where
  name := "EIP712Domain"
  members := [
    ("name", .text d.name),
    ("version", .text d.version),
    ("chainId", .number ⟨d.chain.number, Nat.lt_trans d.chain.isWord (by decide)⟩),
    ("verifyingContract", .address d.contract)]

/-- The transfer as typed data. -/
def Transfer.typedData (t : Transfer) : TypedData where
  name := "TransferWithAuthorization"
  members := [
    ("from", .address t.payer),
    ("to", .address t.payee),
    ("value", .number t.value),
    ("validAfter", .number t.validAfter),
    ("validBefore", .number t.validBefore),
    ("nonce", .word t.nonce)]

end Tollbooth
