import Tollbooth.Curve.Ecdsa
import Tollbooth.Dialogue
import Tollbooth.Exact.TypedData
/-!
# Signers

A signer has an address and can be asked to sign a digest; it may refuse.  A local key signs by
itself, and a remote one is asked in the course of a dialogue.

An authorization is signed under the separator of a domain (`signAuthorization`), or in a domain
that is given by its parts, as typed data (`signInDomain`).  A signer may have its own way to sign
typed data (`TypedSigner`), such as a device that shows them; unless it has, it is asked to sign
their digest.  So is whatever is kept behind a shared handle (`TypedSigner.shared`).

A signer is a function from digests to dialogues, so that a key that is kept in another place, or
that asks its owner, is as good as one that is at hand.  It is shown a digest and nothing else; that
this is the digest of what was to be signed is up to the functions here.
-/

set_option autoImplicit false

namespace Tollbooth

/-- Someone who can sign for an account. -/
structure Signer where
  address : Address
  sign : Hash256 → Dialogue (Except String Signature)

namespace Signer

/-- The signer that holds a key. -/
def ofKey (key : PrivateKey) : Signer :=
  ⟨key.address, fun digest => return .ok (Ecdsa.sign key digest)⟩

/-- The signer whose key is held elsewhere. -/
def remote (address : Address) : Signer := ⟨address, fun digest => .sign address digest .done⟩

/-- Asks a signer for the signature of a digest. -/
def signDigest (signer : Signer) (digest : Hash256) : Dialogue (Except PaymentError Signature) := do
  match ← signer.sign digest with
  | .ok signature => return .ok signature
  | .error reason => return .error (.signingFailed reason)

/-- Signs an authorization under a separator.  An authorization whose terms are wrong is not shown
to the signer. -/
def signAuthorization (signer : Signer) (a : Authorization) (s : Separator) :
    Dialogue (Except PaymentError Signature) :=
  match a.digest s with
  | .ok digest => signer.signDigest digest
  | .error e => return .error e

end Signer

/-- A signer together with its way to sign a message in a domain, both given as typed data. -/
structure TypedSigner extends Signer where
  signTyped (domain message : TypedData) : Dialogue (Except String Signature)

/-- The signer that signs typed data by their digest. -/
def Signer.typed (signer : Signer) : TypedSigner where
  toSigner := signer
  signTyped domain message := signer.sign (TypedData.signingHash domain message)

namespace TypedSigner

/-- The signer behind a handle that can be shared.  The handle passes on digests only, so typed data
are signed by their digest. -/
def shared (signer : TypedSigner) : TypedSigner :=
  Signer.typed ⟨signer.address, fun digest => signer.sign digest⟩

/-- Signs an authorization in a domain.  An authorization whose terms are wrong is not shown to the
signer. -/
def signInDomain (signer : TypedSigner) (a : Authorization) (d : SigningDomain) :
    Dialogue (Except PaymentError Signature) :=
  match a.transfer with
  | .ok t => do
    match ← signer.signTyped d.typedData t.typedData with
    | .ok signature => return .ok signature
    | .error reason => return .error (.signingFailed reason)
  | .error e => return .error e

end TypedSigner

/-- Signs an authorization in a domain by its digest. -/
def Signer.signInDomain (signer : Signer) (a : Authorization) (d : SigningDomain) :
    Dialogue (Except PaymentError Signature) :=
  signer.typed.signInDomain a d

end Tollbooth
