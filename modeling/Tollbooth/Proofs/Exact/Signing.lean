import Tollbooth.Exact.Signer
import Tollbooth.Proofs.Dialogue.Run
import Tollbooth.Proofs.Exact.Authorization
/-!
# Two ways to have an authorization signed

An authorization can be signed under a separator, whose digest is laid out byte for byte, or in a
domain, as typed data.  Both ways come to the same, because the layouts that follow from the
descriptions of the types are those that are spelled out.

Typed data come with a description of their types, from which a layout is derived: the text that is
hashed for a type, and the word that is made of each value.  The layout that is spelled out is the
same, and that it is can be seen without a hash function, because the strings that are hashed are
already equal.  So it holds under every hash function, and in particular it is not an accident of
the one that is used.

A signer may be anything, so there is nothing to say about what it answers.  What can be said is
what it is used for, and for this the holder of a key serves as a stand-in: a computation that asks
the holder is compared with the one that asks the signer at the same points.

* `TypedData.signingHashWith_typedData` — the digests agree under every hash function.
* `Dialogue.signedBy` — a computation with a signer in the place of the holder of a key.
* `Signing` — all that can come of having an authorization signed.
* `signing_ways_agree` — both ways are the same computation, which shows the signer one digest.
-/

set_option autoImplicit false

namespace Tollbooth

open Dialogue (Event Yields)

/-! ## Typed data

Both types are fixed, so their texts are computed; the values are laid out one by one. -/

namespace SigningDomain

variable {hash : HashFunction}

theorem typeText_typedData (d : SigningDomain) : d.typedData.typeText = typeText := by
  simp only [TypedData.typeText, typedData, List.map, TypedValue.kind]
  decide +kernel

theorem preimage_typedData (d : SigningDomain) : d.typedData.preimage hash = d.preimage hash := by
  rw [TypedData.preimage, typeText_typedData, preimage]
  simp [typedData, TypedValue.toWord, Amount.toWord]

theorem hashWith_typedData (d : SigningDomain) :
    d.typedData.hashWith hash = (d.separatorWith hash).hash := by
  rw [TypedData.hashWith, preimage_typedData, separatorWith]

end SigningDomain

namespace Transfer

variable {hash : HashFunction}

theorem typeText_typedData (t : Transfer) : t.typedData.typeText = typeText := by
  simp only [TypedData.typeText, typedData, List.map, TypedValue.kind]
  decide +kernel

theorem preimage_typedData (t : Transfer) : t.typedData.preimage hash = t.preimage hash := by
  rw [TypedData.preimage, typeText_typedData, preimage]
  simp [typedData, TypedValue.toWord]

theorem hashWith_typedData (t : Transfer) :
    t.typedData.hashWith hash = t.structHashWith hash := by
  rw [TypedData.hashWith, preimage_typedData, structHashWith]

end Transfer

/-- **The digest of typed data is the digest of the transfer**, under every hash function. -/
theorem TypedData.signingHashWith_typedData (hash : HashFunction) (d : SigningDomain)
    (t : Transfer) :
    signingHashWith hash d.typedData t.typedData = t.digestWith hash (d.separatorWith hash) := by
  rw [signingHashWith, d.hashWith_typedData, t.hashWith_typedData, Transfer.digestWith,
    Transfer.digestPreimage]

/-! ## Signers in place of the holder of a key

The computation is followed to where it asks for a signature, and there the signer's own dialogue is
put in.  Whatever a computation with the holder of a key does not ask, it does not ask of the signer
either. -/

namespace Dialogue

variable {α : Type}

/-- The computation with a signer in place of the holder of a key: whenever the holder would be
asked to sign a digest, the signer is. -/
def signedBy (sign : Hash256 → Dialogue (Except String Signature)) : Dialogue α → Dialogue α
  | .done a => .done a
  | .send request next => .send request fun x => (next x).signedBy sign
  | .read chain asset next => .read chain asset fun x => (next x).signedBy sign
  | .sign _ digest next => (sign digest).bind fun x => (next x).signedBy sign
  | .wait ms next => .wait ms (next.signedBy sign)
  | .stalled => .stalled

end Dialogue

/-! ## Signing an authorization

The terms are checked first, then the digest is made, then the signer is asked.  Behind a shared
handle nothing is different. -/

/-- All that can come of having an authorization signed by the holder of a key: the events, and the
result.  The holder is shown the digest of the terms, and that once, unless the terms are wrong. -/
inductive Signing (account : Address) (a : Authorization) (s : Separator) :
    List Event → Except PaymentError Signature → Prop
  | signed {t : Transfer} (terms : a.transfer = .ok t) (signature : Signature) :
      Signing account a s [.signed account (t.digest s) (.ok signature)] (.ok signature)
  | refused {t : Transfer} (terms : a.transfer = .ok t) (reason : String) :
      Signing account a s [.signed account (t.digest s) (.error reason)]
        (.error (.signingFailed reason))
  | wrongAmount (terms : a.transfer = .error (.invalidAmount a.value)) :
      Signing account a s [] (.error (.invalidAmount a.value))
  | wrongWindow {flaw : AuthorizationFlaw}
      (terms : a.transfer = .error (.invalidAuthorization flaw)) :
      Signing account a s [] (.error (.invalidAuthorization flaw))

namespace Signer

variable {signer : Signer} {a : Authorization} {d : SigningDomain} {s : Separator}
  {events : List Event} {result : Except PaymentError Signature}

theorem signAuthorization_of_ok {t : Transfer} (h : a.transfer = .ok t) :
    signer.signAuthorization a s = signer.signDigest (t.digest s) := by
  rw [signAuthorization, Authorization.digest, Authorization.digestWith, h]
  rfl

theorem signAuthorization_of_error {e : PaymentError} (h : a.transfer = .error e) :
    signer.signAuthorization a s = .done (.error e) := by
  rw [signAuthorization, Authorization.digest, Authorization.digestWith, h]
  rfl

/-- A signer that signs typed data by their digest signs in a domain as under its separator. -/
theorem signInDomain_eq (signer : Signer) :
    signer.signInDomain a d = signer.signAuthorization a d.separator := by
  rw [signInDomain, TypedSigner.signInDomain]
  cases h : a.transfer with
  | error e => rw [signAuthorization_of_error h]; rfl
  | ok t =>
    rw [signAuthorization_of_ok h, Transfer.digest, SigningDomain.separator,
      ← TypedData.signingHashWith_typedData]
    rfl

/-- A signature is passed on as it is, and so is the reason why there is none. -/
theorem signDigest_eq (digest : Hash256) :
    signer.signDigest digest =
      (signer.sign digest >>= fun x => pure (x.mapError .signingFailed)) := by
  refine congrArg (signer.sign digest >>= ·) (funext fun x => ?_)
  cases x <;> rfl

theorem signDigest_eq_signedBy (digest : Hash256) (account : Address) :
    signer.signDigest digest = ((remote account).signDigest digest).signedBy signer.sign := by
  rw [signDigest_eq, signDigest_eq]
  rfl

theorem signAuthorization_eq_signedBy :
    signer.signAuthorization a s =
      ((remote signer.address).signAuthorization a s).signedBy signer.sign := by
  cases h : a.transfer with
  | error e => rw [signAuthorization_of_error h, signAuthorization_of_error h]; rfl
  | ok t => rw [signAuthorization_of_ok h, signAuthorization_of_ok h, ← signDigest_eq_signedBy]

theorem yields_sign_remote {account : Address} {digest : Hash256} {x : Except String Signature} :
    Yields ((remote account).sign digest) events x ↔ events = [.signed account digest x] := by
  constructor
  · intro h
    obtain ⟨answer, rest, rfl, hdone⟩ := Dialogue.yields_sign.1 h
    obtain ⟨rfl, rfl⟩ := Dialogue.yields_done.1 hdone
    rfl
  · rintro rfl
    exact Dialogue.yields_sign.2 ⟨x, [], rfl, Dialogue.yields_done.2 ⟨rfl, rfl⟩⟩

theorem yields_signDigest_remote {account : Address} {digest : Hash256} :
    Yields ((remote account).signDigest digest) events result ↔
      ∃ x : Except String Signature, events = [.signed account digest x] ∧
        result = x.mapError .signingFailed := by
  rw [signDigest_eq, Dialogue.yields_bind_pure]
  exact exists_congr fun x => and_congr_left fun _ => yields_sign_remote

/-- **The holder of a key is shown one digest, once**, and none if the terms are wrong. -/
theorem yields_signAuthorization_remote {account : Address} :
    Yields ((remote account).signAuthorization a s) events result ↔
      Signing account a s events result := by
  cases h : a.transfer with
  | error e =>
    rw [signAuthorization_of_error h, Dialogue.yields_done]
    constructor
    · rintro ⟨rfl, rfl⟩
      obtain rfl | ⟨flaw, rfl⟩ := Authorization.transfer_eq_error h
      · exact .wrongAmount h
      · exact .wrongWindow h
    · intro hs
      cases hs with
      | signed terms | refused terms => cases h.symm.trans terms
      | wrongAmount terms | wrongWindow terms => cases h.symm.trans terms; exact ⟨rfl, rfl⟩
  | ok t =>
    rw [signAuthorization_of_ok h, yields_signDigest_remote]
    constructor
    · rintro ⟨reason | signature, rfl, rfl⟩
      · exact .refused h reason
      · exact .signed h signature
    · intro hs
      cases hs with
      | signed terms signature => cases h.symm.trans terms; exact ⟨.ok signature, rfl, rfl⟩
      | refused terms reason => cases h.symm.trans terms; exact ⟨.error reason, rfl, rfl⟩
      | wrongAmount terms | wrongWindow terms => cases h.symm.trans terms

end Signer

/-- **Both ways of signing agree.**  A signer that has an address and signs digests, itself or
behind a shared handle, signs an authorization in a domain just as under its separator: one
computation is the other.  Of the signer it uses nothing but what it would ask of the holder of the
key; and that is the signature of one digest, once, if the terms are well written, and nothing at
all otherwise. -/
theorem signing_ways_agree (signer : Signer) (a : Authorization) (d : SigningDomain) :
    signer.signInDomain a d = signer.signAuthorization a d.separator ∧
    signer.typed.shared.signInDomain a d = signer.signAuthorization a d.separator ∧
    signer.typed.shared.signAuthorization a d.separator =
      signer.signAuthorization a d.separator ∧
    signer.signInDomain a d =
      ((Signer.remote signer.address).signInDomain a d).signedBy signer.sign ∧
    signer.signAuthorization a d.separator =
      ((Signer.remote signer.address).signAuthorization a d.separator).signedBy signer.sign ∧
    ∀ events result,
      (Yields ((Signer.remote signer.address).signInDomain a d) events result ↔
        Signing signer.address a d.separator events result) ∧
      (Yields ((Signer.remote signer.address).signAuthorization a d.separator) events result ↔
        Signing signer.address a d.separator events result) := by
  have hdomain (signer : Signer) :
      signer.signInDomain a d = signer.signAuthorization a d.separator := signer.signInDomain_eq
  rw [hdomain, hdomain (.remote signer.address)]
  exact ⟨rfl, hdomain _, rfl, Signer.signAuthorization_eq_signedBy,
    Signer.signAuthorization_eq_signedBy, fun events result =>
      ⟨Signer.yields_signAuthorization_remote, Signer.yields_signAuthorization_remote⟩⟩

end Tollbooth
