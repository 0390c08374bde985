import Tollbooth.Hash.Sha256
import Tollbooth.Setting
import Tollbooth.Text.Base64
import Tollbooth.Text.Blank
import Tollbooth.Text.Quoted
/-!
# API credentials

Requests to a facilitator are signed with the secret of an account.  What is signed is the time in
milliseconds, a path that does not depend on the URL that is called, and the exact bytes of the
body, one after the other.

`Credentials.ofEnvironment` takes the credentials from variables of the environment.
-/

set_option autoImplicit false

namespace Tollbooth

/-- The credentials of an account. -/
structure Credentials where
  key : String
  secret : String
  passphrase : Option String
  forwardedFor : String
deriving DecidableEq, Inhabited

namespace Credentials

/-- The address on whose behalf requests are sent unless another is set. -/
def defaultForwardedFor : String := "127.0.0.1"

/-- Credentials with a key and a secret only. -/
def ofKey (key secret : String) : Credentials := ⟨key, secret, none, defaultForwardedFor⟩

/-- The credentials with a passphrase; an empty one is none. -/
def withPassphrase (c : Credentials) (passphrase : String) : Credentials :=
  { c with passphrase := if passphrase = "" then none else some passphrase }

/-- The credentials with an address on whose behalf requests are sent; an empty one changes
nothing. -/
def withForwardedFor (c : Credentials) (address : String) : Credentials :=
  if address = "" then c else { c with forwardedFor := address }

/-- The variables that hold the key and the secret. -/
def keyVariable : String := "GATE_WEB3_API_KEY"

def secretVariable : String := "GATE_WEB3_API_SECRET"

/-- The variable that holds the passphrase. -/
def passphraseVariable : String := "GATE_WEB3_PASSPHRASE"

/-- The variable that holds the address on whose behalf requests are sent. -/
def forwardedForVariable : String := "GATE_WEB3_REAL_IP"

/-- The credentials in an environment: there are none unless both key and secret are set to more
than blanks. -/
def ofEnvironment (env : Environment) : Option Credentials := do
  let key := Text.trim (← env keyVariable)
  let secret := Text.trim (← env secretVariable)
  guard (key ≠ "" ∧ secret ≠ "")
  let c := ofKey key secret
  let c := (env passphraseVariable).elim c c.withPassphrase
  return (env forwardedForVariable).elim c c.withForwardedFor

/-- The credentials as they are shown, without what is secret. -/
def shown (c : Credentials) : String :=
  "Credentials \x7b api_key: " ++ Text.quoted c.key ++
    ", api_secret: \"<redacted>\", passphrase: " ++
    (if c.passphrase.isSome then "Some(\"<redacted>\")" else "None") ++
    ", forwarded_for: " ++ Text.quoted c.forwardedFor ++ " \x7d"

/-! ## Signing

The time is part of what is signed, so that a facilitator can tell when a request is an old one that
is sent again. -/

/-- The path that is signed with every request. -/
def signingPath : String := "/api/v1/dex"

/-- What is signed. -/
def message (time : Nat) (path : String) (body : Bytes) : Bytes :=
  Bytes.ofString (toString time) ++ Bytes.ofString path ++ body

/-- The signature under a keyed hash function. -/
def signatureWith (mac : Bytes → Bytes → Hash256) (secret : Bytes) (time : Nat) (path : String)
    (body : Bytes) : String :=
  Base64.encodeString (mac secret (message time path body)).toBytes

/-- The signature of a request: a keyed hash in base64. -/
def signature (secret : Bytes) (time : Nat) (path : String) (body : Bytes) : String :=
  signatureWith Sha256.hmac secret time path body

/-- Signs the body of a request. -/
def sign (c : Credentials) (time : Nat) (body : Bytes) : String :=
  signature (Bytes.ofString c.secret) time signingPath body

end Credentials

end Tollbooth
