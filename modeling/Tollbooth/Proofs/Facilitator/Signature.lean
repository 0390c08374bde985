import Tollbooth.Facilitator.Credentials
import Tollbooth.Proofs.Hash.Collision
import Tollbooth.Proofs.Text.Base64
import Tollbooth.Proofs.Text.Decimal
/-!
# What a signature binds

A request is signed for its time, a path and its body, which stand one after the other with nothing
between them.  The time is written in digits and the path that is signed does not begin with one, so
that the time ends where the digits end, and the body starts behind the path.  Another time or body
is therefore another message, and it has another signature unless the keyed hash collides.

Without anything between the parts a message could be taken apart in several ways, and two requests
might share a signature though no hash collides: digits at the front of a path would be as good as
digits at the end of a time.  The path that is signed with every request begins with a slash, so
this cannot happen; but it is the path that prevents it, and not the form of the message.

* `Separates` — the paths that tell the time from the body.
* `message_injective` — with such a path the message tells time and body.
* `Signed`, `DiffersInOne` — what is signed, with one part of it changed.
* `signatures_bind` — a signature binds time and body, and any one part for every path.
-/

set_option autoImplicit false

namespace Tollbooth

/-- The decimal text of a number has digits only. -/
theorem Bytes.isDigit_of_mem_toString {n : Nat} {b : UInt8}
    (h : b ∈ Bytes.ofString (toString n)) : Json.isDigit b = true := by
  rw [ofString_eq_flatMap, List.mem_flatMap] at h
  obtain ⟨c, hc, hb⟩ := h
  have hmem : c ∈ Nat.toDigits 10 n := by simpa using hc
  have hdigit := Nat.isDigit_of_mem_toDigits (by decide) (by decide) hmem
  obtain ⟨hlow, hhigh⟩ := Char.isDigit_iff_toNat.1 hdigit
  have hzero : '0'.toNat = 48 := rfl
  have hnine : '9'.toNat = 57 := rfl
  rw [utf8EncodeChar_of_ascii (by omega), List.mem_singleton] at hb
  have hvalue : b.toNat = c.toNat := by
    rw [hb, UInt8.toNat_ofNat']
    omega
  have hge : 0x30 ≤ b := UInt8.le_iff_toNat_le.2 (by simp; omega)
  have hle : b ≤ 0x39 := UInt8.le_iff_toNat_le.2 (by simp; omega)
  simp [Json.isDigit, hge, hle]

namespace Credentials

/-! ## Messages

The digits at the front of a message are the time and nothing else, if what follows does not begin
with one.  So the time is found by reading as many digits as there are, and with the time and the
path known, the rest is the body. -/

/-- The path begins with something that is no digit. -/
def Separates (path : String) : Prop :=
  ∃ b rest, Bytes.ofString path = b :: rest ∧ Json.isDigit b = false

theorem separates_signingPath : Separates signingPath := ⟨0x2f, _, rfl, by decide⟩

/-- With a path that separates them, the digits in front of a message are its time. -/
theorem takeWhile_message {path : String} (h : Separates path) (time : Nat) (body : Bytes) :
    (message time path body).takeWhile Json.isDigit = Bytes.ofString (toString time) := by
  obtain ⟨b, rest, hpath, hb⟩ := h
  rw [message, List.append_assoc, hpath,
    List.takeWhile_append_of_pos fun b => Bytes.isDigit_of_mem_toString, List.cons_append,
    List.takeWhile_cons_of_neg (by simp [hb]), List.append_nil]

/-- **A path that separates them tells the time from the body.** -/
theorem message_injective {path : String} (h : Separates path) {t u : Nat} {body body' : Bytes}
    (heq : message t path body = message u path body') : t = u ∧ body = body' := by
  have hdigits := congrArg (List.takeWhile Json.isDigit) heq
  rw [takeWhile_message h, takeWhile_message h] at hdigits
  obtain rfl := Decimal.toString_injective (Bytes.ofString_injective hdigits)
  exact ⟨rfl, List.append_cancel_left heq⟩

/-- A path that begins with a digit does not: it may be taken for more of the time. -/
example : message 1 "1" (Bytes.ofString "1") = message 11 "1" [] := by decide +kernel

/-! ## One part changed

Where only one part is changed, no condition on the path is needed.  Two of three parts that stand
in a row determine the third, for what is put together can be cancelled from either end. -/

/-- What a request is signed for. -/
structure Signed where
  time : Nat
  path : String
  body : Bytes

namespace Signed

variable {m n : Signed}

/-- The message that is signed. -/
def message (m : Signed) : Bytes := Credentials.message m.time m.path m.body

/-- One of the three parts is another, and the others are the same. -/
inductive DiffersInOne : Signed → Signed → Prop
  | time {t u : Nat} {path : String} {body : Bytes} (other : t ≠ u) :
      DiffersInOne ⟨t, path, body⟩ ⟨u, path, body⟩
  | path {time : Nat} {p q : String} {body : Bytes} (other : p ≠ q) :
      DiffersInOne ⟨time, p, body⟩ ⟨time, q, body⟩
  | body {time : Nat} {path : String} {b c : Bytes} (other : b ≠ c) :
      DiffersInOne ⟨time, path, b⟩ ⟨time, path, c⟩

/-- **Whatever the path, a change of one part changes the message.** -/
theorem DiffersInOne.message_ne (h : m.DiffersInOne n) : m.message ≠ n.message := by
  intro heq
  cases h with
  | time hother =>
    have htime := List.append_cancel_right (List.append_cancel_right heq)
    exact hother (Decimal.toString_injective (Bytes.ofString_injective htime))
  | path hother =>
    have hpath := List.append_cancel_left (List.append_cancel_right heq)
    exact hother (Bytes.ofString_injective hpath)
  | body hother => exact hother (List.append_cancel_left heq)

end Signed

/-! ## Signatures

The hash is any function of a key and a message, and base64 loses nothing.  What is left between two
equal signatures and two equal messages is a collision of that function, at the two messages that
were signed. -/

variable {mac : Bytes → Bytes → Hash256} {secret : Bytes}

/-- A signature is the keyed hash of the message, and tells it. -/
theorem signatureWith_eq_iff {t u : Nat} {p q : String} {body body' : Bytes} :
    signatureWith mac secret t p body = signatureWith mac secret u q body' ↔
      mac secret (message t p body) = mac secret (message u q body') := by
  constructor
  · exact fun h => Octets.toBytes_injective (Base64.encodeString_injective h)
  · exact fun h => congrArg (fun tag : Hash256 => Base64.encodeString tag.toBytes) h

theorem sign_binds {c : Credentials} {t u : Nat} {body body' : Bytes}
    (h : c.sign t body = c.sign u body') :
    (t = u ∧ body = body') ∨ Collides (Sha256.hmac (Bytes.ofString c.secret))
      [message t signingPath body, message u signingPath body'] := by
  have htag := signatureWith_eq_iff.1 h
  refine (eq_or_collides _ (by simp) (by simp) htag).imp_left fun heq => ?_
  exact message_injective separates_signingPath heq

theorem Signed.DiffersInOne.collides {m n : Signed} (h : m.DiffersInOne n)
    (heq : signatureWith mac secret m.time m.path m.body =
      signatureWith mac secret n.time n.path n.body) :
    Collides (mac secret) [m.message, n.message] := by
  have htag : mac secret m.message = mac secret n.message := signatureWith_eq_iff.1 heq
  exact (eq_or_collides _ (by simp) (by simp) htag).resolve_left h.message_ne

end Credentials

/-- **What a signature binds.**  Credentials give the same signature for two times and bodies only
if these are the same, or the keyed hash takes the same value on the two messages, which then
differ.  For every path another time, another path or another body alone is another message, and
under every keyed hash it has the same signature only by such a collision.  A signature is the
base64 text of the hash of the time in decimal, the path and the body, one after the other. -/
theorem signatures_bind :
    (∀ (c : Credentials) (t u : Nat) (body body' : Bytes), c.sign t body = c.sign u body' →
      (t = u ∧ body = body') ∨ Collides (Sha256.hmac (Bytes.ofString c.secret))
        [Credentials.message t Credentials.signingPath body,
          Credentials.message u Credentials.signingPath body']) ∧
    (∀ m n : Credentials.Signed, m.DiffersInOne n → m.message ≠ n.message) ∧
    (∀ (mac : Bytes → Bytes → Hash256) (secret : Bytes) (m n : Credentials.Signed),
      m.DiffersInOne n → Credentials.signatureWith mac secret m.time m.path m.body =
        Credentials.signatureWith mac secret n.time n.path n.body →
          Collides (mac secret) [m.message, n.message]) ∧
    ∀ (secret : Bytes) (time : Nat) (path : String) (body : Bytes),
      Base64.decode? (Bytes.ofString (Credentials.signature secret time path body)) =
        some (Sha256.hmac secret
          (Bytes.ofString (toString time) ++ Bytes.ofString path ++ body)).toBytes := by
  refine ⟨fun c t u body body' => Credentials.sign_binds, fun m n h => h.message_ne,
    fun mac secret m n h => h.collides, fun secret time path body => ?_⟩
  rw [Credentials.signature, Credentials.signatureWith, Base64.ofString_encodeString,
    Base64.decode?_encode, Credentials.message]

/-- Under a keyed hash that tells nothing apart, requests at two times have one signature. -/
theorem signatures_bind_constant : ∃ (tag : Hash256) (m n : Credentials.Signed),
    m.DiffersInOne n ∧ Credentials.signatureWith (fun _ _ => tag) [] m.time m.path m.body =
      Credentials.signatureWith (fun _ _ => tag) [] n.time n.path n.body ∧
    Collides (fun _ => tag) [m.message, n.message] := by
  have hdiffers : Credentials.Signed.DiffersInOne ⟨1, "1", []⟩ ⟨11, "1", []⟩ := .time (by decide)
  exact ⟨Vector.replicate 32 0, _, _, hdiffers, rfl,
    signatures_bind.2.2.1 (fun _ _ => Vector.replicate 32 0) [] _ _ hdiffers rfl⟩

end Tollbooth
