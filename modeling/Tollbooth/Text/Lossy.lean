import Tollbooth.Bytes
/-!
# Showing bytes that may not be text

A body that a server sent is shown in messages whether or not it is valid UTF-8: each longest part
that starts a character but cannot be continued to one, and each byte that starts none, is shown as
one replacement character.
-/

set_option autoImplicit false

namespace Tollbooth.Text

open Tollbooth (Bytes)

/-- A byte that continues a character. -/
def isContinuation (b : UInt8) : Bool := 0x80 ≤ b && b ≤ 0xbf

/-- What a lead byte asks for: how many bytes follow it, and the range of the first of them.  The
range keeps out overlong forms, surrogates and code points beyond the last. -/
def leadNeeds (b : UInt8) : Option (Nat × UInt8 × UInt8) :=
  if b < 0x80 then some (0, 0, 0)
  else if b < 0xc2 then none
  else if b < 0xe0 then some (1, 0x80, 0xbf)
  else if b = 0xe0 then some (2, 0xa0, 0xbf)
  else if b = 0xed then some (2, 0x80, 0x9f)
  else if b < 0xf0 then some (2, 0x80, 0xbf)
  else if b = 0xf0 then some (3, 0x90, 0xbf)
  else if b < 0xf4 then some (3, 0x80, 0xbf)
  else if b = 0xf4 then some (3, 0x80, 0x8f)
  else none

/-- The bytes that continue a character, as far as they are there: the code point so far, whether
it is finished, and what follows. -/
def continueChar : Nat → UInt8 → UInt8 → Nat → Bytes → Nat × Bool × Bytes
  | 0, _, _, acc, s => (acc, true, s)
  | _ + 1, _, _, acc, [] => (acc, false, [])
  | n + 1, lo, hi, acc, b :: s =>
    if lo ≤ b ∧ b ≤ hi then continueChar n 0x80 0xbf (acc * 64 + b.toNat % 64) s
    else (acc, false, b :: s)

theorem length_continueChar (n : Nat) (lo hi : UInt8) (acc : Nat) (s : Bytes) :
    (continueChar n lo hi acc s).2.2.length ≤ s.length := by
  induction n generalizing lo hi acc s with
  | zero => simp [continueChar]
  | succ n ih =>
    cases s with
    | nil => simp [continueChar]
    | cons b s =>
      simp only [continueChar]
      split
      · exact Nat.le_succ_of_le (ih ..)
      · simp

/-- The significant bits of a lead byte that `n` bytes follow. -/
def leadBits (n : Nat) (b : UInt8) : Nat :=
  if n = 0 then b.toNat else b.toNat % Nat.pow 2 (6 - n)

/-- The characters that the bytes spell, with a replacement character for each part that spells
none. -/
def lossyChars (s : Bytes) : List Char :=
  match s with
  | [] => []
  | b :: s =>
    match leadNeeds b with
    | none => '\ufffd' :: lossyChars s
    | some (n, lo, hi) =>
      let r := continueChar n lo hi (leadBits n b) s
      (if r.2.1 then Char.ofNat r.1 else '\ufffd') :: lossyChars r.2.2
termination_by s.length
decreasing_by
  · exact Nat.lt_succ_self _
  · exact Nat.lt_succ_of_le (length_continueChar ..)

/-- The bytes as text, whatever they are. -/
def lossy (s : Bytes) : String := .ofList (lossyChars s)

end Tollbooth.Text
