import Tollbooth.Bytes
/-!
# Encodings with one or two bytes for a character

A byte either means something by itself or leads a pair.  A pair that means nothing is one mistake;
if its second byte is ASCII, that byte is read once more by itself.
-/

set_option autoImplicit false

namespace Tollbooth.Text.Decoding

open Tollbooth (Bytes)

/-- The character that stands for what is wrong. -/
def replacement : Char := '\ufffd'

/-- The character of an ASCII byte. -/
def ascii? (b : UInt8) : Option Char := if b < 0x80 then some (Char.ofNat b.toNat) else none

/-- The byte is one of those from `low` to `high`. -/
def isWithin (low high b : UInt8) : Bool := low ≤ b && b ≤ high

/-- What a byte or a pair of bytes means. -/
structure PairCode where
  isLead : UInt8 → Bool
  single : UInt8 → Option Char
  pair : UInt8 → UInt8 → Option (List Char)

/-- The characters of bytes. -/
def PairCode.decode (code : PairCode) : Bytes → List Char
  | [] => []
  | [b] => [if code.isLead b then replacement else (code.single b).getD replacement]
  | b :: c :: rest =>
    if code.isLead b then
      match code.pair b c with
      | some cs => cs ++ code.decode rest
      | none => replacement :: if c < 0x80 then code.decode (c :: rest) else code.decode rest
    else (code.single b).getD replacement :: code.decode (c :: rest)

end Tollbooth.Text.Decoding
