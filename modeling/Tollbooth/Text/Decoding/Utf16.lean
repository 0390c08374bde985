import Tollbooth.Text.Decoding.Pair
/-!
# UTF-16

A character is one unit of sixteen bits, or a pair of units of which the first is high and the
second low.  What is left of a pair or a unit is one mistake.
-/

set_option autoImplicit false

namespace Tollbooth.Text.Decoding

open Tollbooth (Bytes)

/-- A unit opens a pair. -/
def isHigh (u : Nat) : Bool := 0xd800 ≤ u && u < 0xdc00

/-- A unit closes a pair. -/
def isLow (u : Nat) : Bool := 0xdc00 ≤ u && u < 0xe000

/-- The character of a pair. -/
def ofPair (high low : Nat) : Char :=
  Char.ofNat (0x10000 + (high - 0xd800) * 0x400 + (low - 0xdc00))

/-- The unit of two bytes. -/
def unit (bigEndian : Bool) (a b : UInt8) : Nat :=
  if bigEndian then a.toNat * 256 + b.toNat else b.toNat * 256 + a.toNat

/-- The characters of UTF-16. -/
def utf16 (bigEndian : Bool) : Bytes → List Char
  | [] => []
  | [_] => [replacement]
  | a :: b :: rest =>
    let u := unit bigEndian a b
    if isHigh u then
      match rest with
      | [] => [replacement]
      | [_] => [replacement]
      | c :: d :: after =>
        let v := unit bigEndian c d
        if isLow v then ofPair u v :: utf16 bigEndian after
        else replacement :: utf16 bigEndian (c :: d :: after)
    else if isLow u then replacement :: utf16 bigEndian rest
    else Char.ofNat u :: utf16 bigEndian rest

end Tollbooth.Text.Decoding
