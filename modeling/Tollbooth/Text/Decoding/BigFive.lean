import Tollbooth.Text.Decoding.BigFive.Table
import Tollbooth.Text.Decoding.Pair
/-!
# The encoding of Chinese in long characters

`Big5` with the characters that are used in Hong Kong.  Four pairs of bytes mean a letter with an
accent that is a character of its own.
-/

set_option autoImplicit false

namespace Tollbooth.Text.Decoding

/-- The number of the character that a pair of bytes means. -/
def bigFiveNumber? (b c : UInt8) : Option Nat :=
  if isWithin 0x40 0x7e c then some ((b.toNat - 0x81) * 157 + (c.toNat - 0x40))
  else if isWithin 0xa1 0xfe c then some ((b.toNat - 0x81) * 157 + (c.toNat - 0x62))
  else none

/-- The letters with accents of their own. -/
def accented : List (Nat × List Char) :=
  [(1133, ['\u00ca', '\u0304']), (1135, ['\u00ca', '\u030c']),
    (1164, ['\u00ea', '\u0304']), (1166, ['\u00ea', '\u030c'])]

/-- `Big5`. -/
def big5 : PairCode where
  isLead := isWithin 0x81 0xfe
  single := ascii?
  pair b c := (bigFiveNumber? b c).bind fun n =>
    accented.lookup n <|> (bigFive.char? n).map ([·])

end Tollbooth.Text.Decoding
