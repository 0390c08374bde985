import Tollbooth.Text.Decoding.Korean.Table
import Tollbooth.Text.Decoding.Pair
/-!
# The Korean encoding

`EUC-KR` with the syllables that were added to it.
-/

set_option autoImplicit false

namespace Tollbooth.Text.Decoding

/-- The number of the character that a pair of bytes means. -/
def koreanNumber? (b c : UInt8) : Option Nat :=
  if isWithin 0x41 0xfe c then some ((b.toNat - 0x81) * 190 + (c.toNat - 0x41)) else none

/-- `EUC-KR`. -/
def eucKr : PairCode where
  isLead := isWithin 0x81 0xfe
  single := ascii?
  pair b c := (koreanNumber? b c).bind fun n => (korean.char? n).map ([·])

end Tollbooth.Text.Decoding
