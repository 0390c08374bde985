import Tollbooth.Text.Decoding.Guobiao.Table
import Tollbooth.Text.Decoding.Pair
/-!
# The encoding of all of Chinese

`GB 18030` writes ASCII in one byte, common characters in two and all others in four, every second
of which is a digit.  The encodings that it grew out of are read in the same way.
-/

set_option autoImplicit false

namespace Tollbooth.Text.Decoding

open Tollbooth (Bytes)

/-- The number of the character that a pair of bytes means. -/
def guobiaoNumber? (b c : UInt8) : Option Nat :=
  if isWithin 0x40 0x7e c then some ((b.toNat - 0x81) * 190 + (c.toNat - 0x40))
  else if isWithin 0x80 0xfe c then some ((b.toNat - 0x81) * 190 + (c.toNat - 0x41))
  else none

/-- The character that a pair of bytes means. -/
def guobiaoPair? (b c : UInt8) : Option Char := (guobiaoNumber? b c).bind guobiao.char?

/-- A byte that leads a pair, or half of four. -/
def isGuobiaoLead (b : UInt8) : Bool := isWithin 0x81 0xfe b

/-- A byte that is a digit. -/
def isDigitByte (b : UInt8) : Bool := isWithin 0x30 0x39 b

/-- The character that four bytes mean. -/
def guobiaoFour? (b c d e : UInt8) : Option Char :=
  let n := (((b.toNat - 0x81) * 10 + (c.toNat - 0x30)) * 126 + (d.toNat - 0x81)) * 10 +
    (e.toNat - 0x30)
  (guobiaoRanges.targets? n).bind fun points => points.head?.map Char.ofNat

/-- The character of a byte by itself. -/
def guobiaoSingle? (b : UInt8) : Option Char := if b == 0x80 then some '\u20ac' else ascii? b

/-- The characters of `GB 18030`. -/
def gb18030 : Bytes → List Char
  | [] => []
  | [b] => [(guobiaoSingle? b).getD replacement]
  | b :: c :: rest =>
    if !isGuobiaoLead b then (guobiaoSingle? b).getD replacement :: gb18030 (c :: rest)
    else if isDigitByte c then
      match rest with
      | [] => [replacement]
      | [d] => if isGuobiaoLead d then [replacement] else replacement :: gb18030 [c, d]
      | d :: e :: after =>
        if isGuobiaoLead d && isDigitByte e then
          (guobiaoFour? b c d e).getD replacement :: gb18030 after
        else replacement :: gb18030 (c :: d :: e :: after)
    else
      match guobiaoPair? b c with
      | some char => char :: gb18030 rest
      | none => replacement :: if c < 0x80 then gb18030 (c :: rest) else gb18030 rest
termination_by bytes => bytes.length
decreasing_by all_goals (simp only [List.length_cons, List.length_nil]; omega)

end Tollbooth.Text.Decoding
