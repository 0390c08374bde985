import Tollbooth.Text.Decoding.Japanese.Table
import Tollbooth.Text.Decoding.Pair
/-!
# The Japanese encodings

Three encodings write the same characters: `Shift_JIS` in one or two bytes, `EUC-JP` in up to three,
and `ISO-2022-JP` in bytes below 0x80, with escapes that change what the bytes behind them mean.
-/

set_option autoImplicit false

namespace Tollbooth.Text.Decoding

open Tollbooth (Bytes)

/-- The character of half width that is so many places behind the first one. -/
def halfWidth (n : Nat) : Char := Char.ofNat (0xff61 + n)

/-! ## One or two bytes -/

/-- The number of the character that a pair of bytes means. -/
def shiftJisNumber? (b c : UInt8) : Option Nat :=
  let row := b.toNat - if b < 0xa0 then 0x81 else 0xc1
  if isWithin 0x40 0x7e c then some (row * 188 + (c.toNat - 0x40))
  else if isWithin 0x80 0xfc c then some (row * 188 + (c.toNat - 0x41))
  else none

/-- The character of a number; many numbers are left to private use. -/
def shiftJisChar? (n : Nat) : Option Char :=
  if 8836 ≤ n ∧ n ≤ 10715 then some (Char.ofNat (0xe000 + (n - 8836))) else jis208.char? n

/-- `Shift_JIS`. -/
def shiftJis : PairCode where
  isLead b := isWithin 0x81 0x9f b || isWithin 0xe0 0xfc b
  single b :=
    if b ≤ 0x80 then some (Char.ofNat b.toNat)
    else if isWithin 0xa1 0xdf b then some (halfWidth (b.toNat - 0xa1))
    else none
  pair b c := (shiftJisNumber? b c).bind fun n => (shiftJisChar? n).map ([·])

/-! ## Up to three bytes -/

/-- A byte of a pair. -/
def isEucByte (b : UInt8) : Bool := isWithin 0xa1 0xfe b

/-- The character of a set that a pair of bytes means. -/
def eucChar? (index : Index) (b c : UInt8) : Option Char :=
  if isEucByte b && isEucByte c then index.char? ((b.toNat - 0xa1) * 94 + (c.toNat - 0xa1))
  else none

/-- The characters of `EUC-JP`: the bytes 0x8e and 0x8f lead to characters of half width and to the
second set. -/
def eucJp : Bytes → List Char
  | [] => []
  | [b] => [(ascii? b).getD replacement]
  | [b, c] =>
    if b == 0x8e && isWithin 0xa1 0xdf c then [halfWidth (c.toNat - 0xa1)]
    else if b == 0x8f && isEucByte c then [replacement]
    else if b == 0x8e || b == 0x8f || isEucByte b then
      match eucChar? jis208 b c with
      | some char => [char]
      | none => replacement :: if c < 0x80 then eucJp [c] else []
    else (ascii? b).getD replacement :: eucJp [c]
  | b :: c :: d :: rest =>
    if b == 0x8e && isWithin 0xa1 0xdf c then halfWidth (c.toNat - 0xa1) :: eucJp (d :: rest)
    else if b == 0x8f && isEucByte c then
      match eucChar? jis212 c d with
      | some char => char :: eucJp rest
      | none => replacement :: if d < 0x80 then eucJp (d :: rest) else eucJp rest
    else if b == 0x8e || b == 0x8f || isEucByte b then
      match eucChar? jis208 b c with
      | some char => char :: eucJp (d :: rest)
      | none =>
        replacement :: if c < 0x80 then eucJp (c :: d :: rest) else eucJp (d :: rest)
    else (ascii? b).getD replacement :: eucJp (c :: d :: rest)

/-! ## Escapes -/

/-- What bytes mean behind an escape. -/
inductive JisShift where
  | ascii
  /-- With a yen sign and an overline in the place of two signs. -/
  | roman
  | halfWidth
  | pairs
deriving DecidableEq

namespace JisShift

/-- What an escape of these two bytes leads to. -/
def ofEscape? (b c : UInt8) : Option JisShift :=
  if b == 0x28 && c == 0x42 then some .ascii
  else if b == 0x28 && c == 0x4a then some .roman
  else if b == 0x28 && c == 0x49 then some .halfWidth
  else if b == 0x24 && (c == 0x40 || c == 0x42) then some .pairs
  else none

/-- The character of an ASCII byte that is no shift. -/
def plain? (b : UInt8) : Option Char := if b == 0x0e || b == 0x0f then none else ascii? b

/-- What a byte means by itself. -/
def single? : JisShift → UInt8 → Option Char
  | .ascii, b => plain? b
  | .roman, b => if b == 0x5c then some '\u00a5' else if b == 0x7e then some '\u203e' else plain? b
  | .halfWidth, b =>
    if isWithin 0x21 0x5f b then some (Decoding.halfWidth (b.toNat - 0x21)) else none
  | .pairs, _ => none

/-- A byte of a pair. -/
def isPairByte (b : UInt8) : Bool := isWithin 0x21 0x7e b

/-- The character that a pair of bytes means. -/
def pair? (b c : UInt8) : Option Char :=
  if isPairByte c then jis208.char? ((b.toNat - 0x21) * 94 + (c.toNat - 0x21)) else none

end JisShift

/-- The byte that starts an escape. -/
def escape : UInt8 := 0x1b

/-- The characters of `ISO-2022-JP`.  An escape right behind another one is a mistake, for it made
that one useless: `fresh` says that nothing has been read since the last one. -/
def iso2022Jp (shift : JisShift) (fresh : Bool) : Bytes → List Char
  | [] => []
  | [b] => [if b == escape then replacement else (shift.single? b).getD replacement]
  | b :: c :: rest =>
    if b == escape then
      match rest with
      | [] => replacement :: iso2022Jp shift false [c]
      | d :: after =>
        match JisShift.ofEscape? c d with
        | some next =>
          if fresh then replacement :: iso2022Jp next true after else iso2022Jp next true after
        | none => replacement :: iso2022Jp shift false (c :: d :: after)
    else if shift = .pairs && JisShift.isPairByte b then
      if c == escape then replacement :: iso2022Jp shift false (c :: rest)
      else (JisShift.pair? b c).getD replacement :: iso2022Jp shift false rest
    else (shift.single? b).getD replacement :: iso2022Jp shift false (c :: rest)
termination_by bytes => bytes.length
decreasing_by all_goals (simp only [List.length_cons, List.length_nil]; omega)

end Tollbooth.Text.Decoding
