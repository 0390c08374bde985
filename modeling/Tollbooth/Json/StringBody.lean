import Tollbooth.Bytes
/-!
# The inside of a JSON string

`unescape?` gives the text that a string body stands for.  It refuses surrogates that are not
paired and bytes that are not UTF-8; a body that is only skipped or kept verbatim is not put
through it.  `escape` is the canonical body of a text: quotes, backslashes and controls are
escaped and nothing else is.
-/

set_option autoImplicit false

namespace Tollbooth.Json

open Tollbooth (Bytes)

/-- The value of a hexadecimal digit, zero for any other byte. -/
def hexDigitValue (b : UInt8) : Nat :=
  if 0x30 ≤ b ∧ b ≤ 0x39 then b.toNat - 0x30
  else if 0x61 ≤ b ∧ b ≤ 0x66 then b.toNat - 0x57
  else if 0x41 ≤ b ∧ b ≤ 0x46 then b.toNat - 0x37
  else 0

/-- The number that four hexadecimal digits spell. -/
def codeUnit (a b c d : UInt8) : Nat :=
  ((hexDigitValue a * 16 + hexDigitValue b) * 16 + hexDigitValue c) * 16 + hexDigitValue d

/-- The byte that a short escape stands for. -/
def shortEscape (e : UInt8) : Option UInt8 :=
  if e = 0x22 then some 0x22
  else if e = 0x5c then some 0x5c
  else if e = 0x2f then some 0x2f
  else if e = 0x62 then some 0x08
  else if e = 0x66 then some 0x0c
  else if e = 0x6e then some 0x0a
  else if e = 0x72 then some 0x0d
  else if e = 0x74 then some 0x09
  else none

/-- The bytes that a string body stands for: escapes are replaced by what they name, and a pair of
surrogates by the one character they name together. -/
def unescapeBytes? : Bytes → Option Bytes
  | [] => some []
  | 0x5c :: 0x75 :: a :: b :: c :: d :: rest =>
    let unit := codeUnit a b c d
    if unit < 0xd800 ∨ 0xe000 ≤ unit then
      (unescapeBytes? rest).map (String.utf8EncodeChar (Char.ofNat unit) ++ ·)
    else if 0xdc00 ≤ unit then none
    else
      match rest with
      | 0x5c :: 0x75 :: a' :: b' :: c' :: d' :: rest' =>
        let low := codeUnit a' b' c' d'
        if 0xdc00 ≤ low ∧ low < 0xe000 then
          let code := 0x10000 + (unit - 0xd800) * 0x400 + (low - 0xdc00)
          (unescapeBytes? rest').map (String.utf8EncodeChar (Char.ofNat code) ++ ·)
        else none
      | _ => none
  | 0x5c :: e :: rest =>
    match shortEscape e with
    | some b => (unescapeBytes? rest).map (b :: ·)
    | none => none
  | c :: rest => (unescapeBytes? rest).map (c :: ·)

/-- The text that a string body stands for. -/
def unescape? (body : Bytes) : Option String := (unescapeBytes? body).bind Bytes.toString?

/-- The hexadecimal digit of a value below sixteen. -/
def hexDigit (n : Nat) : UInt8 := if n < 10 then UInt8.ofNat (0x30 + n) else UInt8.ofNat (0x57 + n)

/-- How one character is written inside a string. -/
def escapeChar (c : Char) : Bytes :=
  if c = '"' then [0x5c, 0x22]
  else if c = '\\' then [0x5c, 0x5c]
  else if c = '\x08' then [0x5c, 0x62]
  else if c = '\x0c' then [0x5c, 0x66]
  else if c = '\n' then [0x5c, 0x6e]
  else if c = '\r' then [0x5c, 0x72]
  else if c = '\t' then [0x5c, 0x74]
  else if c.toNat < 0x20 then
    [0x5c, 0x75, 0x30, 0x30, hexDigit (c.toNat / 16), hexDigit (c.toNat % 16)]
  else String.utf8EncodeChar c

/-- The canonical string body of a text. -/
def escape (s : String) : Bytes := s.toList.flatMap escapeChar

end Tollbooth.Json
