import Tollbooth.Bytes
/-!
# Base64

The standard alphabet with canonical padding: three bytes are four characters, and a last group of
one or two bytes is padded to four characters with `=`.  Reading is strict: no blanks, the padding
has to be there, and the bits that the padding stands for have to be zero, so that each byte string
has exactly one text.  Texts are ASCII and handled as bytes.
-/

set_option autoImplicit false

namespace Tollbooth.Base64

open Tollbooth (Bytes)

/-- The character of a six-bit value. -/
def char (n : Nat) : UInt8 :=
  if n < 26 then UInt8.ofNat (0x41 + n)
  else if n < 52 then UInt8.ofNat (0x61 + (n - 26))
  else if n < 62 then UInt8.ofNat (0x30 + (n - 52))
  else if n = 62 then 0x2b
  else 0x2f

/-- The six-bit value of a character of the alphabet. -/
def value? (c : UInt8) : Option Nat :=
  if 0x41 ≤ c ∧ c ≤ 0x5a then some (c.toNat - 0x41)
  else if 0x61 ≤ c ∧ c ≤ 0x7a then some (c.toNat - 0x61 + 26)
  else if 0x30 ≤ c ∧ c ≤ 0x39 then some (c.toNat - 0x30 + 52)
  else if c = 0x2b then some 62
  else if c = 0x2f then some 63
  else none

/-- The base64 text of a byte string. -/
def encode : Bytes → Bytes
  | [] => []
  | [a] =>
    let n := a.toNat
    [char (n / 4), char (n % 4 * 16), 0x3d, 0x3d]
  | [a, b] =>
    let n := a.toNat * 256 + b.toNat
    [char (n / 1024), char (n / 16 % 64), char (n % 16 * 4), 0x3d]
  | a :: b :: c :: rest =>
    let n := (a.toNat * 256 + b.toNat) * 256 + c.toNat
    char (n / 262144) :: char (n / 4096 % 64) :: char (n / 64 % 64) :: char (n % 64) :: encode rest

/-- The byte string of a base64 text. -/
def decode? : Bytes → Option Bytes
  | [] => some []
  | [a, b, 0x3d, 0x3d] => do
    let x ← value? a
    let y ← value? b
    if y % 16 = 0 then some [UInt8.ofNat (x * 4 + y / 16)] else none
  | [a, b, c, 0x3d] => do
    let x ← value? a
    let y ← value? b
    let z ← value? c
    if z % 4 = 0 then
      let n := (x * 64 + y) * 16 + z / 4
      some [UInt8.ofNat (n / 256), UInt8.ofNat (n % 256)]
    else none
  | a :: b :: c :: d :: rest => do
    let x ← value? a
    let y ← value? b
    let z ← value? c
    let w ← value? d
    let n := ((x * 64 + y) * 64 + z) * 64 + w
    let bytes ← decode? rest
    return UInt8.ofNat (n / 65536) :: UInt8.ofNat (n / 256 % 256) :: UInt8.ofNat (n % 256) :: bytes
  | _ => none

/-- The base64 text of a byte string, as text. -/
def encodeString (b : Bytes) : String :=
  .ofList ((encode b).map fun c => Char.ofNat c.toNat)

end Tollbooth.Base64
