import Tollbooth.Text.Hex
/-!
# Percent encoding

A character that may not stand in some part of a URL is written as its UTF-8 bytes, each as a
percent sign and two upper-case digits.  The sets say which ASCII characters are encoded in which
part; characters beyond ASCII and controls always are.
-/

set_option autoImplicit false

namespace Tollbooth.Http.Percent

open Tollbooth (Bytes)

/-- A set of characters to be encoded. -/
abbrev EncodeSet := Char → Bool

/-- Controls and characters beyond ASCII. -/
def controls : EncodeSet := fun c => c.toNat < 0x20 || 0x7e < c.toNat

/-- What is encoded in a fragment. -/
def fragment : EncodeSet := fun c => controls c || [' ', '"', '<', '>', '\x60'].contains c

/-- What is encoded in a query. -/
def query : EncodeSet := fun c => controls c || [' ', '"', '#', '<', '>'].contains c

/-- What is encoded in the query of a web address. -/
def webQuery : EncodeSet := fun c => query c || c == '\''

/-- What is encoded in a path. -/
def path : EncodeSet := fun c => fragment c || ['#', '?', '\x7b', '\x7d'].contains c

/-- What is encoded in a user name or password. -/
def userInfo : EncodeSet := fun c =>
  path c || ['/', ':', ';', '=', '@', '[', '\\', ']', '^', '|'].contains c

/-- A byte as a percent sign and two digits. -/
def encodeByte (b : UInt8) : List Char :=
  ['%', (Hex.digit (b.toNat / 16)).toUpper, (Hex.digit (b.toNat % 16)).toUpper]

/-- The characters with those of the set encoded. -/
def encode (set : EncodeSet) (cs : List Char) : List Char :=
  cs.flatMap fun c =>
    if set c then (Bytes.ofString (.singleton c)).flatMap encodeByte else [c]

/-- The bytes that characters spell when percent signs with two digits are taken as bytes. -/
def decode : List Char → Bytes
  | [] => []
  | '%' :: hi :: lo :: cs =>
    match Hex.value? hi, Hex.value? lo with
    | some h, some l => UInt8.ofNat (16 * h + l) :: decode cs
    | _, _ => 0x25 :: decode (hi :: lo :: cs)
  | c :: cs => Bytes.ofString (.singleton c) ++ decode cs

end Tollbooth.Http.Percent
