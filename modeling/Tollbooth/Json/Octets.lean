import Tollbooth.Chain.Address
import Tollbooth.Json.Reader
import Tollbooth.Json.Write
/-!
# Byte strings in documents

A document spells a byte string in hexadecimal, in any case and with or without a `0x`, or lists
its bytes as an array of numbers.  It is written in lower case with `0x`.
-/

set_option autoImplicit false

namespace Tollbooth.Json

open Tollbooth (Bytes)

/-- Reads a byte. -/
def readByte : Reader UInt8 := fun site d => (fun n => UInt8.ofNat n) <$> readNat 256 site d

/-- The digits of the exponent of a number token. -/
def exponentDigits (token : Bytes) : Bytes :=
  (token.dropWhile fun b => !(b == 0x65 || b == 0x45)).dropWhile fun b => !isDigit b

/-- A scalar is read to its end before it turns out to be no byte.  A number is not if more digits
follow the one by which its exponent is beyond all bounds, and neither is a string that goes wrong
before its quote. -/
def isReadThrough (site : Site) : Doc → Bool
  | .broken => false
  | .array _ => false
  | .object _ => false
  | .number token =>
    (site.number? token).isSome || (Number.exponentValue? (exponentDigits token).dropLast).isSome
  | d => overlook? (d.text ++ [0x5d]) == some []

/-- What follows the last byte that was asked for: nothing, or one value that is no byte, which is
read over.  A further byte makes the sequence too long.  In a text the value has to be a scalar that
is read to its end. -/
def readTail (site : Site) (closed torn : Bool) : List Doc → Except Fault Unit
  | [] => if closed || torn then .ok () else .error .malformed
  | d :: rest =>
    match readByte site d with
    | .ok _ => .error .wrongLength
    | .error _ =>
      if !(closed && rest.isEmpty) then .error site.surplus
      else
        match site with
        | .value => .ok ()
        | .text _ => if isReadThrough site d then .ok () else .error .malformed

/-- Reads a number of bytes one by one. -/
def readBytesExactly (site : Site) (closed torn : Bool) : Nat → List Doc → Except Fault Bytes
  | 0, ds => do
    readTail site closed torn ds
    return []
  | _ + 1, [] => .error (if closed then .wrongLength else .malformed)
  | n + 1, d :: ds => do
    let b ← readByte site d
    let rest ← readBytesExactly site closed torn n ds
    return b :: rest

/-- Reads a byte string of a fixed length. -/
def readOctets (n : Nat) : Reader (Octets n) := fun site d =>
  match d with
  | .string _ => do
    let s ← readString site d
    match Octets.parse? n s with
    | some v => return v
    | none => .error .illFormed
  | .array items => do
    let inner ← site.enter
    let b ← readBytesExactly inner items.closed items.isTorn n items.values
    match Octets.ofBytes? n b with
    | some v => return v
    | none => .error .wrongLength
  | d => .error (mistake site d)

/-- Reads a byte string of any length. -/
def readBytes : Reader Bytes := fun site d =>
  match d with
  | .string _ => do
    let s ← readString site d
    match Hex.decode? s with
    | some b => return b
    | none => .error .outOfRange
  | .array items => do
    let inner ← site.enter
    readItems (readByte inner) items.closed items.values
  | d => .error (mistake site d)

/-- Reads an address. -/
def readAddress : Reader Address := fun site d => Address.mk <$> readOctets 20 site d

namespace Doc

/-- The document of a byte string of a fixed length. -/
def ofOctets {n : Nat} (v : Octets n) : Doc := .ofString v.text

/-- The document of a byte string. -/
def ofBytes (b : Bytes) : Doc := .ofString ("0x" ++ Hex.encode b)

end Doc

end Tollbooth.Json
