import Tollbooth.Bytes
/-!
# Hexadecimal byte strings

Bytes are written with two lower-case digits each.  They are read in any case, with or without a
`0x` in front.  Main statement: `decode?_encode`, reading undoes writing.
-/

set_option autoImplicit false

namespace Tollbooth.Hex

open Tollbooth (Bytes)

/-- The lower-case digit of a value below sixteen. -/
def digit (n : Nat) : Char :=
  if n < 10 then Char.ofNat (0x30 + n) else Char.ofNat (0x57 + n)

/-- The value of a digit, in any case. -/
def value? (c : Char) : Option Nat :=
  if '0' ≤ c ∧ c ≤ '9' then some (c.toNat - 0x30)
  else if 'a' ≤ c ∧ c ≤ 'f' then some (c.toNat - 0x57)
  else if 'A' ≤ c ∧ c ≤ 'F' then some (c.toNat - 0x37)
  else none

/-- Two digits for each byte. -/
def encodeChars : Bytes → List Char
  | [] => []
  | b :: bs => digit (b.toNat / 16) :: digit (b.toNat % 16) :: encodeChars bs

/-- Two lower-case digits for each byte. -/
def encode (b : Bytes) : String := .ofList (encodeChars b)

/-- The bytes that pairs of digits spell; an odd digit or any other character spoils them. -/
def decodeChars? : List Char → Option Bytes
  | [] => some []
  | [_] => none
  | hi :: lo :: cs => do
    let h ← value? hi
    let l ← value? lo
    let rest ← decodeChars? cs
    return UInt8.ofNat (16 * h + l) :: rest

/-- The digits after an optional `0x` or `0X`. -/
def dropMark : List Char → List Char
  | '0' :: 'x' :: cs => cs
  | '0' :: 'X' :: cs => cs
  | cs => cs

/-- The bytes that a text spells, after an optional `0x`. -/
def decode? (s : String) : Option Bytes := decodeChars? (dropMark s.toList)

/-- The bytes that a text spells if there are exactly `n` of them. -/
def decodeExactly? (n : Nat) (s : String) : Option Bytes :=
  (decode? s).filter fun b => b.length == n

theorem value?_digit {n : Nat} (h : n < 16) : value? (digit n) = some n := by
  have : ∀ m : Fin 16, value? (digit m.val) = some m.val := by decide
  exact this ⟨n, h⟩

theorem decodeChars?_encodeChars (b : Bytes) : decodeChars? (encodeChars b) = some b := by
  induction b with
  | nil => rfl
  | cons x bs ih =>
    have hx := x.toNat_lt
    have hx' : UInt8.ofNat (16 * (x.toNat / 16) + x.toNat % 16) = x := by
      rw [Nat.div_add_mod]
      exact UInt8.ofNat_toNat
    rw [encodeChars, decodeChars?, value?_digit (by omega), value?_digit (by omega), ih]
    simp only [Option.bind_eq_bind, Option.bind_some, hx', Option.pure_def]

end Tollbooth.Hex
