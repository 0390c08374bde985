import Tollbooth.Text.CodePoints
/-!
# Sets of characters by number

Encodings with several bytes for a character number the characters of a large set, and the bytes
spell the number.  Such a set is written as a text: `4b:` says that the characters behind it have
the numbers from 0x4b on, and a point keeps a number free.  Characters that cannot be seen, and
those whose meaning is private, are listed by their code points in a text of their own.
-/

set_option autoImplicit false

namespace Tollbooth.Text.Decoding

/-- Characters by number. -/
structure Index where
  /-- A point stands where there is none. -/
  chars : Array Char
  /-- Characters that are listed by their code points. -/
  others : CodePoints

namespace Index

/-- The characters with a text read on by one character; `number` is what the digits spelled so
far. -/
def push (chars : Array Char) (number : Nat) (c : Char) : Array Char × Nat :=
  if c == ' ' || c == '\n' then (chars, number)
  else if c == ':' then (chars ++ Array.replicate (number - chars.size) '.', 0)
  else
    match Hex.value? c with
    | some v => (chars, 16 * number + v)
    | none => (chars.push c, number)

/-- The set that two texts spell. -/
def ofText (chars others : String) : Index :=
  ⟨(chars.foldl (fun (chars, number) c => push chars number c) (#[], 0)).1, .ofText others⟩

/-- The character of a number. -/
def char? (index : Index) (n : Nat) : Option Char :=
  match (index.others.targets? n).bind List.head? with
  | some point => some (Char.ofNat point)
  | none => index.chars[n]?.filter (· != '.')

end Index

end Tollbooth.Text.Decoding
