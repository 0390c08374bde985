import Tollbooth.Bytes
import Tollbooth.Number.Word
import Tollbooth.Text.Decimal
/-!
# Amounts

Amounts, and the times of an authorization, are numbers of 256 bits that documents spell in decimal
digits, with leading zeros allowed.
-/

set_option autoImplicit false

namespace Tollbooth

/-- A number of 256 bits. -/
structure Amount where
  toNat : Nat
  isWord : toNat < Word.bound256
deriving DecidableEq

namespace Amount

instance : Inhabited Amount := ⟨⟨0, by decide⟩⟩

/-- The number, if it fits 256 bits. -/
def ofNat? (n : Nat) : Option Amount := if h : n < Word.bound256 then some ⟨n, h⟩ else none

/-- The number that a text of digits denotes. -/
def parse? (s : String) : Option Amount := (Decimal.digits? s).bind ofNat?

/-- The number in decimal, without leading zeros. -/
def text (a : Amount) : String := toString a.toNat

/-- The number in 32 bytes. -/
def toWord (a : Amount) : Bytes := Bytes.ofNat 32 a.toNat

theorem parse?_text (a : Amount) : parse? a.text = some a := by
  simp only [parse?, text, Decimal.digits?_toString, Option.bind_some, ofNat?, a.isWord, dite_true]

end Amount

end Tollbooth
