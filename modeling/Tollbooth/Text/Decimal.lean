import Tollbooth.Number.Word
/-!
# Decimal numbers

Amounts, times and chain numbers are written in decimal.  `digits?` reads digits only;
`word64?` also takes one plus sign in front and stops at 64 bits, which is how counters and
chain numbers are read from text.  Leading zeros are allowed in both.

Main statements: `digits?_toString` and `word64?_toString`, reading undoes writing.
-/

set_option autoImplicit false

namespace Tollbooth.Decimal

/-- The number that a non-empty text of ASCII digits denotes. -/
def digits? (s : String) : Option Nat :=
  let cs := s.toList
  if !cs.isEmpty && cs.all Char.isDigit then some (Nat.ofDigitChars 10 cs 0) else none

/-- The 64-bit number that a text of digits denotes, after at most one plus sign. -/
def word64? (s : String) : Option Nat := do
  let n ← digits? <|
    match s.toList with
    | '+' :: cs => .ofList cs
    | _ => s
  if n < Word.bound64 then some n else none

theorem digits?_toString (n : Nat) : digits? (toString n) = some n := by
  have hne : (Nat.toDigits 10 n).isEmpty = false := by
    have := @Nat.length_toDigits_pos 10 n
    cases h : Nat.toDigits 10 n with
    | nil => simp [h] at this
    | cons => rfl
  have hall : (Nat.toDigits 10 n).all Char.isDigit = true := by
    rw [List.all_eq_true]
    intro c hc
    exact Nat.isDigit_of_mem_toDigits (by decide) (by decide) hc
  simp [digits?, hne, hall, Nat.ofDigitChars_ten_toDigits]

theorem word64?_toString {n : Nat} (h : n < Word.bound64) : word64? (toString n) = some n := by
  have hplus : ∀ cs, (toString n).toList ≠ '+' :: cs := by
    intro cs hcs
    have hmem : '+' ∈ Nat.toDigits 10 n := by
      have : (Nat.toDigits 10 n) = '+' :: cs := by simpa using hcs
      simp [this]
    have := Nat.isDigit_of_mem_toDigits (b := 10) (by decide) (by decide) hmem
    simp [Char.isDigit] at this
  unfold word64?
  split
  · rename_i cs hcs
    exact absurd hcs (hplus cs)
  · rw [digits?_toString]
    exact if_pos h

end Tollbooth.Decimal
