/-!
# Byte strings

Texts travel as bytes: documents, header values, hash inputs and signatures are lists of bytes
here, so that statements about them are statements about lists.  The two directions between
bytes and text are `Bytes.ofString` and `Bytes.toString?`; the second refuses what is not UTF-8
and `Bytes.toString?_ofString` says that it undoes the first.
-/

set_option autoImplicit false

namespace Tollbooth

/-- A byte string. -/
abbrev Bytes := List UInt8

namespace Bytes

/-- The UTF-8 bytes of a text. -/
def ofString (s : String) : Bytes := s.toByteArray.data.toList

/-- The text that these bytes spell, if they are valid UTF-8. -/
def toString? (b : Bytes) : Option String := String.fromUTF8? ⟨b.toArray⟩

theorem toString?_ofString (s : String) : toString? (ofString s) = some s := by
  simp only [toString?, ofString, Array.toArray_toList, String.fromUTF8?]
  exact dif_pos s.isValidUTF8

theorem ofString_append (s t : String) : ofString (s ++ t) = ofString s ++ ofString t := by
  simp [ofString, String.toByteArray_append]

theorem ofString_injective {s t : String} (h : ofString s = ofString t) : s = t := by
  have := congrArg toString? h
  simpa [toString?_ofString] using this

/-! ## Numbers as bytes

Hashes are taken of numbers in a fixed number of bytes.  A number that does not fit loses its first
bytes, which never happens to one whose bound is in its type. -/

/-- The number that bytes denote, most significant first. -/
def toNat (b : Bytes) : Nat := b.foldl (fun acc x => acc * 256 + x.toNat) 0

/-- The last `width` bytes of a number, most significant first. -/
def ofNat : Nat → Nat → Bytes
  | 0, _ => []
  | width + 1, n => ofNat width (n / 256) ++ [UInt8.ofNat (n % 256)]

@[simp] theorem length_ofNat (width n : Nat) : (ofNat width n).length = width := by
  induction width generalizing n with
  | zero => rfl
  | succ w ih => simp [ofNat, ih]

theorem toNat_append_singleton (b : Bytes) (x : UInt8) :
    toNat (b ++ [x]) = toNat b * 256 + x.toNat := by
  rw [toNat, List.foldl_append]
  rfl

/-- What is left of a number that is written with so many bytes. -/
theorem toNat_ofNat (width n : Nat) : toNat (ofNat width n) = n % Nat.pow 256 width := by
  induction width generalizing n with
  | zero => exact (Nat.mod_one n).symm
  | succ w ih =>
    have hbyte : (UInt8.ofNat (n % 256)).toNat = n % 256 := by
      rw [UInt8.toNat_ofNat', Nat.mod_mod]
    have hpow : Nat.pow 256 (w + 1) = 256 * Nat.pow 256 w := Nat.mul_comm ..
    rw [ofNat, toNat_append_singleton, ih, hbyte, hpow, Nat.mod_mul]
    omega

/-- Numbers that fit are told apart by their bytes. -/
theorem ofNat_injective {width m n : Nat} (h : ofNat width m = ofNat width n)
    (hm : m < Nat.pow 256 width) (hn : n < Nat.pow 256 width) : m = n := by
  have := congrArg toNat h
  rwa [toNat_ofNat, toNat_ofNat, Nat.mod_eq_of_lt hm, Nat.mod_eq_of_lt hn] at this

end Bytes

end Tollbooth
