import Tollbooth.Http.Message
import Tollbooth.Proofs.Text.Utf8
/-!
# Reading base64 undoes writing it

Three bytes are written as four characters, and what is left at the end is padded.  The proof
follows the writer: the groups are taken off the front one by one, and the last of them may be one
byte or two.  That each group is read back is arithmetic on the digits, of which there are 64.

* `decode?_encode` — a byte string is read back from its text.
* `ofString_encodeString` — the text of a byte string, as bytes.
* `isValue_encodeString` — a base64 text can be the value of a header.
-/

set_option autoImplicit false

namespace Tollbooth.Base64

/-! ## Characters -/

theorem value?_char {n : Nat} (h : n < 64) : value? (char n) = some n := by
  have : ∀ m : Fin 64, value? (char m.val) = some m.val := by decide
  exact this ⟨n, h⟩

theorem char_ne_pad {n : Nat} (h : n < 64) : char n ≠ 0x3d := by
  have : ∀ m : Fin 64, char m.val ≠ 0x3d := by decide
  exact this ⟨n, h⟩

/-- A visible character of ASCII. -/
def IsVisible (c : UInt8) : Prop := 0x20 < c.toNat ∧ c.toNat < 0x7f

instance (c : UInt8) : Decidable (IsVisible c) :=
  inferInstanceAs (Decidable (0x20 < c.toNat ∧ c.toNat < 0x7f))

theorem isVisible_char {n : Nat} (h : n < 64) : IsVisible (char n) := by
  have : ∀ m : Fin 64, IsVisible (char m.val) := by decide
  exact this ⟨n, h⟩

/-! ## Groups

A whole group is one number of 24 bits, cut in four on one side and in three on the other. -/

/-- A group of four characters without padding is three bytes. -/
theorem decode?_group {a b c d : UInt8} {rest : Bytes} (h : d ≠ 0x3d) :
    decode? (a :: b :: c :: d :: rest) =
      (value? a).bind fun x => (value? b).bind fun y => (value? c).bind fun z =>
        (value? d).bind fun w => (decode? rest).map fun bytes =>
          UInt8.ofNat ((((x * 64 + y) * 64 + z) * 64 + w) / 65536) ::
            UInt8.ofNat ((((x * 64 + y) * 64 + z) * 64 + w) / 256 % 256) ::
              UInt8.ofNat ((((x * 64 + y) * 64 + z) * 64 + w) % 256) :: bytes := by
  rw [decode?.eq_def]
  split
  · next heq => cases heq
  · next heq => cases heq; exact (h rfl).elim
  · next heq => cases heq; exact (h rfl).elim
  · next heq =>
    cases heq
    simp only [Option.map_eq_bind]
    rfl
  · next hno => exact (hno _ _ _ _ _ rfl).elim

/-- A group with one character of padding is two bytes. -/
theorem decode?_padded {a b c : UInt8} (h : c ≠ 0x3d) :
    decode? [a, b, c, 0x3d] =
      (value? a).bind fun x => (value? b).bind fun y => (value? c).bind fun z =>
        if z % 4 = 0 then
          some [UInt8.ofNat (((x * 64 + y) * 16 + z / 4) / 256),
            UInt8.ofNat (((x * 64 + y) * 16 + z / 4) % 256)]
        else none := by
  rw [decode?.eq_def]
  split
  · next heq => cases heq
  · next heq => cases heq; exact (h rfl).elim
  · next heq => cases heq; rfl
  · next hno heq => cases heq; exact (hno rfl rfl).elim
  · next hno => exact (hno _ _ _ _ _ rfl).elim

theorem decode?_encode_one (a : UInt8) : decode? (encode [a]) = some [a] := by
  have ha := a.toNat_lt
  have hval : a.toNat / 4 * 4 + a.toNat % 4 * 16 / 16 = a.toNat := by omega
  have hpad : a.toNat % 4 * 16 % 16 = 0 := by omega
  show ((value? _).bind fun x => (value? _).bind fun y =>
    if y % 16 = 0 then some [UInt8.ofNat (x * 4 + y / 16)] else none) = _
  rw [value?_char (by omega), value?_char (by omega), Option.bind_some, Option.bind_some,
    if_pos hpad, hval, UInt8.ofNat_toNat]

theorem decode?_encode_two (a b : UInt8) : decode? (encode [a, b]) = some [a, b] := by
  have ha := a.toNat_lt
  have hb := b.toNat_lt
  obtain ⟨n, hn⟩ : ∃ n, n = a.toNat * 256 + b.toNat := ⟨_, rfl⟩
  have hval : (n / 1024 * 64 + n / 16 % 64) * 16 + n % 16 * 4 / 4 = n := by omega
  have hpad : n % 16 * 4 % 4 = 0 := by omega
  have hfirst : n / 256 = a.toNat := by omega
  have hsecond : n % 256 = b.toNat := by omega
  rw [encode, ← hn, decode?_padded (char_ne_pad (by omega)), value?_char (by omega),
    value?_char (by omega), value?_char (by omega), Option.bind_some, Option.bind_some,
    Option.bind_some, if_pos hpad, hval, hfirst, hsecond, UInt8.ofNat_toNat, UInt8.ofNat_toNat]

/-- **Reading base64 undoes writing it.** -/
theorem decode?_encode (bytes : Bytes) : decode? (encode bytes) = some bytes := by
  induction bytes using encode.induct with
  | case1 => rfl
  | case2 a => exact decode?_encode_one a
  | case3 a b => exact decode?_encode_two a b
  | case4 a b c rest ih =>
    have ha := a.toNat_lt
    have hb := b.toNat_lt
    have hc := c.toNat_lt
    -- The group as one number: written in digits of base 64, read in digits of base 256.
    obtain ⟨n, hn⟩ : ∃ n, n = (a.toNat * 256 + b.toNat) * 256 + c.toNat := ⟨_, rfl⟩
    have hval : ((n / 262144 * 64 + n / 4096 % 64) * 64 + n / 64 % 64) * 64 + n % 64 = n := by omega
    have hfirst : n / 65536 = a.toNat := by omega
    have hsecond : n / 256 % 256 = b.toNat := by omega
    have hthird : n % 256 = c.toNat := by omega
    rw [encode, ← hn, decode?_group (char_ne_pad (by omega)), value?_char (by omega),
      value?_char (by omega), value?_char (by omega), value?_char (by omega), ih]
    simp only [Option.bind_some, Option.map_some]
    rw [hval, hfirst, hsecond, hthird, UInt8.ofNat_toNat, UInt8.ofNat_toNat,
      UInt8.ofNat_toNat]

/-! ## Texts

The characters are all of ASCII, so a base64 text has as many bytes as characters, and each of them
can stand in a header. -/

theorem isVisible_of_mem_encode {bytes : Bytes} {c : UInt8} (h : c ∈ encode bytes) :
    IsVisible c := by
  have hpad : IsVisible 0x3d := by decide
  induction bytes using encode.induct with
  | case1 => cases h
  | case2 a =>
    have ha := a.toNat_lt
    rw [encode] at h
    simp only [List.mem_cons, List.not_mem_nil, or_false] at h
    rcases h with rfl | rfl | rfl | rfl
    · exact isVisible_char (by omega)
    · exact isVisible_char (by omega)
    · exact hpad
    · exact hpad
  | case3 a b =>
    have ha := a.toNat_lt
    have hb := b.toNat_lt
    rw [encode] at h
    simp only [List.mem_cons, List.not_mem_nil, or_false] at h
    rcases h with rfl | rfl | rfl | rfl
    · exact isVisible_char (by omega)
    · exact isVisible_char (by omega)
    · exact isVisible_char (by omega)
    · exact hpad
  | case4 a b c' rest ih =>
    have ha := a.toNat_lt
    have hb := b.toNat_lt
    have hc := c'.toNat_lt
    rw [encode] at h
    simp only [List.mem_cons] at h
    rcases h with rfl | rfl | rfl | rfl | h
    · exact isVisible_char (by omega)
    · exact isVisible_char (by omega)
    · exact isVisible_char (by omega)
    · exact isVisible_char (by omega)
    · exact ih h

theorem ofString_encodeString (bytes : Bytes) :
    Bytes.ofString (encodeString bytes) = encode bytes := by
  refine Bytes.ofString_chars fun c hc => ?_
  have := (isVisible_of_mem_encode hc).2
  omega

theorem encodeString_injective {x y : Bytes} (h : encodeString x = encodeString y) : x = y := by
  have hencode : encode x = encode y := by
    rw [← ofString_encodeString, h, ofString_encodeString]
  have hdecode := congrArg decode? hencode
  rw [decode?_encode, decode?_encode] at hdecode
  exact Option.some.inj hdecode

/-- **A base64 text can be the value of a header.** -/
theorem isValue_encodeString (bytes : Bytes) :
    Http.isValue (Bytes.ofString (encodeString bytes)) = true := by
  rw [ofString_encodeString, Http.isValue, List.all_eq_true]
  intro c hc
  obtain ⟨hlow, hhigh⟩ := isVisible_of_mem_encode hc
  have hle : 0x20 ≤ c := UInt8.le_iff_toNat_le.2 (Nat.le_of_lt hlow)
  have hne : c ≠ 0x7f := by
    rintro rfl
    exact absurd hhigh (by decide)
  simp [Http.isValueByte, hle, hne]

end Tollbooth.Base64
