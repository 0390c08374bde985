import Tollbooth.Bytes
/-!
# The bytes of a text

A character of ASCII is one byte, and all bytes of any other character are outside of ASCII.  What
looks for a character of ASCII among bytes therefore never finds it inside another character.
Texts are in the order of their bytes.

Bytes are a text (`IsText`) if they are the bytes of one; texts put together are a text.

Byte strings that come from outside need not be texts, and most of what is read here is read as
bytes.  It is a text that matters in the end, though, and so it has to be known that what is cut
from a text at characters of ASCII is a text.  For this it is enough to tell the bytes of ASCII from
all others.  Only the order of texts needs more of the encoding.
-/

set_option autoImplicit false

namespace Tollbooth.Bytes

theorem ofString_eq_flatMap (s : String) : ofString s = s.toList.flatMap String.utf8EncodeChar := by
  rw [ofString, ← String.utf8Encode_toList, List.utf8Encode, List.toList_data_toByteArray]

theorem ofString_ofList (cs : List Char) :
    ofString (.ofList cs) = cs.flatMap String.utf8EncodeChar := by
  rw [ofString_eq_flatMap, String.toList_ofList]

/-- A character of ASCII is one byte. -/
theorem utf8EncodeChar_of_ascii {c : Char} (h : c.toNat < 0x80) :
    String.utf8EncodeChar c = [UInt8.ofNat c.toNat] :=
  if_pos (Nat.le_of_lt_succ h)

/-- Every byte of another character is outside of ASCII. -/
theorem not_ascii_of_mem_utf8EncodeChar {c : Char} {b : UInt8} (h : 0x80 ≤ c.toNat)
    (hb : b ∈ String.utf8EncodeChar c) : 0x80 ≤ b.toNat := by
  have hc : ¬ c.val.toNat ≤ 0x7f := Nat.not_le.2 h
  rw [String.utf8EncodeChar, if_neg hc] at hb
  split at hb
  · simp only [List.mem_cons, List.not_mem_nil, or_false] at hb
    rcases hb with rfl | rfl
    all_goals rw [UInt8.toNat_ofNat']; omega
  · split at hb
    · simp only [List.mem_cons, List.not_mem_nil, or_false] at hb
      rcases hb with rfl | rfl | rfl
      all_goals rw [UInt8.toNat_ofNat']; omega
    · simp only [List.mem_cons, List.not_mem_nil, or_false] at hb
      rcases hb with rfl | rfl | rfl | rfl
      all_goals rw [UInt8.toNat_ofNat']; omega

/-- A byte of ASCII among those of a character is all there is of it. -/
theorem utf8EncodeChar_of_mem {c : Char} {b : UInt8} (hb : b ∈ String.utf8EncodeChar c)
    (h : b.toNat < 0x80) : c.toNat = b.toNat := by
  by_cases hc : c.toNat < 0x80
  · rw [utf8EncodeChar_of_ascii hc, List.mem_singleton] at hb
    rw [hb, UInt8.toNat_ofNat']
    omega
  · have := not_ascii_of_mem_utf8EncodeChar (Nat.le_of_not_lt hc) hb
    omega

theorem toNat_ofNat_of_ascii {n : Nat} (h : n < 0x80) : (Char.ofNat n).toNat = n := by
  have : ∀ m : Fin 0x80, (Char.ofNat m.val).toNat = m.val := by decide
  exact this ⟨n, h⟩

/-- Bytes of ASCII taken as characters are the bytes of their text. -/
theorem ofString_chars {bytes : Bytes} (h : ∀ b ∈ bytes, b.toNat < 0x80) :
    ofString (.ofList (bytes.map fun b => Char.ofNat b.toNat)) = bytes := by
  rw [ofString_ofList]
  induction bytes with
  | nil => rfl
  | cons b bytes ih =>
    have hb : b.toNat < 0x80 := h b List.mem_cons_self
    have hchar : (Char.ofNat b.toNat).toNat = b.toNat := toNat_ofNat_of_ascii hb
    rw [List.map_cons, List.flatMap_cons, utf8EncodeChar_of_ascii (by omega), hchar,
      UInt8.ofNat_toNat, ih fun b' hb' => h b' (List.mem_cons_of_mem b hb')]
    rfl

/-! ## Order

The encoding was made so that this holds: a longer one begins with a greater byte, and among those
of one length the bytes are the digits of the number. -/

theorem ofNat_cons_lt_iff {m n : Nat} (hm : m < 256) (hn : n < 256) {x y : Bytes} :
    UInt8.ofNat m :: x < UInt8.ofNat n :: y ↔ m < n ∨ m = n ∧ x < y := by
  rw [List.cons_lt_cons_iff, UInt8.lt_iff_toNat_lt, ← UInt8.toNat_inj, UInt8.toNat_ofNat',
    UInt8.toNat_ofNat', Nat.mod_eq_of_lt hm, Nat.mod_eq_of_lt hn]

/-- The bytes of a greater character are greater, whatever comes behind. -/
theorem utf8EncodeChar_append_lt {a b : Char} (h : a < b) (x y : Bytes) :
    String.utf8EncodeChar a ++ x < String.utf8EncodeChar b ++ y := by
  have hlt : a.val.toNat < b.val.toNat := h
  have hb : b.val.toNat < 0x110000 := by
    obtain h | h := b.valid
    · omega
    · exact h.2
  rw [String.utf8EncodeChar, String.utf8EncodeChar]
  generalize a.val.toNat = v at *
  generalize b.val.toNat = w at *
  have hpart (n : Nat) : n % 64 + 128 < 256 := by omega
  -- The first byte tells how many there are.  Of as many bytes the first that differs decides.
  repeat' split
  all_goals
    simp (disch := first | omega | exact hpart _) only [List.cons_append, List.nil_append,
      ofNat_cons_lt_iff]
  all_goals try omega
  -- The parts of two characters of four bytes are compared one inside the other.
  have hsecond (n : Nat) : n / 4096 = n / 64 / 64 := by rw [Nat.div_div_eq_div_mul]
  have hfirst (n : Nat) : n / 262144 = n / 64 / 64 / 64 := by
    rw [Nat.div_div_eq_div_mul, Nat.div_div_eq_div_mul]
  rw [hsecond, hsecond, hfirst, hfirst]
  omega

/-- **The order of texts is that of their bytes.** -/
theorem ofString_lt_ofString {s t : String} (h : s < t) : ofString s < ofString t := by
  rw [ofString_eq_flatMap, ofString_eq_flatMap]
  have hchars : s.toList < t.toList := h
  generalize s.toList = cs at hchars
  generalize t.toList = ds at hchars
  induction cs generalizing ds with
  | nil =>
    cases ds with
    | nil => cases hchars
    | cons d ds =>
      obtain ⟨b, bytes, hbytes⟩ := List.exists_cons_of_ne_nil (@String.utf8EncodeChar_ne_nil d)
      rw [List.flatMap_cons, hbytes]
      exact List.nil_lt_cons _ _
  | cons c cs ih =>
    cases ds with
    | nil => cases hchars
    | cons d ds =>
      rw [List.flatMap_cons, List.flatMap_cons]
      obtain hcd | ⟨rfl, hrest⟩ := List.cons_lt_cons_iff.1 hchars
      · exact utf8EncodeChar_append_lt hcd _ _
      · exact List.append_left_lt (ih ds hrest)

/-! ## Bytes that are a text

A byte of ASCII in a text is a character, so the characters in front of it make up the bytes in
front of it. -/

/-- The bytes are those of a text. -/
def IsText (b : Bytes) : Prop := ∃ s, b = ofString s

theorem isText_ofString (s : String) : IsText (ofString s) := ⟨s, rfl⟩

theorem isText_nil : IsText [] := ⟨"", rfl⟩

theorem IsText.append {b more : Bytes} (h : IsText b) (hmore : IsText more) :
    IsText (b ++ more) := by
  obtain ⟨s, rfl⟩ := h
  obtain ⟨t, rfl⟩ := hmore
  exact ⟨s ++ t, (ofString_append s t).symm⟩

theorem isText_of_ascii {b : Bytes} (h : ∀ x ∈ b, x.toNat < 0x80) : IsText b :=
  ⟨_, (ofString_chars h).symm⟩

theorem isText_utf8EncodeChar (c : Char) : IsText (String.utf8EncodeChar c) :=
  ⟨.ofList [c], by rw [ofString_ofList, List.flatMap_singleton]⟩

/-- A text can be cut wherever a character of ASCII stands: what is before and what is behind it are
texts. -/
theorem IsText.cut {front back : Bytes} {b : UInt8} (h : IsText (front ++ b :: back))
    (hb : b.toNat < 0x80) : IsText front ∧ IsText back := by
  obtain ⟨s, hs⟩ := h
  rw [ofString_eq_flatMap] at hs
  generalize s.toList = cs at hs
  induction cs generalizing front with
  | nil => simp at hs
  | cons c cs ih =>
    rw [List.flatMap_cons] at hs
    obtain ⟨more, hc, hcs⟩ | ⟨more, rfl, hcs⟩ := List.append_eq_append_iff.1 hs
    · cases more with
      | nil =>
        rw [List.append_nil] at hc
        exact ⟨hc ▸ isText_utf8EncodeChar c, (@ih [] hcs).2⟩
      | cons b' more =>
        -- The byte is one of this character, so the character is all of what is before the rest.
        obtain ⟨rfl, rfl⟩ := List.cons.inj hcs
        have hmem : b ∈ String.utf8EncodeChar c := hc ▸ List.mem_append_right _ List.mem_cons_self
        have hascii := utf8EncodeChar_of_mem hmem hb
        rw [utf8EncodeChar_of_ascii (by omega)] at hc
        obtain ⟨rfl, hone⟩ | ⟨_, -, hnil⟩ := List.append_eq_cons_iff.1 hc.symm
        · cases hone
          exact ⟨isText_nil, ⟨.ofList cs, (ofString_ofList cs).symm⟩⟩
        · simp at hnil
    · obtain ⟨hmore, hback⟩ := ih hcs.symm
      exact ⟨(isText_utf8EncodeChar c).append hmore, hback⟩

/-- What is taken for a text is one. -/
theorem eq_ofString_of_toString? {b : Bytes} {s : String} (h : toString? b = some s) :
    b = ofString s := by
  rw [toString?, String.fromUTF8?] at h
  split at h
  · cases h
    rfl
  · cases h

end Tollbooth.Bytes
