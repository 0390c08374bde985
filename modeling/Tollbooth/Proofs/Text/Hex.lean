import Tollbooth.Text.Hex
/-!
# What hexadecimal texts spell

The mark in front and the case of letters make no difference to what is read, and nothing else can
be different: in lower case, the digits of a byte string are those that are written for it.

Reading takes digits in pairs and asks for their values, so only the values matter.  A character has
a value just if it has one in lower case, and then the same; and what is written is in lower case
already.  So to put a text in lower case is a normal form, and a byte string is read from those
texts whose normal form is what is written for it.

* `decodeChars?_congr` — only the values of digits count.
* `Spells` — the spellings of a byte string.
* `decode?_eq_some_iff` — just these are read.
-/

set_option autoImplicit false

namespace Tollbooth.Hex

/-! ## Digits

Only characters of ASCII have values, so that putting them in lower case is no matter of any other
alphabet. -/

theorem mem_encodeChars {c : Char} {b : Bytes} (h : c ∈ encodeChars b) :
    ∃ n, n < 16 ∧ c = digit n := by
  induction b with
  | nil => cases h
  | cons x bs ih =>
    have hx := x.toNat_lt
    rw [encodeChars] at h
    rcases List.mem_cons.1 h with rfl | h
    · exact ⟨_, by omega, rfl⟩
    · rcases List.mem_cons.1 h with rfl | h
      · exact ⟨_, by omega, rfl⟩
      · exact ih h

@[simp] theorem length_encodeChars (b : Bytes) : (encodeChars b).length = 2 * b.length := by
  induction b with
  | nil => rfl
  | cons x bs ih =>
    rw [encodeChars, List.length_cons, List.length_cons, ih, List.length_cons]
    omega

theorem value?_toUpper {c : Char} {b : Bytes} (h : c ∈ encodeChars b) :
    value? c.toUpper = value? c := by
  obtain ⟨n, hn, rfl⟩ := mem_encodeChars h
  have : ∀ m : Fin 16, value? (digit m.val).toUpper = value? (digit m.val) := by decide
  exact this ⟨n, hn⟩

/-- Only ASCII characters are digits. -/
theorem toNat_lt_of_value? {c : Char} {n : Nat} (h : value? c = some n) : c.toNat < 128 := by
  have hbound (d : Char) (hd : d.toNat < 128) (hcd : c ≤ d) : c.toNat < 128 :=
    Nat.lt_of_le_of_lt hcd hd
  rw [value?] at h
  split at h
  · next hc => exact hbound _ (by decide) hc.2
  · split at h
    · next hc => exact hbound _ (by decide) hc.2
    · split at h
      · next hc => exact hbound _ (by decide) hc.2
      · cases h

theorem value?_lt {c : Char} {n : Nat} (h : value? c = some n) : n < 16 := by
  have hascii : ∀ k : Fin 128, ∀ m ∈ value? (Char.ofNat k.val), m < 16 := by decide +kernel
  have := hascii ⟨c.toNat, toNat_lt_of_value? h⟩ n
  rw [Char.ofNat_toNat] at this
  exact this h

theorem toNat_lt_of_toLower {c : Char} {n : Nat} (hn : n < 16) (h : c.toLower = digit n) :
    c.toNat < 128 := by
  have hdigit : ∀ k : Fin 16, (digit k.val).toNat < 128 := by decide
  have hlower : c.toNat ≤ c.toLower.toNat := by
    by_cases hc : 'A'.val ≤ c.val ∧ c.val ≤ 'Z'.val
    · have hlow : c.toLower.val = c.val + 32 := congrArg Char.val (dif_pos hc)
      have hbound := UInt32.le_iff_toNat_le.1 hc.2
      have hZ : ('Z'.val).toNat = 90 := rfl
      have h32 : (32 : UInt32).toNat = 32 := rfl
      rw [Char.toNat, Char.toNat, hlow, UInt32.toNat_add]
      omega
    · have hsame : c.toLower = c := dif_neg hc
      exact Nat.le_of_eq (congrArg Char.toNat hsame).symm
  have := hdigit ⟨n, hn⟩
  rw [← h] at this
  omega

/-- A character has the value of the digit that it is in lower case. -/
theorem value?_eq_some_iff {c : Char} {n : Nat} :
    value? c = some n ↔ n < 16 ∧ c.toLower = digit n := by
  have hascii : ∀ k : Fin 128, ∀ m : Fin 16, value? (Char.ofNat k.val) = some m.val ↔
      (Char.ofNat k.val).toLower = digit m.val := by
    decide +kernel
  have hvalue (hc : c.toNat < 128) (hn : n < 16) : value? c = some n ↔ c.toLower = digit n := by
    have := hascii ⟨c.toNat, hc⟩ ⟨n, hn⟩
    rwa [Char.ofNat_toNat] at this
  constructor
  · intro h
    exact ⟨value?_lt h, (hvalue (toNat_lt_of_value? h) (value?_lt h)).1 h⟩
  · rintro ⟨hn, h⟩
    exact (hvalue (toNat_lt_of_toLower hn h) hn).2 h

/-- Only the values of digits count. -/
theorem decodeChars?_congr {cs ds : List Char} (h : cs.map value? = ds.map value?) :
    decodeChars? cs = decodeChars? ds := by
  induction cs using decodeChars?.induct generalizing ds with
  | case1 => rw [List.map_eq_nil_iff.1 h.symm]
  | case2 c =>
    obtain ⟨d, ds, rfl, -, hds⟩ := List.map_eq_cons_iff.1 h.symm
    rw [List.map_eq_nil_iff.1 hds]
    rfl
  | case3 hi lo cs ih =>
    obtain ⟨hi', ds, rfl, hhi, hds⟩ := List.map_eq_cons_iff.1 h.symm
    obtain ⟨lo', ds, rfl, hlo, hds⟩ := List.map_eq_cons_iff.1 hds
    rw [decodeChars?, decodeChars?, hhi, hlo, ih hds.symm]

/-- Digits spell a byte string if, in lower case, they are those that are written for it. -/
theorem decodeChars?_eq_some_iff {cs : List Char} {b : Bytes} :
    decodeChars? cs = some b ↔ cs.map Char.toLower = encodeChars b := by
  induction cs using decodeChars?.induct generalizing b with
  | case1 =>
    cases b with
    | nil => exact iff_of_true rfl rfl
    | cons x bs => exact iff_of_false (fun h => nomatch h) (fun h => nomatch h)
  | case2 c =>
    refine iff_of_false (fun h => nomatch h) fun h => ?_
    have := congrArg List.length h
    rw [length_encodeChars] at this
    simp only [List.length_map, List.length_cons, List.length_nil] at this
    omega
  | case3 hi lo cs ih =>
    constructor
    · intro h
      simp only [decodeChars?, Option.bind_eq_bind, Option.bind_eq_some_iff, Option.pure_def,
        Option.some.injEq] at h
      obtain ⟨m, hm, l, hl, bs, hbs, rfl⟩ := h
      obtain ⟨hm16, hm⟩ := value?_eq_some_iff.1 hm
      obtain ⟨hl16, hl⟩ := value?_eq_some_iff.1 hl
      have hbyte : (UInt8.ofNat (16 * m + l)).toNat = 16 * m + l := by
        rw [UInt8.toNat_ofNat']
        omega
      have hdiv : (16 * m + l) / 16 = m := by omega
      have hmod : (16 * m + l) % 16 = l := by omega
      rw [encodeChars, hbyte, hdiv, hmod, List.map_cons, List.map_cons, hm, hl, ih.1 hbs]
    · intro h
      cases b with
      | nil => cases h
      | cons x bs =>
        have hx := x.toNat_lt
        rw [encodeChars, List.map_cons, List.map_cons, List.cons.injEq, List.cons.injEq] at h
        obtain ⟨hhi, hlo, hcs⟩ := h
        have hbyte : UInt8.ofNat (16 * (x.toNat / 16) + x.toNat % 16) = x := by
          rw [Nat.div_add_mod]
          exact UInt8.ofNat_toNat
        rw [decodeChars?, value?_eq_some_iff.2 ⟨by omega, hhi⟩,
          value?_eq_some_iff.2 ⟨by omega, hlo⟩, ih.2 hcs]
        simp only [Option.bind_eq_bind, Option.bind_some, Option.pure_def, hbyte]

/-! ## The mark

The mark is passed over if it is there.  No digit is an x, so a text of digits never seems to have
one. -/

/-- The mark in front is passed over. -/
theorem decode?_marked (cs : List Char) : decode? ("0x" ++ .ofList cs) = decodeChars? cs := by
  have hmark : "0x".toList = ['0', 'x'] := rfl
  rw [decode?, String.toList_append, hmark, String.toList_ofList]
  rfl

/-- The text is two digits for each byte, in any case, after an optional `0x` or `0X`. -/
def Spells (s : String) (b : Bytes) : Prop :=
  ∃ mark digits, (mark = "" ∨ mark = "0x" ∨ mark = "0X") ∧ s = mark ++ .ofList digits ∧
    digits.map Char.toLower = encodeChars b

theorem dropMark_of_digits {cs : List Char} {b : Bytes} (h : cs.map Char.toLower = encodeChars b) :
    dropMark cs = cs := by
  have hx (digits : List Char) (hmem : 'x' ∈ digits.map Char.toLower)
      (hdigits : digits.map Char.toLower = encodeChars b) : False := by
    obtain ⟨n, hn, hxn⟩ := mem_encodeChars (hdigits ▸ hmem)
    have : ∀ k : Fin 16, 'x' ≠ digit k.val := by decide
    exact this ⟨n, hn⟩ hxn
  rw [dropMark.eq_def]
  split
  · exact (hx _ (List.mem_map.2 ⟨'x', by simp, rfl⟩) h).elim
  · exact (hx _ (List.mem_map.2 ⟨'X', by simp, rfl⟩) h).elim
  · rfl

theorem dropMark_eq (cs : List Char) :
    ∃ mark, (mark = "" ∨ mark = "0x" ∨ mark = "0X") ∧ cs = mark.toList ++ dropMark cs := by
  rw [dropMark.eq_def]
  split
  · exact ⟨"0x", .inr (.inl rfl), rfl⟩
  · exact ⟨"0X", .inr (.inr rfl), rfl⟩
  · exact ⟨"", .inl rfl, rfl⟩

/-- **What is read as a byte string is one of its spellings**, and each of them is read. -/
theorem decode?_eq_some_iff {s : String} {b : Bytes} : decode? s = some b ↔ Spells s b := by
  rw [decode?, decodeChars?_eq_some_iff]
  constructor
  · intro h
    obtain ⟨mark, hmark, hs⟩ := dropMark_eq s.toList
    refine ⟨mark, _, hmark, ?_, h⟩
    rw [← String.toList_inj, String.toList_append, String.toList_ofList, ← hs]
  · rintro ⟨mark, digits, rfl | rfl | rfl, rfl, h⟩
    · rwa [String.empty_append, String.toList_ofList, dropMark_of_digits h]
    · rw [String.toList_append, String.toList_ofList, String.toList_ofList]
      exact h
    · rw [String.toList_append, String.toList_ofList, String.toList_ofList]
      exact h

end Tollbooth.Hex
