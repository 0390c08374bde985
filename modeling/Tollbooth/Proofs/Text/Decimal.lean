import Mathlib.Data.List.Induction
import Mathlib.Data.Nat.Digits.Defs
import Tollbooth.Text.Decimal
/-!
# What decimal texts denote

A number is spelled by its decimal digits, with any number of zeros in front of them.  Nothing else
is read as that number; where a sign may stand, it is one plus in front of all this.

There are two ways to say what a text of digits denotes.  One is by what would be written for the
number, with zeros in front; this is the one that follows from reading, and that is easy to work
with.  The other is by the places of the digits, as everybody knows it, and it does not mention
writing at all.  That they are the same makes it a matter of taste which of them a statement uses.

* `Spells` — the spellings of a number.
* `digits?_eq_some_iff`, `word64?_eq_some_iff` — just these are read.
* `Denotes`, `DenotesWord` — the same by the places of the digits.
-/

set_option autoImplicit false

namespace Tollbooth.Decimal

variable {s : String} {n : Nat}

/-- The text is the number in decimal, with any number of zeros in front. -/
def Spells (s : String) (n : Nat) : Prop :=
  ∃ zeros : Nat, s = .ofList (List.replicate zeros '0') ++ toString n

theorem spells_iff :
    Spells s n ↔ ∃ zeros, s.toList = List.replicate zeros '0' ++ Nat.toDigits 10 n := by
  refine exists_congr fun zeros => ?_
  rw [← String.toList_inj, String.toList_append, String.toList_ofList,
    Nat.toString_eq_ofList_toDigits, String.toList_ofList]

/-- A digit is what is written for its value. -/
theorem toDigits_of_isDigit {c : Char} (h : c.isDigit = true) :
    c.toNat - '0'.toNat < 10 ∧ Nat.toDigits 10 (c.toNat - '0'.toNat) = [c] := by
  obtain ⟨hlow, hhigh⟩ := Char.isDigit_iff_toNat.1 h
  have hzero : '0'.toNat = 48 := rfl
  have hnine : '9'.toNat = 57 := rfl
  have hten : ∀ k : Fin 10, Nat.toDigits 10 k.val = [Char.ofNat (48 + k.val)] := by decide
  have hvalue : c.toNat - '0'.toNat < 10 := by omega
  have hback : 48 + (c.toNat - '0'.toNat) = c.toNat := by omega
  refine ⟨hvalue, (hten ⟨_, hvalue⟩).trans ?_⟩
  show [Char.ofNat (48 + (c.toNat - '0'.toNat))] = [c]
  rw [hback, Char.ofNat_toNat]

/-- Digits are zeros and then what is written for the number that they denote. -/
theorem exists_eq_replicate_append {cs : List Char} (hne : cs ≠ [])
    (h : ∀ c ∈ cs, c.isDigit = true) :
    ∃ zeros, cs = List.replicate zeros '0' ++ Nat.toDigits 10 (Nat.ofDigitChars 10 cs 0) := by
  -- On the last digit: it is appended to what is written for the number in front of it.
  induction cs using List.reverseRecOn with
  | nil => exact absurd rfl hne
  | append_singleton cs c ih =>
    obtain ⟨hlt, hc⟩ := toDigits_of_isDigit (h c (by simp))
    have hvalue : Nat.ofDigitChars 10 (cs ++ [c]) 0 =
        10 * Nat.ofDigitChars 10 cs 0 + (c.toNat - '0'.toNat) := by
      rw [Nat.ofDigitChars_append, Nat.ofDigitChars_cons, Nat.ofDigitChars_nil]
    rcases eq_or_ne cs [] with rfl | hcs
    · exact ⟨0, by rw [hvalue, Nat.ofDigitChars_nil, Nat.mul_zero, Nat.zero_add, hc]; rfl⟩
    · obtain ⟨zeros, hzeros⟩ := ih hcs fun d hd => h d (List.mem_append_left _ hd)
      rcases Nat.eq_zero_or_pos (Nat.ofDigitChars 10 cs 0) with h0 | hpos
      · refine ⟨zeros + 1, ?_⟩
        rw [h0, Nat.toDigits_zero] at hzeros
        rw [hvalue, h0, Nat.mul_zero, Nat.zero_add, hc, List.replicate_succ', ← hzeros]
      · refine ⟨zeros, ?_⟩
        rw [hvalue, ← Nat.toDigits_append_toDigits (by decide) hpos hlt, hc, ← List.append_assoc,
          ← hzeros]

/-- What is read is not empty, all of it is digits, and it is read one digit after the other. -/
theorem digits?_eq_some_iff_value :
    digits? s = some n ↔ s.toList ≠ [] ∧ (∀ c ∈ s.toList, c.isDigit = true) ∧
      Nat.ofDigitChars 10 s.toList 0 = n := by
  rw [digits?]
  constructor
  · intro h
    split at h
    · next hdigits =>
      obtain ⟨hne, hall⟩ := Bool.and_eq_true_iff.1 hdigits
      cases h
      exact ⟨by simpa using hne, List.all_eq_true.1 hall, rfl⟩
    · cases h
  · rintro ⟨hne, hall, rfl⟩
    have hempty : s.toList.isEmpty = false := List.isEmpty_eq_false_iff.2 hne
    simp only [hempty, Bool.not_false, Bool.true_and, List.all_eq_true.2 hall, if_true]

/-- **What is read as a number is one of its spellings**, and each of them is read. -/
theorem digits?_eq_some_iff : digits? s = some n ↔ Spells s n := by
  rw [digits?_eq_some_iff_value, spells_iff]
  constructor
  · rintro ⟨hne, hall, rfl⟩
    exact exists_eq_replicate_append hne hall
  · rintro ⟨zeros, hzeros⟩
    rw [hzeros]
    refine ⟨?_, ?_, ?_⟩
    · exact List.append_ne_nil_of_right_ne_nil _ Nat.toDigits_ne_nil
    · intro c hc
      rcases List.mem_append.1 hc with hc | hc
      · rw [List.eq_of_mem_replicate hc]
        rfl
      · exact Nat.isDigit_of_mem_toDigits (by decide) (by decide) hc
    · rw [Nat.ofDigitChars_append, Nat.ofDigitChars_replicate_zero, Nat.mul_zero,
        Nat.ofDigitChars_ten_toDigits]

theorem Spells.ne_empty (h : Spells s n) : s ≠ "" := by
  rintro rfl
  obtain ⟨zeros, hzeros⟩ := spells_iff.1 h
  exact Nat.toDigits_ne_nil (List.append_eq_nil_iff.1 hzeros.symm).2

theorem Spells.ne_plus {cs : List Char} (h : Spells s n) : s.toList ≠ '+' :: cs := by
  intro hs
  obtain ⟨zeros, hzeros⟩ := spells_iff.1 h
  have hmem : '+' ∈ List.replicate zeros '0' ++ Nat.toDigits 10 n := by
    rw [← hzeros, hs]
    exact List.mem_cons_self
  rcases List.mem_append.1 hmem with hmem | hmem
  · exact absurd (List.eq_of_mem_replicate hmem) (by decide)
  · exact absurd (Nat.isDigit_of_mem_toDigits (by decide) (by decide) hmem) (by decide)

/-! ## Numbers by the places of their digits

Reading goes from the left and multiplies by ten at each digit.  The value by places is a sum that
counts from the right; `Nat.ofDigits` has it, and the two are compared by induction from the end. -/

/-- The text is not empty, all of it is digits, and these denote the number: each digit counts by
its place, the last one once. -/
structure Denotes (s : String) (n : Nat) : Prop where
  nonempty : s ≠ ""
  digits : ∀ c ∈ s.toList, c.isDigit = true
  value : Nat.ofDigits 10 (s.toList.reverse.map fun c => c.toNat - '0'.toNat) = n

/-- Reading digits one after the other gives each the value of its place. -/
theorem ofDigitChars_eq_ofDigits (cs : List Char) :
    Nat.ofDigitChars 10 cs 0 =
      Nat.ofDigits 10 (cs.reverse.map fun c => c.toNat - '0'.toNat) := by
  induction cs using List.reverseRecOn with
  | nil => rfl
  | append_singleton cs c ih =>
    rw [Nat.ofDigitChars_append, Nat.ofDigitChars_cons, Nat.ofDigitChars_nil, ih,
      List.reverse_append, List.reverse_singleton, List.singleton_append, List.map_cons,
      Nat.ofDigits_cons, Nat.add_comm]

theorem digits?_eq_some_iff_denotes : digits? s = some n ↔ Denotes s n := by
  rw [digits?_eq_some_iff_value, ofDigitChars_eq_ofDigits]
  constructor
  · rintro ⟨hne, hall, hvalue⟩
    exact ⟨String.toList_eq_nil_iff.not.1 hne, hall, hvalue⟩
  · rintro ⟨hne, hall, hvalue⟩
    exact ⟨String.toList_eq_nil_iff.not.2 hne, hall, hvalue⟩

/-- **The spellings of a number are the texts of digits that denote it.** -/
theorem spells_iff_denotes : Spells s n ↔ Denotes s n :=
  digits?_eq_some_iff.symm.trans digits?_eq_some_iff_denotes

/-! ## Numbers of 64 bits

A plus sign is allowed here, and only one. -/

/-- What is read as a number of 64 bits is one of its spellings, behind one plus sign at most. -/
theorem word64?_eq_some_iff :
    word64? s = some n ↔
      n < Word.bound64 ∧ ∃ sign digits, (sign = "" ∨ sign = "+") ∧ Spells digits n ∧
        s = sign ++ digits := by
  have hword (digits : String) :
      ((digits? digits).bind fun m => if m < Word.bound64 then some m else none) = some n ↔
        n < Word.bound64 ∧ Spells digits n := by
    rw [Option.bind_eq_some_iff, ← digits?_eq_some_iff]
    constructor
    · rintro ⟨m, hm, h⟩
      split at h
      · next hlt =>
        cases h
        exact ⟨hlt, hm⟩
      · cases h
    · rintro ⟨hlt, hm⟩
      exact ⟨n, hm, if_pos hlt⟩
  rw [word64?]
  split
  · next cs hs =>
    refine (hword _).trans (and_congr_right fun _ => ⟨fun h => ⟨"+", _, .inr rfl, h, ?_⟩, ?_⟩)
    · simp [← String.toList_inj, hs]
    · rintro ⟨sign, digits, rfl | rfl, hdigits, h⟩
      · rw [String.empty_append] at h
        exact absurd (h ▸ hs) hdigits.ne_plus
      · rw [h, String.toList_append] at hs
        obtain rfl : digits.toList = cs := (List.cons.inj hs).2
        rwa [String.ofList_toList]
  · next hs =>
    refine (hword _).trans (and_congr_right fun _ => ⟨fun h => ⟨"", s, .inl rfl, h, ?_⟩, ?_⟩)
    · rw [String.empty_append]
    · rintro ⟨sign, digits, rfl | rfl, hdigits, h⟩
      · rwa [h, String.empty_append]
      · refine absurd ?_ (hs digits.toList)
        rw [h, String.toList_append]
        rfl

theorem toString_injective {m n : Nat} (h : toString m = toString n) : m = n := by
  have hdigits := congrArg digits? h
  rw [digits?_toString, digits?_toString] at hdigits
  exact Option.some.inj hdigits

/-- The text denotes a number of 64 bits, behind one plus sign at most. -/
def DenotesWord (s : String) (n : Nat) : Prop :=
  n < Word.bound64 ∧ ∃ sign digits, (sign = "" ∨ sign = "+") ∧ Denotes digits n ∧
    s = sign ++ digits

theorem word64?_eq_some_iff_denotesWord : word64? s = some n ↔ DenotesWord s n := by
  rw [word64?_eq_some_iff]
  simp only [spells_iff_denotes, DenotesWord]

end Tollbooth.Decimal
