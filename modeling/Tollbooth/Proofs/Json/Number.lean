import Tollbooth.Proofs.Json.Token
/-!
# The grammar of numbers

`IsNumber` says which byte strings are numbers: an optional minus sign, an integer without zeros in
front, an optional fraction and an optional exponent.  Scanning finds numbers only, and takes all of
a text that is one.

The grammar is stated rule by rule, and scanning has a function for each rule, so both directions go
rule by rule as well: what a function finds is of the form of its rule, and what is of the form is
found by it.  The second needs to know what a part can begin with, since one that may be left out is
looked for by its first byte.

* `isNumber_of_scanNumber` — what is found is a number.
* `isNumberToken_iff` — a text is one number token just if it is a number.
-/

set_option autoImplicit false

namespace Tollbooth.Json

/-! ## The grammar -/

/-- Digits, and at least one. -/
structure IsDigits (b : Bytes) : Prop where
  nonempty : b ≠ []
  digits : ∀ x ∈ b, isDigit x = true

/-- The integer part of a number: a zero stands alone. -/
structure IsInteger (b : Bytes) : Prop extends IsDigits b where
  leading : ∀ x more, b ≠ 0x30 :: x :: more

/-- The fraction of a number. -/
inductive IsFraction : Bytes → Prop
  | absent : IsFraction []
  | present {digits : Bytes} (h : IsDigits digits) : IsFraction (0x2e :: digits)

/-- The exponent of a number. -/
inductive IsExponent : Bytes → Prop
  | absent : IsExponent []
  | unsigned {e : UInt8} {digits : Bytes} (he : (e == 0x65 || e == 0x45) = true)
      (h : IsDigits digits) : IsExponent (e :: digits)
  | signed {e sign : UInt8} {digits : Bytes} (he : (e == 0x65 || e == 0x45) = true)
      (hsign : (sign == 0x2b || sign == 0x2d) = true) (h : IsDigits digits) :
      IsExponent (e :: sign :: digits)

/-- A number without its sign. -/
inductive IsMagnitude : Bytes → Prop
  | mk {whole fraction exponent : Bytes} (hwhole : IsInteger whole)
      (hfraction : IsFraction fraction) (hexponent : IsExponent exponent) :
      IsMagnitude (whole ++ fraction ++ exponent)

/-- The bytes are a number. -/
inductive IsNumber : Bytes → Prop
  | positive {b : Bytes} (h : IsMagnitude b) : IsNumber b
  | negative {b : Bytes} (h : IsMagnitude b) : IsNumber (0x2d :: b)

/-! ## What is found

Each function splits what it finds off the front, so the same lemma says that nothing is lost. -/

variable {s part rest more : Bytes}

theorem isDigits_of_scanDigits (h : scanDigits s = some (part, rest)) :
    IsDigits part ∧ s = part ++ rest := by
  rw [scanDigits] at h
  split at h
  · cases h
  · next hne =>
    cases h
    refine ⟨⟨hne, fun x hx => List.mem_takeWhile_imp hx⟩, ?_⟩
    rw [List.takeWhile_append_dropWhile]

theorem isInteger_of_scanInteger (h : scanInteger s = some (part, rest)) :
    IsInteger part ∧ s = part ++ rest := by
  rw [scanInteger] at h
  split at h
  · cases h
  · next hzero =>
    obtain ⟨hdigits, hs⟩ := isDigits_of_scanDigits h
    refine ⟨⟨hdigits, fun x more hpart => ?_⟩, hs⟩
    exact hzero x more rest (hpart ▸ h)

theorem isFraction_of_scanFraction (h : scanFraction s = some (part, rest)) :
    IsFraction part ∧ s = part ++ rest := by
  rw [scanFraction.eq_def] at h
  split at h
  · obtain ⟨⟨digits, rest'⟩, hdigits, heq⟩ := Option.map_eq_some_iff.1 h
    cases heq
    obtain ⟨hd, rfl⟩ := isDigits_of_scanDigits hdigits
    exact ⟨.present hd, rfl⟩
  · cases h
    exact ⟨.absent, rfl⟩

theorem isExponent_of_scanExponent (h : scanExponent s = some (part, rest)) :
    IsExponent part ∧ s = part ++ rest := by
  rcases s with _ | ⟨e, s⟩
  · cases h
    exact ⟨.absent, rfl⟩
  cases he : (e == 0x65 || e == 0x45) with
  | false =>
    rw [scanExponent_bare he] at h
    cases h
    exact ⟨.absent, rfl⟩
  | true =>
    rcases s with _ | ⟨c, s⟩
    · rw [scanExponent.eq_def] at h
      cases (if_pos he).symm.trans h
    cases hc : (c == 0x2b || c == 0x2d) with
    | true =>
      rw [scanExponent_signed he hc] at h
      obtain ⟨⟨digits, rest'⟩, hdigits, heq⟩ := Option.map_eq_some_iff.1 h
      cases heq
      obtain ⟨hd, rfl⟩ := isDigits_of_scanDigits hdigits
      exact ⟨.signed he hc hd, rfl⟩
    | false =>
      rw [scanExponent_unsigned he hc] at h
      obtain ⟨⟨digits, rest'⟩, hdigits, heq⟩ := Option.map_eq_some_iff.1 h
      cases heq
      obtain ⟨hd, hs⟩ := isDigits_of_scanDigits hdigits
      exact ⟨.unsigned he hd, congrArg (e :: ·) hs⟩

theorem isMagnitude_of_scanMagnitude (h : scanMagnitude s = some (part, rest)) :
    IsMagnitude part ∧ s = part ++ rest := by
  simp only [scanMagnitude, Option.bind_eq_bind, Option.bind_eq_some_iff, Prod.exists,
    Option.pure_def, Option.some.injEq] at h
  obtain ⟨whole, s₁, hwhole, fraction, s₂, hfraction, exponent, s₃, hexponent, heq⟩ := h
  cases heq
  obtain ⟨hw, rfl⟩ := isInteger_of_scanInteger hwhole
  obtain ⟨hf, rfl⟩ := isFraction_of_scanFraction hfraction
  obtain ⟨he, rfl⟩ := isExponent_of_scanExponent hexponent
  exact ⟨.mk hw hf he, by simp only [List.append_assoc]⟩

/-- **What is found is a number**, and stands at the front. -/
theorem isNumber_of_scanNumber (h : scanNumber s = some (part, rest)) :
    IsNumber part ∧ s = part ++ rest := by
  rw [scanNumber.eq_def] at h
  split at h
  · obtain ⟨⟨token, rest'⟩, htoken, heq⟩ := Option.map_eq_some_iff.1 h
    cases heq
    obtain ⟨hm, rfl⟩ := isMagnitude_of_scanMagnitude htoken
    exact ⟨.negative hm, rfl⟩
  · obtain ⟨hm, hs⟩ := isMagnitude_of_scanMagnitude h
    exact ⟨.positive hm, hs⟩

/-! ## Numbers are found

A run of digits is found as a whole if what follows it does not begin with a digit.  Neither a
fraction nor an exponent does, so the part in front of them is found. -/

theorem IsDigits.scan (h : IsDigits part) (hmore : ∀ b ∈ more.head?, isDigit b = false) :
    scanDigits (part ++ more) = some (part, more) := by
  have htake : part.takeWhile isDigit = part := List.takeWhile_eq_self_iff.2 h.digits
  have hdrop : part.dropWhile isDigit = [] := List.dropWhile_eq_nil_iff.2 h.digits
  rw [scanDigits, takeWhile_append_of_head hmore, dropWhile_append_of_head hmore, htake, hdrop]
  split
  · exact absurd rfl h.nonempty
  · rfl

theorem IsInteger.scan (h : IsInteger part) (hmore : ∀ b ∈ more.head?, isDigit b = false) :
    scanInteger (part ++ more) = some (part, more) := by
  rw [scanInteger, h.toIsDigits.scan hmore]
  split
  · next heq => cases heq; exact absurd rfl (h.leading _ _)
  · rfl

theorem IsExponent.head (h : IsExponent part) :
    ∀ b ∈ part.head?, (b == 0x65 || b == 0x45) = true := by
  intro b hb
  cases h with
  | absent => cases hb
  | unsigned he | signed he => cases hb; exact he

theorem IsExponent.scan (h : IsExponent part) : scanExponent part = some (part, []) := by
  have hdigits : ∀ {digits}, IsDigits digits → scanDigits digits = some (digits, []) := by
    intro digits hd
    have hscan : scanDigits (digits ++ []) = some (digits, []) := hd.scan nofun
    rwa [List.append_nil] at hscan
  cases h with
  | absent => rfl
  | signed he hsign hd =>
    rw [scanExponent_signed he hsign, hdigits hd]
    rfl
  | @unsigned e digits he hd =>
    obtain ⟨x, digits, rfl⟩ := List.exists_cons_of_ne_nil hd.nonempty
    have hx : (x == 0x2b || x == 0x2d) = false := by
      have hdigit := hd.digits x List.mem_cons_self
      cases hsign : (x == 0x2b || x == 0x2d) with
      | false => rfl
      | true =>
        simp only [Bool.or_eq_true, beq_iff_eq] at hsign
        rcases hsign with rfl | rfl <;> exact absurd hdigit (by decide)
    rw [scanExponent_unsigned he hx, hdigits hd]
    rfl

theorem not_digit_of_exponent {b : UInt8} (h : (b == 0x65 || b == 0x45) = true) :
    isDigit b = false ∧ b ≠ 0x2e := by
  simp only [Bool.or_eq_true, beq_iff_eq] at h
  rcases h with rfl | rfl <;> exact ⟨rfl, by decide⟩

theorem IsFraction.scan {exponent : Bytes} (h : IsFraction part) (hexponent : IsExponent exponent) :
    scanFraction (part ++ exponent) = some (part, exponent) := by
  have hhead := fun b hb => not_digit_of_exponent (hexponent.head b hb)
  cases h with
  | absent =>
    rw [List.nil_append, scanFraction.eq_def]
    split
    · exact absurd rfl (hhead _ rfl).2
    · rfl
  | @present digits hd =>
    rw [List.cons_append, scanFraction, hd.scan fun b hb => (hhead b hb).1]
    rfl

theorem IsMagnitude.scan (h : IsMagnitude part) : scanMagnitude part = some (part, []) := by
  cases h with
  | @mk whole fraction exponent hwhole hfraction hexponent =>
    have hmore : ∀ b ∈ (fraction ++ exponent).head?, isDigit b = false := by
      intro b hb
      cases hfraction with
      | absent => exact (not_digit_of_exponent (hexponent.head b hb)).1
      | present => cases hb; rfl
    rw [List.append_assoc, scanMagnitude, hwhole.scan hmore]
    simp only [Option.bind_eq_bind, Option.bind_some, hfraction.scan hexponent, hexponent.scan]
    simp

theorem IsMagnitude.head (h : IsMagnitude part) :
    ∃ b rest, part = b :: rest ∧ isDigit b = true := by
  cases h with
  | mk hwhole =>
    obtain ⟨b, whole, rfl⟩ := List.exists_cons_of_ne_nil hwhole.nonempty
    exact ⟨b, _, rfl, hwhole.digits b List.mem_cons_self⟩

theorem IsNumber.scan (h : IsNumber part) : scanNumber part = some (part, []) := by
  cases h with
  | negative hm => rw [scanNumber, hm.scan]; rfl
  | positive hm =>
    obtain ⟨b, rest, rfl, hb⟩ := hm.head
    rw [scanNumber.eq_2 _ fun s' heq => ?_, hm.scan]
    cases heq
    exact absurd hb (by decide)

/-- **A text is one number token just if it is a number.** -/
theorem isNumberToken_iff {token : Bytes} : isNumberToken token = true ↔ IsNumber token := by
  rw [isNumberToken, beq_iff_eq]
  exact ⟨fun h => (isNumber_of_scanNumber h).1, IsNumber.scan⟩

end Tollbooth.Json
