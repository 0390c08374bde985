import Mathlib.Data.List.TakeWhile
import Tollbooth.Json.Grammar
/-!
# Tokens in front of other text

A token is found again when other text comes after it, provided that a number is not followed by
what would go on with it.

Words and strings end by themselves.  Blanks go on as long as there are any, and a number as long as
what follows can belong to it; so of these two it has to be known what comes next.  A number could
go on with a digit, a point or the letter of an exponent, and the text behind a value within JSON
never begins with one of these.

* `splitBlanks_append` — blanks end at what is none.
* `scanWord_append` — a word is found.
* `scanNumber_append` — a number is found if what follows does not go on with it.
-/

set_option autoImplicit false

namespace Tollbooth.Json

/-! ## Runs of bytes

What is taken from the front while a condition holds stays the same if it fails on what is added. -/

section Runs

variable {p : UInt8 → Bool} {more : Bytes}

theorem takeWhile_append_of_head (h : ∀ b ∈ more.head?, p b = false) (s : Bytes) :
    (s ++ more).takeWhile p = s.takeWhile p := by
  induction s with
  | nil =>
    cases more with
    | nil => rfl
    | cons b more => exact List.takeWhile_cons_of_neg (by simp [h b rfl])
  | cons b s ih => rw [List.cons_append, List.takeWhile_cons, List.takeWhile_cons, ih]

theorem dropWhile_append_of_head (h : ∀ b ∈ more.head?, p b = false) (s : Bytes) :
    (s ++ more).dropWhile p = s.dropWhile p ++ more := by
  induction s with
  | nil =>
    cases more with
    | nil => rfl
    | cons b more => exact List.dropWhile_cons_of_neg (by simp [h b rfl])
  | cons b s ih =>
    rw [List.cons_append, List.dropWhile_cons, List.dropWhile_cons, ih]
    split <;> rfl

end Runs

/-! ## Blanks -/

/-- Blanks in front of something else are the blanks in front. -/
theorem splitBlanks_append {gap s : Bytes} (hgap : allBlank gap = true)
    (h : ∀ b ∈ s.head?, isBlank b = false) : splitBlanks (gap ++ s) = (gap, s) := by
  have hall : ∀ b ∈ gap, isBlank b = true := List.all_eq_true.1 hgap
  have htake : gap.takeWhile isBlank = gap := List.takeWhile_eq_self_iff.2 hall
  have hdrop : gap.dropWhile isBlank = [] := List.dropWhile_eq_nil_iff.2 hall
  rw [splitBlanks, takeWhile_append_of_head h, dropWhile_append_of_head h, htake, hdrop,
    List.nil_append]

theorem splitBlanks_cons {gap s : Bytes} {b : UInt8} (hgap : allBlank gap = true)
    (hb : isBlank b = false) : splitBlanks (gap ++ b :: s) = (gap, b :: s) :=
  splitBlanks_append hgap fun b' h => by cases h; exact hb

/-! ## Words -/

theorem scanWord_append (word rest : Bytes) : scanWord word (word ++ rest) = some rest := by
  induction word with
  | nil => rfl
  | cons w word ih => rw [List.cons_append, scanWord, if_pos (beq_self_eq_true w), ih]

/-! ## Numbers

The parts of a number are scanned in turn, and each may be followed by the next or by the rest of
the text.  The condition on the rest is passed down to them: it is no digit, no point and no letter
of an exponent. -/

/-- The byte goes on with a number that stands before it. -/
def goesOn (b : UInt8) : Bool := isDigit b || b == 0x2e || b == 0x65 || b == 0x45

/-- A number that stands before this text ends there. -/
def EndsNumber (s : Bytes) : Prop := ∀ b ∈ s.head?, goesOn b = false

theorem endsNumber_nil : EndsNumber [] := fun b h => by cases h

theorem endsNumber_cons {b : UInt8} {s : Bytes} (h : goesOn b = false) : EndsNumber (b :: s) :=
  fun b' h' => by cases h'; exact h

theorem endsNumber_of_allBlank {gap : Bytes} (hgap : allBlank gap = true) : EndsNumber gap := by
  intro b hb
  have hblank : isBlank b = true := List.all_eq_true.1 hgap b (List.mem_of_mem_head? hb)
  simp only [isBlank, Bool.or_eq_true, beq_iff_eq] at hblank
  rcases hblank with ((rfl | rfl) | rfl) | rfl <;> rfl

theorem endsNumber_gap {gap s : Bytes} {b : UInt8} (hgap : allBlank gap = true)
    (hb : goesOn b = false) : EndsNumber (gap ++ b :: s) := by
  cases gap with
  | nil => exact endsNumber_cons hb
  | cons c gap => exact endsNumber_cons (endsNumber_of_allBlank hgap c rfl)

theorem EndsNumber.not_digit {s : Bytes} (h : EndsNumber s) : ∀ b ∈ s.head?, isDigit b = false := by
  intro b hb
  have := h b hb
  simp only [goesOn, Bool.or_eq_false_iff] at this
  exact this.1.1.1

variable {s t part more : Bytes}

theorem scanDigits_append (hmore : EndsNumber more) (h : scanDigits s = some (part, t)) :
    scanDigits (s ++ more) = some (part, t ++ more) := by
  rw [scanDigits] at h ⊢
  rw [takeWhile_append_of_head hmore.not_digit, dropWhile_append_of_head hmore.not_digit]
  split at h
  · cases h
  · cases h
    rfl

theorem scanInteger_append (hmore : EndsNumber more) (h : scanInteger s = some (part, t)) :
    scanInteger (s ++ more) = some (part, t ++ more) := by
  rw [scanInteger] at h ⊢
  split at h
  · cases h
  · next hzero =>
    rw [scanDigits_append hmore h]
    split
    · next heq =>
      cases heq
      exact (hzero _ _ _ h).elim
    · rfl

theorem scanFraction_append (hmore : EndsNumber more) (h : scanFraction s = some (part, t)) :
    scanFraction (s ++ more) = some (part, t ++ more) := by
  cases s with
  | nil =>
    cases h
    cases more with
    | nil => rfl
    | cons b more =>
      have hb := hmore b rfl
      simp only [goesOn, Bool.or_eq_false_iff, beq_eq_false_iff_ne] at hb
      rw [List.nil_append, scanFraction]
      rintro s heq
      cases heq
      exact hb.1.1.2 rfl
  | cons b s =>
    by_cases hb : b = 0x2e
    · subst hb
      obtain ⟨⟨digits, rest⟩, hdigits, heq⟩ := Option.map_eq_some_iff.1 h
      cases heq
      rw [List.cons_append, scanFraction, scanDigits_append hmore hdigits]
      rfl
    · have hnone : ∀ s', b :: s = 0x2e :: s' → False := fun s' heq => hb (by cases heq; rfl)
      rw [scanFraction.eq_2 _ hnone] at h
      cases h
      rw [List.cons_append, scanFraction]
      rintro s' heq
      cases heq
      exact hb rfl

theorem scanExponent_bare {e : UInt8} (he : (e == 0x65 || e == 0x45) = false) (s : Bytes) :
    scanExponent (e :: s) = some ([], e :: s) := by
  rw [scanExponent.eq_def]
  exact if_neg (by simp [he])

theorem scanExponent_signed {e c : UInt8} (he : (e == 0x65 || e == 0x45) = true)
    (hc : (c == 0x2b || c == 0x2d) = true) (s : Bytes) :
    scanExponent (e :: c :: s) =
      (scanDigits s).map fun (digits, rest) => (e :: c :: digits, rest) := by
  rw [scanExponent.eq_def]
  exact (if_pos he).trans (if_pos hc)

theorem scanExponent_unsigned {e c : UInt8} (he : (e == 0x65 || e == 0x45) = true)
    (hc : (c == 0x2b || c == 0x2d) = false) (s : Bytes) :
    scanExponent (e :: c :: s) =
      (scanDigits (c :: s)).map fun (digits, rest) => (e :: digits, rest) := by
  rw [scanExponent.eq_def]
  exact (if_pos he).trans (if_neg (by simp [hc]))

theorem scanExponent_append (hmore : EndsNumber more) (h : scanExponent s = some (part, t)) :
    scanExponent (s ++ more) = some (part, t ++ more) := by
  rcases s with _ | ⟨e, s⟩
  · cases h
    cases more with
    | nil => rfl
    | cons b more =>
      have hb := hmore b rfl
      simp only [goesOn, Bool.or_eq_false_iff] at hb
      exact scanExponent_bare (by simp [hb.1.2, hb.2]) more
  · cases he : (e == 0x65 || e == 0x45) with
    | false =>
      rw [scanExponent_bare he] at h
      cases h
      exact scanExponent_bare he (s ++ more)
    | true =>
      rcases s with _ | ⟨c, s⟩
      · rw [scanExponent.eq_def] at h
        cases (if_pos he).symm.trans h
      · cases hc : (c == 0x2b || c == 0x2d) with
        | true =>
          rw [scanExponent_signed he hc] at h
          obtain ⟨⟨digits, rest⟩, hdigits, heq⟩ := Option.map_eq_some_iff.1 h
          cases heq
          simp only [List.cons_append]
          rw [scanExponent_signed he hc, scanDigits_append hmore hdigits]
          rfl
        | false =>
          rw [scanExponent_unsigned he hc] at h
          obtain ⟨⟨digits, rest⟩, hdigits, heq⟩ := Option.map_eq_some_iff.1 h
          cases heq
          simp only [List.cons_append]
          rw [scanExponent_unsigned he hc, ← List.cons_append, scanDigits_append hmore hdigits]
          rfl

theorem scanMagnitude_append (hmore : EndsNumber more) (h : scanMagnitude s = some (part, t)) :
    scanMagnitude (s ++ more) = some (part, t ++ more) := by
  simp only [scanMagnitude, Option.bind_eq_bind, Option.bind_eq_some_iff, Prod.exists,
    Option.pure_def, Option.some.injEq] at h ⊢
  obtain ⟨whole, s₁, hwhole, fraction, s₂, hfraction, exponent, s₃, hexponent, heq⟩ := h
  cases heq
  exact ⟨whole, s₁ ++ more, scanInteger_append hmore hwhole, fraction, s₂ ++ more,
    scanFraction_append hmore hfraction, exponent, t ++ more,
    scanExponent_append hmore hexponent, rfl⟩

/-- **A number is found where it ends.** -/
theorem scanNumber_append (hmore : EndsNumber more) (h : scanNumber s = some (part, t)) :
    scanNumber (s ++ more) = some (part, t ++ more) := by
  cases s with
  | nil => cases h
  | cons b s =>
    by_cases hb : b = 0x2d
    · subst hb
      obtain ⟨⟨token, rest⟩, htoken, heq⟩ := Option.map_eq_some_iff.1 h
      cases heq
      rw [List.cons_append, scanNumber, scanMagnitude_append hmore htoken]
      rfl
    · have hnone : ∀ {s₁ s' : Bytes}, b :: s₁ = 0x2d :: s' → False :=
        fun heq => hb (by cases heq; rfl)
      rw [scanNumber.eq_2 _ fun s' => hnone] at h
      rw [List.cons_append, scanNumber.eq_2 _ fun s' => hnone, ← List.cons_append]
      exact scanMagnitude_append hmore h

/-- A number starts with a digit or a minus sign. -/
theorem head_of_scanNumber (h : scanNumber s = some (part, t)) :
    ∃ b s', s = b :: s' ∧ (isDigit b = true ∨ b = 0x2d) := by
  cases s with
  | nil => cases h
  | cons b s =>
    refine ⟨b, s, rfl, ?_⟩
    by_cases hb : b = 0x2d
    · exact .inr hb
    · rw [scanNumber.eq_2 _ fun s' heq => hb (by cases heq; rfl)] at h
      simp only [scanMagnitude, Option.bind_eq_bind, Option.bind_eq_some_iff] at h
      obtain ⟨⟨whole, s₁⟩, hwhole, -⟩ := h
      cases hdigit : isDigit b with
      | true => exact .inl rfl
      | false =>
        have hnone : scanDigits (b :: s) = none := by
          rw [scanDigits, List.takeWhile_cons_of_neg (by simp [hdigit])]
        rw [scanInteger, hnone] at hwhole
        cases hwhole

end Tollbooth.Json
