import Tollbooth.Json.Grammar
import Tollbooth.Proofs.Text.Utf8
/-!
# The bodies of strings

`IsBody` says which byte strings may stand between two quotes, symbol by symbol.  Scanning finds
exactly these, and finds where they end whatever comes after the quote.

A body consists of symbols: a byte that stands for itself, a short escape, or a character by its
number.  Scanning goes from one symbol to the next, and stops at a quote.  So what it finds is
described by an inductive predicate with the same steps, and both directions are inductions on them.

The body that is written for a text is only one of many, and is never needed to be the only one.
What counts is that it is a body and that it stands for the text, and both are shown character by
character.

* `scanBody_iff`, `isStringBody_iff` — what scanning finds.
* `unescape?_escape` — a text is read back from its canonical body.
* `isBody_escape` — the canonical body of a text is one.
-/

set_option autoImplicit false

namespace Tollbooth.Json

/-! ## The grammar of bodies

A quote or a backslash never stands for itself, nor does a control character.  Bytes outside of
ASCII do, and whether they make characters is not asked here. -/

/-- The byte stands for itself in a string. -/
def IsPlain (c : UInt8) : Prop := c ≠ 0x22 ∧ c ≠ 0x5c ∧ ¬ c < 0x20

/-- The characters that name another one after a backslash. -/
def shortEscapes : Bytes := [0x22, 0x5c, 0x2f, 0x62, 0x66, 0x6e, 0x72, 0x74]

/-- The bytes may stand between two quotes. -/
inductive IsBody : Bytes → Prop
  | nil : IsBody []
  | plain {c : UInt8} {body : Bytes} (hc : IsPlain c) (h : IsBody body) : IsBody (c :: body)
  | short {e : UInt8} {body : Bytes} (he : e ∈ shortEscapes) (h : IsBody body) :
      IsBody (0x5c :: e :: body)
  | unicode {a b c d : UInt8} {body : Bytes}
      (hex : (isHexDigit a && isHexDigit b && isHexDigit c && isHexDigit d) = true)
      (h : IsBody body) : IsBody (0x5c :: 0x75 :: a :: b :: c :: d :: body)

theorem IsBody.append {body more : Bytes} (h : IsBody body) (hmore : IsBody more) :
    IsBody (body ++ more) := by
  induction h with
  | nil => exact hmore
  | plain hc _ ih => exact .plain hc ih
  | short he _ ih => exact .short he ih
  | unicode hex _ ih => exact .unicode hex ih

/-! ## Scanning

Inside a body no quote stands alone, so the first one that does ends it, whatever comes after. -/

theorem scanBody_plain {c : UInt8} (hc : IsPlain c) (s : Bytes) :
    scanBody (c :: s) = (scanBody s).map fun (body, rest) => (c :: body, rest) := by
  obtain ⟨hquote, hslash, hcontrol⟩ := hc
  -- Every pattern but the last starts with a quote or a backslash.
  rw [scanBody.eq_def]
  split
  · next heq => cases heq
  · next heq => cases heq; exact (hquote rfl).elim
  · next heq => cases heq; exact (hslash rfl).elim
  · next heq => cases heq; exact (hslash rfl).elim
  · next heq =>
    cases heq
    exact if_neg (by simp [hcontrol, hslash])

theorem scanBody_short {e : UInt8} (he : e ∈ shortEscapes) (s : Bytes) :
    scanBody (0x5c :: e :: s) = (scanBody s).map fun (body, rest) => (0x5c :: e :: body, rest) := by
  rw [scanBody.eq_def]
  split
  · next heq => cases heq
  · next heq => cases heq
  · next heq => cases heq; exact absurd he (by decide)
  · next heq => cases heq; exact if_pos he
  · next hshort heq => cases heq; exact (hshort e s rfl rfl).elim

theorem scanBody_unicode {a b c d : UInt8}
    (hex : (isHexDigit a && isHexDigit b && isHexDigit c && isHexDigit d) = true) (s : Bytes) :
    scanBody (0x5c :: 0x75 :: a :: b :: c :: d :: s) =
      (scanBody s).map fun (body, rest) => (0x5c :: 0x75 :: a :: b :: c :: d :: body, rest) := by
  rw [scanBody]
  exact if_pos hex

/-- A body ends at the first quote after it, whatever comes then. -/
theorem IsBody.scanBody {body : Bytes} (h : IsBody body) (rest : Bytes) :
    Json.scanBody (body ++ 0x22 :: rest) = some (body, rest) := by
  induction h with
  | nil => rfl
  | plain hc _ ih => rw [List.cons_append, scanBody_plain hc, ih]; rfl
  | short he _ ih => rw [List.cons_append, List.cons_append, scanBody_short he, ih]; rfl
  | unicode hex _ ih =>
    simp only [List.cons_append]
    rw [scanBody_unicode hex, ih]
    rfl

/-- What is found is a body, and the quote stands right behind it. -/
theorem isBody_of_scanBody {s body rest : Bytes} (h : scanBody s = some (body, rest)) :
    IsBody body ∧ s = body ++ 0x22 :: rest := by
  induction s using scanBody.induct generalizing body rest with
  | case1 => cases h
  | case2 s =>
    cases h
    exact ⟨.nil, rfl⟩
  | case3 a b c d s hex ih =>
    rw [scanBody_unicode hex] at h
    obtain ⟨⟨body', rest'⟩, hs, heq⟩ := Option.map_eq_some_iff.1 h
    cases heq
    obtain ⟨hbody, rfl⟩ := ih hs
    exact ⟨.unicode hex hbody, rfl⟩
  | case4 a b c d s hex =>
    rw [scanBody, if_neg hex] at h
    cases h
  | case5 e s hno he ih =>
    rw [scanBody_short he] at h
    obtain ⟨⟨body', rest'⟩, hs, heq⟩ := Option.map_eq_some_iff.1 h
    cases heq
    obtain ⟨hbody, rfl⟩ := ih hs
    exact ⟨.short he hbody, rfl⟩
  | case6 e s hno he =>
    rw [scanBody.eq_4 _ _ hno, if_neg he] at h
    cases h
  | case7 c s hquote hunicode hshort hbad =>
    rw [scanBody, if_pos hbad] at h
    · cases h
    all_goals assumption
  | case8 c s hquote hunicode hshort hgood ih =>
    have hc : IsPlain c := by
      simp only [Bool.or_eq_true, decide_eq_true_eq, beq_iff_eq, not_or] at hgood
      exact ⟨hquote, hgood.2, hgood.1⟩
    rw [scanBody_plain hc] at h
    obtain ⟨⟨body', rest'⟩, hs, heq⟩ := Option.map_eq_some_iff.1 h
    cases heq
    obtain ⟨hbody, rfl⟩ := ih hs
    exact ⟨.plain hc hbody, rfl⟩

/-- **Scanning finds a body and where it ends.** -/
theorem scanBody_iff {s body rest : Bytes} :
    scanBody s = some (body, rest) ↔ IsBody body ∧ s = body ++ 0x22 :: rest := by
  constructor
  · exact isBody_of_scanBody
  · rintro ⟨h, rfl⟩
    exact h.scanBody rest

theorem isStringBody_iff {body : Bytes} : isStringBody body = true ↔ IsBody body := by
  rw [isStringBody, beq_iff_eq, scanBody_iff]
  exact and_iff_left rfl

/-! ## Canonical bodies

A character is written in one of three ways, and the cases are kept apart once, in
`escapeChar_cases`. -/

/-- How a character is written: by a short escape, by its number, or as it is. -/
theorem escapeChar_cases (c : Char) :
    (∃ e b, e ∈ shortEscapes ∧ shortEscape e = some b ∧ escapeChar c = [0x5c, e] ∧
      String.utf8EncodeChar c = [b]) ∨
    (c.toNat < 0x20 ∧ escapeChar c =
      [0x5c, 0x75, 0x30, 0x30, hexDigit (c.toNat / 16), hexDigit (c.toNat % 16)]) ∨
    (c ≠ '"' ∧ c ≠ '\\' ∧ 0x20 ≤ c.toNat ∧ escapeChar c = String.utf8EncodeChar c) := by
  by_cases hshort : c ∈ ['"', '\\', '\x08', '\x0c', '\n', '\r', '\t']
  · left
    simp only [List.mem_cons, List.not_mem_nil, or_false] at hshort
    rcases hshort with rfl | rfl | rfl | rfl | rfl | rfl | rfl
    · exact ⟨0x22, 0x22, by decide, rfl, rfl, by decide⟩
    · exact ⟨0x5c, 0x5c, by decide, rfl, rfl, by decide⟩
    · exact ⟨0x62, 0x08, by decide, rfl, rfl, by decide⟩
    · exact ⟨0x66, 0x0c, by decide, rfl, rfl, by decide⟩
    · exact ⟨0x6e, 0x0a, by decide, rfl, rfl, by decide⟩
    · exact ⟨0x72, 0x0d, by decide, rfl, rfl, by decide⟩
    · exact ⟨0x74, 0x09, by decide, rfl, rfl, by decide⟩
  · right
    simp only [List.mem_cons, List.not_mem_nil, or_false, not_or] at hshort
    obtain ⟨hquote, hslash, hb, hf, hn, hr, ht⟩ := hshort
    rw [escapeChar, if_neg hquote, if_neg hslash, if_neg hb, if_neg hf, if_neg hn, if_neg hr,
      if_neg ht]
    by_cases hcontrol : c.toNat < 0x20
    · exact .inl ⟨hcontrol, if_pos hcontrol⟩
    · exact .inr ⟨hquote, hslash, Nat.le_of_not_lt hcontrol, if_neg hcontrol⟩

/-- The number of a control character in four hexadecimal digits. -/
theorem codeUnit_control {n : Nat} (h : n < 0x20) :
    (isHexDigit 0x30 && isHexDigit 0x30 && isHexDigit (hexDigit (n / 16)) &&
      isHexDigit (hexDigit (n % 16))) = true ∧
    codeUnit 0x30 0x30 (hexDigit (n / 16)) (hexDigit (n % 16)) = n := by
  have : ∀ m : Fin 0x20, (isHexDigit 0x30 && isHexDigit 0x30 &&
      isHexDigit (hexDigit (m.val / 16)) && isHexDigit (hexDigit (m.val % 16))) = true ∧
      codeUnit 0x30 0x30 (hexDigit (m.val / 16)) (hexDigit (m.val % 16)) = m.val := by decide
  exact this ⟨n, h⟩

theorem isPlain_of_mem_utf8EncodeChar {c : Char} {b : UInt8} (hquote : c ≠ '"') (hslash : c ≠ '\\')
    (hcontrol : 0x20 ≤ c.toNat) (hb : b ∈ String.utf8EncodeChar c) : IsPlain b := by
  have hchar : b.toNat < 0x80 → c = Char.ofNat b.toNat := fun h => by
    rw [← Bytes.utf8EncodeChar_of_mem hb h, Char.ofNat_toNat]
  refine ⟨?_, ?_, fun hlt => ?_⟩
  · rintro rfl
    exact hquote (hchar (by decide))
  · rintro rfl
    exact hslash (hchar (by decide))
  · have hlt : b.toNat < 0x20 := UInt8.lt_iff_toNat_lt.1 hlt
    have := Bytes.utf8EncodeChar_of_mem hb (by omega)
    omega

theorem IsBody.of_plain {body : Bytes} (h : ∀ b ∈ body, IsPlain b) : IsBody body := by
  induction body with
  | nil => exact .nil
  | cons b body ih =>
    exact .plain (h b List.mem_cons_self) (ih fun b' hb' => h b' (List.mem_cons_of_mem b hb'))

theorem isBody_escapeChar (c : Char) : IsBody (escapeChar c) := by
  rcases escapeChar_cases c with ⟨e, b, he, -, hc, -⟩ | ⟨hn, hc⟩ | ⟨hquote, hslash, hn, hc⟩
  · rw [hc]
    exact .short he .nil
  · rw [hc]
    exact .unicode (codeUnit_control hn).1 .nil
  · rw [hc]
    exact .of_plain fun b hb => isPlain_of_mem_utf8EncodeChar hquote hslash hn hb

/-- **The canonical body of a text is one.** -/
theorem isBody_escape (s : String) : IsBody (escape s) := by
  rw [escape]
  induction s.toList with
  | nil => exact .nil
  | cons c cs ih => exact (isBody_escapeChar c).append ih

theorem unescapeBytes?_plain {c : UInt8} (h : c ≠ 0x5c) (rest : Bytes) :
    unescapeBytes? (c :: rest) = (unescapeBytes? rest).map (c :: ·) := by
  rw [unescapeBytes?.eq_def]
  split
  · next heq => cases heq
  · next heq => cases heq; exact (h rfl).elim
  · next heq => cases heq; exact (h rfl).elim
  · next heq => cases heq; rfl

theorem unescapeBytes?_plain_append {bytes : Bytes} (h : ∀ b ∈ bytes, IsPlain b) (rest : Bytes) :
    unescapeBytes? (bytes ++ rest) = (unescapeBytes? rest).map (bytes ++ ·) := by
  induction bytes with
  | nil => simp
  | cons b bytes ih =>
    have hb := (h b List.mem_cons_self).2.1
    rw [List.cons_append, unescapeBytes?_plain hb,
      ih fun b' hb' => h b' (List.mem_cons_of_mem b hb'), Option.map_map]
    rfl

theorem unescapeBytes?_short {e b : UInt8} (he : e ∈ shortEscapes) (hb : shortEscape e = some b)
    (rest : Bytes) :
    unescapeBytes? (0x5c :: e :: rest) = (unescapeBytes? rest).map (b :: ·) := by
  rw [unescapeBytes?.eq_def]
  split
  · next heq => cases heq
  · next heq => cases heq; exact absurd he (by decide)
  · next heq => cases heq; rw [hb]
  · next hno heq => cases heq; exact (hno e rest rfl rfl).elim

theorem unescapeBytes?_unicode {a b c d : UInt8} (h : codeUnit a b c d < 0xd800) (rest : Bytes) :
    unescapeBytes? (0x5c :: 0x75 :: a :: b :: c :: d :: rest) =
      (unescapeBytes? rest).map (String.utf8EncodeChar (Char.ofNat (codeUnit a b c d)) ++ ·) := by
  rw [unescapeBytes?.eq_def]
  exact if_pos (.inl h)

/-- The body of a character stands for it. -/
theorem unescapeBytes?_escapeChar (c : Char) (rest : Bytes) :
    unescapeBytes? (escapeChar c ++ rest) =
      (unescapeBytes? rest).map (String.utf8EncodeChar c ++ ·) := by
  rcases escapeChar_cases c with ⟨e, b, he, hb, hc, hutf⟩ | ⟨hn, hc⟩ | ⟨hquote, hslash, hn, hc⟩
  · rw [hc, hutf]
    exact unescapeBytes?_short he hb rest
  · have hunit := (codeUnit_control hn).2
    rw [hc]
    simp only [List.cons_append, List.nil_append]
    rw [unescapeBytes?_unicode (by omega), hunit, Char.ofNat_toNat]
  · rw [hc]
    exact unescapeBytes?_plain_append
      (fun b hb => isPlain_of_mem_utf8EncodeChar hquote hslash hn hb) rest

theorem unescapeBytes?_escape (s : String) :
    unescapeBytes? (escape s) = some (Bytes.ofString s) := by
  rw [escape, Bytes.ofString_eq_flatMap]
  induction s.toList with
  | nil => rfl
  | cons c cs ih => rw [List.flatMap_cons, unescapeBytes?_escapeChar, ih, Option.map_some]; rfl

/-- **A text is read back from its canonical body.** -/
@[simp] theorem unescape?_escape (s : String) : unescape? (escape s) = some s := by
  rw [unescape?, unescapeBytes?_escape, Option.bind_some, Bytes.toString?_ofString]

end Tollbooth.Json
