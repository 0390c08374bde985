import Tollbooth.Proofs.Json.StringBody
import Tollbooth.Proofs.Json.Token
/-!
# Scanning the text of a document

A document that is spelled as JSON is scanned back from its text, whatever comes after it, provided
that a number in front of the rest ends there.

The induction is on the document and not on the text, and the fuel is bounded from below by the
length of what is still to be scanned.  Thrice that length is enough, because at least one byte is
taken off the front in every three steps.  The rest of the text is left open throughout, because
inside a document something always follows; only a number has to be told where it ends.

* `Doc.complete_of_wellFormed` — such a document is broken off nowhere.
* `Doc.scan_text` — it is scanned back.
* `scanFront_append`, `scanFront_text` — the same with blanks in front, and for a whole text.
-/

set_option autoImplicit false

namespace Tollbooth.Json

/-! ## Documents that are spelled as JSON

Tokens and blanks are what they should be, and no place is broken off.  This is a computation on the
document, and the lemmas take it apart at each constructor. -/

theorem Items.wellFormed_item {first : Bool} {before gap : Bytes} {value : Doc} {rest : Items} :
    (Items.item before gap value rest).wellFormed first = true ↔
      (if first then before.isEmpty else allBlank before) = true ∧ allBlank gap = true ∧
        value.wellFormed = true ∧ rest.wellFormed false = true := by
  rw [Items.wellFormed, Bool.and_eq_true, Bool.and_eq_true, Bool.and_eq_true, and_assoc, and_assoc]

theorem Members.wellFormed_member {first : Bool} {before gap key afterKey afterColon : Bytes}
    {value : Doc} {rest : Members} :
    (Members.member before gap key afterKey afterColon value rest).wellFormed first = true ↔
      (if first then before.isEmpty else allBlank before) = true ∧ allBlank gap = true ∧
        IsBody key ∧ allBlank afterKey = true ∧ allBlank afterColon = true ∧
        value.wellFormed = true ∧ rest.wellFormed false = true := by
  simp only [Members.wellFormed, Bool.and_eq_true, isStringBody_iff, and_assoc]

mutual

theorem Doc.complete_of_wellFormed : ∀ d : Doc, d.wellFormed = true → d.complete = true
  | .broken, h => by cases h
  | .null, _ | .bool _, _ | .number _, _ | .string _, _ => rfl
  | .array items, h => Items.complete_of_wellFormed items true h
  | .object members, h => Members.complete_of_wellFormed members true h

theorem Items.complete_of_wellFormed :
    ∀ (items : Items) (first : Bool), items.wellFormed first = true → items.complete = true
  | .broken, _, h | .torn _, _, h => by cases h
  | .close _, _, _ => rfl
  | .item before gap value rest, first, h => by
    obtain ⟨-, -, hvalue, hrest⟩ := Items.wellFormed_item.1 h
    rw [Items.complete, Doc.complete_of_wellFormed value hvalue,
      Items.complete_of_wellFormed rest false hrest]
    rfl

theorem Members.complete_of_wellFormed :
    ∀ (members : Members) (first : Bool), members.wellFormed first = true → members.complete = true
  | .broken, _, h => by cases h
  | .close _, _, _ => rfl
  | .member before gap key afterKey afterColon value rest, first, h => by
    obtain ⟨-, -, -, -, -, hvalue, hrest⟩ := Members.wellFormed_member.1 h
    rw [Members.complete, Doc.complete_of_wellFormed value hvalue,
      Members.complete_of_wellFormed rest false hrest]
    rfl

end

/-! ## How texts begin

The scanner decides by the first byte what comes next.  So it has to be known what a value can begin
with, and that what follows an item or a member begins with something that ends a number. -/

/-- A value begins with something that is neither a blank nor the end of an array. -/
theorem Doc.text_eq_cons {d : Doc} (h : d.wellFormed = true) :
    ∃ b s, d.text = b :: s ∧ isBlank b = false ∧ b ≠ 0x5d := by
  cases d with
  | broken => cases h
  | null => exact ⟨_, _, rfl, rfl, by decide⟩
  | bool value => cases value <;> exact ⟨_, _, rfl, rfl, by decide⟩
  | string body => exact ⟨_, _, rfl, rfl, by decide⟩
  | array items => exact ⟨_, _, rfl, rfl, by decide⟩
  | object members => exact ⟨_, _, rfl, rfl, by decide⟩
  | number token =>
    obtain ⟨b, s, rfl, hb⟩ := head_of_scanNumber (beq_iff_eq.1 h)
    refine ⟨b, s, rfl, ?_⟩
    rcases hb with hb | rfl
    · have hdigit : 0x30 ≤ b.toNat ∧ b.toNat ≤ 0x39 := by
        simp only [isDigit, Bool.and_eq_true, decide_eq_true_eq, UInt8.le_iff_toNat_le] at hb
        exact hb
      have hne : ∀ c : UInt8, c.toNat < 0x30 ∨ 0x39 < c.toNat → b ≠ c := by
        rintro c hc rfl
        omega
      refine ⟨?_, hne _ (by decide)⟩
      simp [isBlank, hne 0x20 (by decide), hne 0x09 (by decide), hne 0x0a (by decide),
        hne 0x0d (by decide)]
    · exact ⟨rfl, by decide⟩

theorem Doc.length_text_pos {d : Doc} (h : d.wellFormed = true) : 0 < d.text.length := by
  obtain ⟨b, s, hd, -⟩ := d.text_eq_cons h
  rw [hd]
  exact Nat.zero_lt_succ _

/-- What follows an item ends a number. -/
theorem Items.endsNumber_text {items : Items} (h : items.wellFormed false = true) (rest : Bytes) :
    EndsNumber (items.text false ++ rest) := by
  cases items with
  | broken | torn => cases h
  | close gap =>
    rw [Items.text, List.append_assoc]
    exact endsNumber_gap h rfl
  | item before gap value items =>
    simp only [Items.text, Bool.false_eq_true, if_false, List.append_assoc, List.cons_append]
    exact endsNumber_gap (Items.wellFormed_item.1 h).1 rfl

theorem Items.length_text_pos {items : Items} {first : Bool} (h : items.wellFormed first = true) :
    0 < (items.text first).length := by
  cases items with
  | broken | torn => cases h
  | close gap => simp [Items.text]
  | item before gap value items =>
    have := value.length_text_pos (Items.wellFormed_item.1 h).2.2.1
    simp only [Items.text, List.length_append]
    omega

/-- What follows a member ends a number. -/
theorem Members.endsNumber_text {members : Members} (h : members.wellFormed false = true)
    (rest : Bytes) : EndsNumber (members.text false ++ rest) := by
  cases members with
  | broken => cases h
  | close gap =>
    rw [Members.text, List.append_assoc]
    exact endsNumber_gap h rfl
  | member before gap key afterKey afterColon value members =>
    simp only [Members.text, Bool.false_eq_true, if_false, List.append_assoc, List.cons_append]
    exact endsNumber_gap (Members.wellFormed_member.1 h).1 rfl

theorem Members.length_text_pos {members : Members} {first : Bool}
    (h : members.wellFormed first = true) : 0 < (members.text first).length := by
  cases members with
  | broken => cases h
  | close gap => simp [Members.text]
  | member before gap key afterKey afterColon value members =>
    simp only [Members.text, List.length_append, List.length_cons]
    omega

/-! ## One step of scanning

One lemma for each way in which the scanner goes on, with the results of the recursive calls as
hypotheses.  The scanner may go back over an item that went wrong right before a bracket; an item
that is complete is not one of these. -/

section Steps

variable {fuel : Nat} {before gap s s' rest : Bytes} {b : UInt8} {value : Doc} {items : Items}

theorem Items.scan_close (first : Bool) (hgap : allBlank gap = true) :
    Items.scan (fuel + 1) first (gap ++ 0x5d :: rest) = (.close gap, rest) := by
  rw [Items.scan, splitBlanks_cons hgap rfl]
  rfl

theorem Items.scan_first (hgap : allBlank gap = true) (hblank : isBlank b = false) (hb : b ≠ 0x5d)
    (hvalue : Doc.scan fuel (b :: s) = (value, s'))
    (hrest : Items.scan fuel false s' = (items, rest)) :
    Items.scan (fuel + 1) true (gap ++ b :: s) = (.item [] gap value items, rest) := by
  rw [Items.scan, splitBlanks_cons hgap hblank]
  split
  · next heq => cases heq; exact (hb rfl).elim
  · next heq =>
    cases heq
    rw [if_pos rfl, hvalue]
    simp only [hrest]

/-- A further item.  It is not faulty, so nothing is overlooked. -/
theorem Items.scan_next (hbefore : allBlank before = true) (hgap : allBlank gap = true)
    (hblank : isBlank b = false) (hvalue : Doc.scan fuel (b :: s) = (value, s'))
    (hrest : Items.scan fuel false s' = (items, rest)) (hsound : value.complete = true)
    (hcomplete : items.complete = true) :
    Items.scan (fuel + 1) false (before ++ 0x2c :: (gap ++ b :: s)) =
      (.item before gap value items, rest) := by
  rw [Items.scan, splitBlanks_cons hbefore rfl]
  split
  · next heq => cases heq
  · next heq =>
    cases heq
    rw [if_neg Bool.false_ne_true]
    simp only [splitBlanks_cons hgap hblank, hvalue, hrest, hcomplete]
    cases value with
    | broken => cases hsound
    | null | bool | number | string | array | object => simp

end Steps

section Steps

variable {fuel : Nat} {before gap key afterKey afterColon s s' rest : Bytes} {b : UInt8}
  {value : Doc} {members : Members}

theorem Members.scan_close (first : Bool) (hgap : allBlank gap = true) :
    Members.scan (fuel + 1) first (gap ++ 0x7d :: rest) = (.close gap, rest) := by
  rw [Members.scan, splitBlanks_cons hgap rfl]
  rfl

theorem Members.scan_first (hgap : allBlank gap = true) (s : Bytes) :
    Members.scan (fuel + 1) true (gap ++ 0x22 :: s) =
      Members.scanMember fuel [] gap (0x22 :: s) := by
  rw [Members.scan, splitBlanks_cons hgap rfl]
  rfl

theorem Members.scan_next (hbefore : allBlank before = true) (hgap : allBlank gap = true)
    (s : Bytes) :
    Members.scan (fuel + 1) false (before ++ 0x2c :: (gap ++ 0x22 :: s)) =
      Members.scanMember fuel before gap (0x22 :: s) := by
  rw [Members.scan, splitBlanks_cons hbefore rfl]
  split
  · next heq => cases heq
  · next heq =>
    cases heq
    rw [if_neg Bool.false_ne_true]
    simp only [splitBlanks_cons hgap (show isBlank 0x22 = false from rfl)]

theorem Members.scanMember_eq (before gap : Bytes) (hkey : IsBody key)
    (hafterKey : allBlank afterKey = true) (hafterColon : allBlank afterColon = true)
    (hblank : isBlank b = false)
    (hvalue : Doc.scan fuel (b :: s) = (value, s'))
    (hrest : Members.scan fuel false s' = (members, rest)) :
    Members.scanMember (fuel + 1) before gap
        (0x22 :: (key ++ 0x22 :: (afterKey ++ 0x3a :: (afterColon ++ b :: s)))) =
      (.member before gap key afterKey afterColon value members, rest) := by
  rw [Members.scanMember]
  simp only [hkey.scanBody, splitBlanks_cons hafterKey (show isBlank 0x3a = false from rfl),
    splitBlanks_cons hafterColon hblank, hvalue, hrest]

end Steps

theorem Doc.scan_number {fuel : Nat} {token rest : Bytes} (h : isNumberToken token = true)
    (hrest : EndsNumber rest) :
    Doc.scan (fuel + 1) (token ++ rest) = (.number token, rest) := by
  have htoken : scanNumber token = some (token, []) := beq_iff_eq.1 h
  have hscan := scanNumber_append hrest htoken
  obtain ⟨b, s, rfl, hb⟩ := head_of_scanNumber htoken
  have hother : ∀ c : UInt8, (isDigit c || c == 0x2d) = false → ¬ (b == c) = true := by
    rintro c hc heq
    rw [← beq_iff_eq.1 heq] at hc
    rcases hb with hb | rfl
    · simp [hb] at hc
    · cases hc
  rw [List.cons_append] at hscan ⊢
  rw [Doc.scan, if_neg (hother _ rfl), if_neg (hother _ rfl), if_neg (hother _ rfl),
    if_neg (hother _ rfl), if_neg (hother _ rfl), if_neg (hother _ rfl), hscan]
  rfl

/-! ## Whole documents -/

/- Each level and each item takes at most three steps and has at least one byte, so what is left of
the fuel is enough for what is left of the text. -/
mutual

/-- **A document is scanned back from its text.** -/
theorem Doc.scan_text : ∀ (d : Doc), d.wellFormed = true → ∀ {fuel : Nat} {rest : Bytes},
    3 * d.text.length ≤ fuel → EndsNumber rest → Doc.scan fuel (d.text ++ rest) = (d, rest)
  | .broken, h, _, _, _, _ => by cases h
  | .null, _, fuel + 1, rest, _, _ => by
    show (match scanWord [0x75, 0x6c, 0x6c] ([0x75, 0x6c, 0x6c] ++ rest) with
      | some rest => (Doc.null, rest)
      | none => (.broken, [])) = _
    rw [scanWord_append]
  | .bool true, _, fuel + 1, rest, _, _ => by
    show (match scanWord [0x72, 0x75, 0x65] ([0x72, 0x75, 0x65] ++ rest) with
      | some rest => (Doc.bool true, rest)
      | none => (.broken, [])) = _
    rw [scanWord_append]
  | .bool false, _, fuel + 1, rest, _, _ => by
    show (match scanWord [0x61, 0x6c, 0x73, 0x65] ([0x61, 0x6c, 0x73, 0x65] ++ rest) with
      | some rest => (Doc.bool false, rest)
      | none => (.broken, [])) = _
    rw [scanWord_append]
  | .number token, h, fuel + 1, rest, _, hrest => Doc.scan_number h hrest
  | .string body, h, fuel + 1, rest, _, _ => by
    have hbody := (isStringBody_iff.1 h).scanBody rest
    simp only [Doc.text, List.cons_append, List.append_assoc, List.nil_append]
    show (match scanBody (body ++ 0x22 :: rest) with
      | some (body, rest) => (Doc.string body, rest)
      | none => (.broken, [])) = _
    rw [hbody]
  | .array items, h, fuel + 1, rest, hf, _ => by
    rw [Doc.text, List.length_cons] at hf
    show (match Items.scan fuel true (items.text true ++ rest) with
      | (items, rest) => (Doc.array items, rest)) = _
    rw [Items.scan_text items true h (by omega)]
  | .object members, h, fuel + 1, rest, hf, _ => by
    rw [Doc.text, List.length_cons] at hf
    show (match Members.scan fuel true (members.text true ++ rest) with
      | (members, rest) => (Doc.object members, rest)) = _
    rw [Members.scan_text members true h (by omega)]
  | d, h, 0, _, hf, _ => by
    have := d.length_text_pos h
    omega

theorem Items.scan_text : ∀ (items : Items) (first : Bool), items.wellFormed first = true →
    ∀ {fuel : Nat} {rest : Bytes}, 3 * (items.text first).length ≤ fuel →
      Items.scan fuel first (items.text first ++ rest) = (items, rest)
  | .broken, _, h, _, _, _ | .torn _, _, h, _, _, _ => by cases h
  | .close gap, first, h, fuel + 1, rest, _ => by
    rw [Items.text, List.append_assoc]
    exact Items.scan_close first h
  | .item before gap value items, first, h, fuel + 1, rest, hf => by
    obtain ⟨hbefore, hgap, hvalue, hitems⟩ := Items.wellFormed_item.1 h
    have hitem := value.length_text_pos hvalue
    have hmore := items.length_text_pos hitems
    simp only [Items.text, List.length_append] at hf
    have hvalue' : Doc.scan fuel (value.text ++ (items.text false ++ rest)) =
        (value, items.text false ++ rest) :=
      Doc.scan_text value hvalue (by omega) (items.endsNumber_text hitems rest)
    have hitems' : Items.scan fuel false (items.text false ++ rest) = (items, rest) :=
      Items.scan_text items false hitems (by omega)
    obtain ⟨b, s, htext, hblank, hb⟩ := value.text_eq_cons hvalue
    rw [htext, List.cons_append] at hvalue'
    cases first with
    | true =>
      rw [if_pos rfl, List.isEmpty_iff] at hbefore
      subst hbefore
      simp only [Items.text, if_true, List.nil_append, List.append_assoc, htext, List.cons_append]
      exact Items.scan_first hgap hblank hb hvalue' hitems'
    | false =>
      simp only [Items.text, Bool.false_eq_true, if_false, List.nil_append, List.append_assoc,
        htext, List.cons_append]
      exact Items.scan_next hbefore hgap hblank hvalue' hitems'
        (value.complete_of_wellFormed hvalue) (items.complete_of_wellFormed false hitems)
  | items, first, h, 0, _, hf => by
    have := items.length_text_pos h
    omega

theorem Members.scan_text : ∀ (members : Members) (first : Bool), members.wellFormed first = true →
    ∀ {fuel : Nat} {rest : Bytes}, 3 * (members.text first).length ≤ fuel →
      Members.scan fuel first (members.text first ++ rest) = (members, rest)
  | .broken, _, h, _, _, _ => by cases h
  | .close gap, first, h, fuel + 1, rest, _ => by
    rw [Members.text, List.append_assoc]
    exact Members.scan_close first h
  | .member before gap key afterKey afterColon value members, first, h, fuel + 2, rest, hf => by
    obtain ⟨hbefore, hgap, hkey, hafterKey, hafterColon, hvalue, hmembers⟩ :=
      Members.wellFormed_member.1 h
    have hmember := value.length_text_pos hvalue
    have hmore := members.length_text_pos hmembers
    simp only [Members.text, List.length_append, List.length_cons] at hf
    have hvalue' : Doc.scan fuel (value.text ++ (members.text false ++ rest)) =
        (value, members.text false ++ rest) :=
      Doc.scan_text value hvalue (by omega) (members.endsNumber_text hmembers rest)
    have hmembers' : Members.scan fuel false (members.text false ++ rest) = (members, rest) :=
      Members.scan_text members false hmembers (by omega)
    obtain ⟨b, s, htext, hblank, -⟩ := value.text_eq_cons hvalue
    rw [htext, List.cons_append] at hvalue'
    have hscan := fun before => Members.scanMember_eq before gap hkey hafterKey hafterColon hblank
      hvalue' hmembers'
    cases first with
    | true =>
      rw [if_pos rfl, List.isEmpty_iff] at hbefore
      subst hbefore
      simp only [Members.text, if_true, List.nil_append, List.append_assoc, htext,
        List.cons_append]
      rw [Members.scan_first hgap, hscan]
    | false =>
      simp only [Members.text, Bool.false_eq_true, if_false, List.nil_append, List.append_assoc,
        htext, List.cons_append]
      rw [Members.scan_next hbefore hgap, hscan]
  | .member before gap key afterKey afterColon value members, first, _, 1, rest, hf => by
    simp only [Members.text, List.length_append, List.length_cons] at hf
    omega
  | members, first, h, 0, _, hf => by
    have := members.length_text_pos h
    omega

end

/-- **The value in front of a text is scanned**, after blanks, and what follows it is left. -/
theorem scanFront_append {before after : Bytes} {d : Doc} (hbefore : allBlank before = true)
    (h : d.wellFormed = true) (hafter : EndsNumber after) :
    scanFront (before ++ d.text ++ after) = (d, after) := by
  obtain ⟨b, s, htext, hblank, -⟩ := d.text_eq_cons h
  have hgap : splitBlanks (before ++ d.text ++ after) = (before, d.text ++ after) := by
    rw [htext, List.append_assoc]
    exact splitBlanks_cons hbefore hblank
  rw [scanFront, hgap]
  refine d.scan_text h ?_ hafter
  simp only [List.length_append]
  omega

/-- A whole text is scanned to its document, and nothing is left. -/
theorem scanFront_text {d : Doc} (h : d.wellFormed = true) : scanFront d.text = (d, []) := by
  have hscan := scanFront_append (show allBlank [] = true from rfl) h endsNumber_nil
  rwa [List.nil_append, List.append_nil] at hscan

end Tollbooth.Json
