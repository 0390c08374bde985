import Tollbooth.Proofs.Json.Number
import Tollbooth.Proofs.Json.Write
/-!
# What is scanned was there

A document that is scanned from a text without faults stands at the front of the text, spelled as it
is, and what is left comes right behind it.  So a text that is kept verbatim is one value with
nothing but blanks around it, and every such text can be kept.

This is the converse of `Scan`, and the induction is on the fuel of the scanner, since the document
is what comes out.  Where the text goes wrong the tree is broken off, so it is enough to assume at
the end that it is not; the assumption is passed on to the parts, and rules out all cases in which
the scanner gives up.

Together the two say that texts of one value and documents that are spelled as JSON are in
one-to-one correspondence, apart from the blanks around.  This is why a document that is kept can
stand for its text, and why a text can be called one value without saying how it is read.

* `Doc.stands_of_scan` — a document that is scanned without faults stands at the front.
* `Doc.StandsIn`, `Verbatim.StandsIn` — a text is one value with blanks around it.
* `Reader.ofText_eq_ok_iff_standsIn` — to read a text is to read the value in it.
* `Verbatim.ofText_eq_ok`, `Verbatim.ofText_eq_error` — what is kept verbatim, and what is refused.
-/

set_option autoImplicit false

namespace Tollbooth.Json

/-! ## Tokens -/

theorem eq_append_of_splitBlanks {s gap rest : Bytes} (h : splitBlanks s = (gap, rest)) :
    s = gap ++ rest ∧ allBlank gap = true := by
  cases h
  exact ⟨List.takeWhile_append_dropWhile.symm,
    List.all_eq_true.2 fun b hb => List.mem_takeWhile_imp hb⟩

theorem eq_append_of_scanWord {word s rest : Bytes} (h : scanWord word s = some rest) :
    s = word ++ rest := by
  induction word generalizing s with
  | nil =>
    cases h
    rfl
  | cons w word ih =>
    cases s with
    | nil => cases h
    | cons c s =>
      rw [scanWord] at h
      split at h
      · next hc => rw [ih h, ← beq_iff_eq.1 hc, List.cons_append]
      · cases h

/-! ## Documents

The scanner is followed from branch to branch.  In each of them the text is what the branch has
taken off, then the parts, then the rest. -/

/- On the fuel: what is left of it scans the parts.  Where the scan goes wrong the document is broken
off or torn, so these cases fall away. -/
mutual

/-- **A document that is scanned without faults is spelled as JSON, and stands at the front of the
text.** -/
theorem Doc.stands_of_scan : ∀ {fuel : Nat} {s rest : Bytes} {d : Doc},
    Doc.scan fuel s = (d, rest) → d.complete = true → d.wellFormed = true ∧ s = d.text ++ rest
  | 0, s, rest, d, h, hd => by
    cases h
    cases hd
  | fuel + 1, [], rest, d, h, hd => by
    cases h
    cases hd
  | fuel + 1, c :: s, rest, d, h, hd => by
    rw [Doc.scan] at h
    split at h
    · next hc =>
      rw [beq_iff_eq.1 hc]
      split at h
      · next body rest' hbody =>
        cases h
        obtain ⟨hends, rfl⟩ := isBody_of_scanBody hbody
        exact ⟨isStringBody_iff.2 hends, by simp [Doc.text]⟩
      · cases h
        cases hd
    split at h
    · next hc =>
      rw [beq_iff_eq.1 hc]
      cases h
      exact (Items.stands_of_scan rfl hd).imp_right (congrArg (0x5b :: ·))
    split at h
    · next hc =>
      rw [beq_iff_eq.1 hc]
      cases h
      exact (Members.stands_of_scan rfl hd).imp_right (congrArg (0x7b :: ·))
    split at h
    · next hc =>
      rw [beq_iff_eq.1 hc]
      split at h
      · next hword =>
        cases h
        exact ⟨rfl, congrArg (0x6e :: ·) (eq_append_of_scanWord hword)⟩
      · cases h
        cases hd
    split at h
    · next hc =>
      rw [beq_iff_eq.1 hc]
      split at h
      · next hword =>
        cases h
        exact ⟨rfl, congrArg (0x74 :: ·) (eq_append_of_scanWord hword)⟩
      · cases h
        cases hd
    split at h
    · next hc =>
      rw [beq_iff_eq.1 hc]
      split at h
      · next hword =>
        cases h
        exact ⟨rfl, congrArg (0x66 :: ·) (eq_append_of_scanWord hword)⟩
      · cases h
        cases hd
    split at h
    · next hnumber =>
      cases h
      exact (isNumber_of_scanNumber hnumber).imp_left isNumberToken_iff.2
    · cases h
      cases hd

theorem Items.stands_of_scan : ∀ {fuel : Nat} {first : Bool} {s rest : Bytes} {items : Items},
    Items.scan fuel first s = (items, rest) → items.complete = true →
      items.wellFormed first = true ∧ s = items.text first ++ rest
  | 0, first, s, rest, items, h, hi => by
    cases h
    cases hi
  | fuel + 1, first, s, rest, items, h, hi => by
    rw [Items.scan] at h
    split at h
    · next gap rest' hgap =>
      cases h
      obtain ⟨rfl, hblank⟩ := eq_append_of_splitBlanks hgap
      exact ⟨hblank, by simp [Items.text]⟩
    · next gap t hclose hgap =>
      obtain ⟨rfl, hblank⟩ := eq_append_of_splitBlanks hgap
      split at h
      · next hfirst =>
        subst hfirst
        obtain ⟨value, s', hvalue⟩ : ∃ value s', Doc.scan fuel t = (value, s') := ⟨_, _, rfl⟩
        obtain ⟨more, s'', hmore⟩ : ∃ more s'', Items.scan fuel false s' = (more, s'') :=
          ⟨_, _, rfl⟩
        simp only [hvalue, hmore] at h
        cases h
        obtain ⟨hv, hm⟩ := Bool.and_eq_true_iff.1 hi
        obtain ⟨hvalue', rfl⟩ := Doc.stands_of_scan hvalue hv
        obtain ⟨hmore', rfl⟩ := Items.stands_of_scan hmore hm
        exact ⟨Items.wellFormed_item.2 ⟨rfl, hblank, hvalue', hmore'⟩, by simp [Items.text]⟩
      · next hfirst =>
        rw [Bool.not_eq_true] at hfirst
        subst hfirst
        split at h
        · next t =>
          obtain ⟨gap', s', hgap'⟩ : ∃ gap' s', splitBlanks t = (gap', s') := ⟨_, _, rfl⟩
          obtain ⟨value, s'', hvalue⟩ : ∃ value s'', Doc.scan fuel s' = (value, s'') :=
            ⟨_, _, rfl⟩
          obtain ⟨more, s₃, hmore⟩ : ∃ more s₃, Items.scan fuel false s'' = (more, s₃) :=
            ⟨_, _, rfl⟩
          simp only [hgap', hvalue, hmore] at h
          split at h
          · cases h
            cases hi
          · cases h
            obtain ⟨hv, hm⟩ := Bool.and_eq_true_iff.1 hi
            obtain ⟨rfl, hblank'⟩ := eq_append_of_splitBlanks hgap'
            obtain ⟨hvalue', rfl⟩ := Doc.stands_of_scan hvalue hv
            obtain ⟨hmore', rfl⟩ := Items.stands_of_scan hmore hm
            exact ⟨Items.wellFormed_item.2 ⟨hblank, hblank', hvalue', hmore'⟩, by simp [Items.text]⟩
        · cases h
          cases hi

theorem Members.stands_of_scan : ∀ {fuel : Nat} {first : Bool} {s rest : Bytes}
    {members : Members}, Members.scan fuel first s = (members, rest) → members.complete = true →
      members.wellFormed first = true ∧ s = members.text first ++ rest
  | 0, first, s, rest, members, h, hm => by
    cases h
    cases hm
  | fuel + 1, first, s, rest, members, h, hm => by
    rw [Members.scan] at h
    split at h
    · next gap rest' hgap =>
      cases h
      obtain ⟨rfl, hblank⟩ := eq_append_of_splitBlanks hgap
      exact ⟨hblank, by simp [Members.text]⟩
    · next gap t hclose hgap =>
      obtain ⟨rfl, hblank⟩ := eq_append_of_splitBlanks hgap
      split at h
      · next hfirst =>
        subst hfirst
        exact Members.stands_of_scanMember h hm rfl hblank
      · next hfirst =>
        rw [Bool.not_eq_true] at hfirst
        subst hfirst
        split at h
        · next t =>
          obtain ⟨gap', s', hgap'⟩ : ∃ gap' s', splitBlanks t = (gap', s') := ⟨_, _, rfl⟩
          simp only [hgap'] at h
          obtain ⟨rfl, hblank'⟩ := eq_append_of_splitBlanks hgap'
          obtain ⟨hmore, htext⟩ := @Members.stands_of_scanMember fuel false gap gap' s' rest
            members h hm hblank hblank'
          exact ⟨hmore, by simp [← htext]⟩
        · cases h
          cases hm

theorem Members.stands_of_scanMember : ∀ {fuel : Nat} {first : Bool} {before gap s rest : Bytes}
    {members : Members}, Members.scanMember fuel before gap s = (members, rest) →
      members.complete = true → (if first then before.isEmpty else allBlank before) = true →
        allBlank gap = true → members.wellFormed first = true ∧
          (if first then [] else before ++ [0x2c]) ++ gap ++ s = members.text first ++ rest
  | 0, first, before, gap, s, rest, members, h, hm, _, _ => by
    cases h
    cases hm
  | fuel + 1, first, before, gap, s, rest, members, h, hm, hbefore, hgap => by
    rw [Members.scanMember.eq_def] at h
    dsimp only at h
    split at h
    · next t =>
      split at h
      · cases h
        cases hm
      · next key t' hkey =>
        obtain ⟨afterKey, s₁, hafterKey⟩ : ∃ afterKey s₁, splitBlanks t' = (afterKey, s₁) :=
          ⟨_, _, rfl⟩
        simp only [hafterKey] at h
        split at h
        · next s₂ =>
          obtain ⟨afterColon, s₃, hafterColon⟩ :
            ∃ afterColon s₃, splitBlanks s₂ = (afterColon, s₃) := ⟨_, _, rfl⟩
          obtain ⟨value, s₄, hvalue⟩ : ∃ value s₄, Doc.scan fuel s₃ = (value, s₄) := ⟨_, _, rfl⟩
          obtain ⟨more, s₅, hmore⟩ : ∃ more s₅, Members.scan fuel false s₄ = (more, s₅) :=
            ⟨_, _, rfl⟩
          simp only [hafterColon, hvalue, hmore] at h
          cases h
          obtain ⟨hv, hms⟩ := Bool.and_eq_true_iff.1 hm
          obtain ⟨hends, rfl⟩ := isBody_of_scanBody hkey
          obtain ⟨rfl, hblank₁⟩ := eq_append_of_splitBlanks hafterKey
          obtain ⟨rfl, hblank₂⟩ := eq_append_of_splitBlanks hafterColon
          obtain ⟨hvalue', rfl⟩ := Doc.stands_of_scan hvalue hv
          obtain ⟨hmore', rfl⟩ := Members.stands_of_scan hmore hms
          exact ⟨Members.wellFormed_member.2 ⟨hbefore, hgap, hends, hblank₁, hblank₂, hvalue', hmore'⟩,
            by simp [Members.text]⟩
        · cases h
          cases hm
    · cases h
      cases hm

end

/-- The value in front of a text stands there after blanks. -/
theorem eq_append_of_scanFront {s rest : Bytes} {d : Doc} (h : scanFront s = (d, rest))
    (hd : d.complete = true) :
    d.wellFormed = true ∧ ∃ before, allBlank before = true ∧ s = before ++ d.text ++ rest := by
  obtain ⟨before, t, hgap⟩ : ∃ before t, splitBlanks s = (before, t) := ⟨_, _, rfl⟩
  obtain ⟨hs, hbefore⟩ := eq_append_of_splitBlanks hgap
  rw [scanFront, hgap] at h
  obtain ⟨hjson, ht⟩ : d.wellFormed = true ∧ t = d.text ++ rest := Doc.stands_of_scan h hd
  exact ⟨hjson, before, hbefore, by rw [hs, ht, List.append_assoc]⟩

/-- The text is this one value, with nothing but blanks around it. -/
def Doc.StandsIn (d : Doc) (s : Bytes) : Prop :=
  d.wellFormed = true ∧ ∃ before after, allBlank before = true ∧ allBlank after = true ∧
    s = before ++ d.text ++ after

theorem Doc.standsIn_text {d : Doc} (h : d.wellFormed = true) : d.StandsIn d.text :=
  ⟨h, [], [], rfl, rfl, by rw [List.nil_append, List.append_nil]⟩

/-- A value that stands in a text is what is scanned from it. -/
theorem Doc.StandsIn.scanFront_eq {d : Doc} {s : Bytes} (h : d.StandsIn s) :
    (scanFront s).1 = d ∧ allBlank (scanFront s).2 = true := by
  obtain ⟨hjson, before, after, hbefore, hafter, rfl⟩ := h
  rw [scanFront_append hbefore hjson (endsNumber_of_allBlank hafter)]
  exact ⟨rfl, hafter⟩

/-- No text is two values. -/
theorem Doc.StandsIn.unique {d d' : Doc} {s : Bytes} (h : d.StandsIn s) (h' : d'.StandsIn s) :
    d = d' :=
  h.scanFront_eq.1.symm.trans h'.scanFront_eq.1

/-- **To read a text is to read the value that stands in it**, if only values can be read that are
broken off nowhere. -/
theorem Reader.ofText_eq_ok_iff_standsIn {α : Type} {read : Reader α} {s : Bytes} {a : α}
    (hread : ∀ d, read .start d = .ok a → d.complete = true) :
    read.ofText s = .ok a ↔ ∃ d : Doc, d.StandsIn s ∧ read .start d = .ok a := by
  rw [Reader.ofText_eq_ok]
  constructor
  · obtain ⟨d, after, hfront⟩ : ∃ d after, scanFront s = (d, after) :=
      ⟨(scanFront s).1, (scanFront s).2, rfl⟩
    rw [hfront]
    rintro ⟨hd, hafter⟩
    obtain ⟨hjson, before, hbefore, hs⟩ := eq_append_of_scanFront hfront (hread d hd)
    exact ⟨d, ⟨hjson, before, after, hbefore, hafter, hs⟩, hd⟩
  · rintro ⟨d, hstands, hd⟩
    obtain ⟨rfl, hafter⟩ := hstands.scanFront_eq
    exact ⟨hd, hafter⟩

/-! ## What is kept verbatim

To keep a value is to scan it, and to see that nothing but blanks stands behind it.  A text for
which this fails is no single value. -/

namespace Verbatim

/-- The text is this one value, with nothing but blanks around it. -/
def StandsIn (v : Verbatim) (s : Bytes) : Prop :=
  ∃ before after, allBlank before = true ∧ allBlank after = true ∧
    s = before ++ Bytes.ofString v.text ++ after

theorem ofString_text (v : Verbatim) : Bytes.ofString v.text = v.doc.text :=
  (Bytes.eq_ofString_of_toString? v.isText).symm

theorem read_eq_ok {site : Site} {d : Doc} {v : Verbatim} : read site d = .ok v ↔ v.doc = d := by
  constructor
  · intro h
    rw [read] at h
    split at h
    · next v' hv =>
      cases h
      rw [ofDoc?] at hv
      split at hv
      · split at hv
        · cases hv
          rfl
        · cases hv
      · cases hv
    · cases h
  · rintro rfl
    exact read_doc site v

/-- **What is kept verbatim is all of the text but the blanks around it**, and every such text can
be kept. -/
theorem ofText_eq_ok {s : Bytes} {v : Verbatim} : read.ofText s = .ok v ↔ v.StandsIn s := by
  rw [Reader.ofText_eq_ok, read_eq_ok]
  constructor
  · obtain ⟨d, after, hfront⟩ : ∃ d after, scanFront s = (d, after) :=
      ⟨(scanFront s).1, (scanFront s).2, rfl⟩
    rw [hfront]
    rintro ⟨rfl, hafter⟩
    obtain ⟨-, before, hbefore, hs⟩ :=
      eq_append_of_scanFront hfront (Doc.complete_of_wellFormed v.doc v.isJson)
    exact ⟨before, after, hbefore, hafter, by rw [ofString_text, hs]⟩
  · rintro ⟨before, after, hbefore, hafter, rfl⟩
    rw [ofString_text, scanFront_append hbefore v.isJson (endsNumber_of_allBlank hafter)]
    exact ⟨rfl, hafter⟩

/-- To read such a text is to read the value in it. -/
theorem StandsIn.ofText {α : Type} {s : Bytes} {v : Verbatim} (h : v.StandsIn s)
    (read : Reader α) : read.ofText s = read .start v.doc := by
  obtain ⟨hread, hblank⟩ := Reader.ofText_eq_ok.1 (ofText_eq_ok.2 h)
  rw [Reader.ofText_eq_bind, hblank, ← read_eq_ok.1 hread]
  cases read .start v.doc <;> rfl

theorem read_cases (site : Site) (d : Doc) :
    read site d = .error .malformed ∨ ∃ v, read site d = .ok v := by
  rw [read]
  cases ofDoc? d with
  | none => exact .inl rfl
  | some v => exact .inr ⟨v, rfl⟩

/-- Any other text is refused. -/
theorem ofText_eq_error {s : Bytes} {fault : Fault} :
    read.ofText s = .error fault ↔ fault = .malformed ∧ ∀ v : Verbatim, ¬ v.StandsIn s := by
  have hread : read.ofText s = .error .malformed ∨ ∃ v, read.ofText s = .ok v := by
    rw [Reader.ofText_eq_bind]
    obtain hd | ⟨v, hd⟩ := read_cases .start (scanFront s).1
    · rw [hd]
      exact .inl rfl
    · rw [hd]
      cases allBlank (scanFront s).2 with
      | true => exact .inr ⟨v, rfl⟩
      | false => exact .inl rfl
  obtain hmalformed | ⟨v, hv⟩ := hread
  · rw [hmalformed, Except.error.injEq]
    refine ⟨fun h => ⟨h.symm, fun v hv => ?_⟩, fun h => h.1.symm⟩
    cases hmalformed.symm.trans (ofText_eq_ok.2 hv)
  · rw [hv]
    exact ⟨nofun, fun h => (h.2 v (ofText_eq_ok.1 hv)).elim⟩

end Verbatim

end Tollbooth.Json
