import Mathlib.Data.List.TakeWhile
import Tollbooth.Chain.Id
/-!
# Chain identifiers and their texts

A text is split at its first colon, so an identifier can be told from its text if neither part is
empty and the first has no colon.  What is read of a text is always such an identifier, and the text
is the one that is written for it.

Not every pair of texts is fit to be an identifier: one with a colon in its first part would be read
back as another pair.  The type allows these, because whoever makes an identifier by hand may put
anything into it.  `IsProper` is therefore a condition and not part of the type, and it is shown
where identifiers come from a text.

* `IsProper` — the chain identifiers that can be told from their text.
* `parse?_eq_some_iff` — a text is read as the identifier that it is written for.
-/

set_option autoImplicit false

namespace Tollbooth

/-! ## Texts with a mark

Splitting at the first occurrence of a mark is undone by putting the parts together, if the mark is
not in the first of them. -/

theorem Text.splitFirst_append {mark : Char} {front : List Char} (h : mark ∉ front)
    (back : List Char) : splitFirst mark (front ++ mark :: back) = (front, some back) := by
  have hfront : ∀ c ∈ front, (c != mark) = true := by
    intro c hc
    rw [bne_iff_ne]
    rintro rfl
    exact h hc
  rw [splitFirst, List.dropWhile_append_of_pos hfront, List.takeWhile_append_of_pos hfront]
  simp

theorem Text.splitFirst_of_not_mem {mark : Char} {cs : List Char} (h : mark ∉ cs) :
    splitFirst mark cs = (cs, none) := by
  have hdrop : cs.dropWhile (· != mark) = [] := by
    rw [List.dropWhile_eq_nil_iff]
    intro c hc
    rw [bne_iff_ne]
    rintro rfl
    exact h hc
  rw [splitFirst, hdrop]

theorem Text.not_mem_of_splitFirst {mark : Char} {cs front back : List Char}
    (h : splitFirst mark cs = (front, some back)) : mark ∉ front := by
  rw [splitFirst] at h
  split at h
  · cases h
    intro hmem
    have := List.mem_takeWhile_imp hmem
    simp at this
  · cases h

/-- The parts and the mark between them are the whole text. -/
theorem Text.eq_append_of_splitFirst {mark : Char} {cs front back : List Char}
    (h : splitFirst mark cs = (front, some back)) : cs = front ++ mark :: back := by
  rw [splitFirst] at h
  split at h
  · next c rest hdrop =>
    cases h
    have hne : cs.dropWhile (· != mark) ≠ [] := by
      rw [hdrop]
      exact List.cons_ne_nil c back
    have hc := List.head_dropWhile_not (· != mark) hne
    simp only [hdrop, List.head_cons, bne_eq_false_iff_eq] at hc
    rw [hc] at hdrop
    rw [← hdrop, List.takeWhile_append_dropWhile]
  · cases h

namespace ChainId

/-- The identifier can be told from its text: neither part is empty, and the first one has no
colon. -/
structure IsProper (c : ChainId) : Prop where
  ns : c.ns ≠ ""
  colon : ':' ∉ c.ns.toList
  reference : c.reference ≠ ""

theorem parse?_text {c : ChainId} (h : c.IsProper) : parse? c.text = some c := by
  obtain ⟨ns, reference⟩ := c
  obtain ⟨hns, hcolon, hreference⟩ := h
  have hsplit : Text.splitFirst ':' (text ⟨ns, reference⟩).toList =
      (ns.toList, some reference.toList) := by
    rw [text, String.toList_append, String.toList_append, List.append_assoc]
    exact Text.splitFirst_append hcolon _
  have hfront : ns.toList ≠ [] := fun h => hns (String.toList_eq_nil_iff.1 h)
  have hback : reference.toList ≠ [] := fun h => hreference (String.toList_eq_nil_iff.1 h)
  obtain ⟨c, front, hc⟩ := List.exists_cons_of_ne_nil hfront
  obtain ⟨d, back, hd⟩ := List.exists_cons_of_ne_nil hback
  rw [parse?, hsplit, hc, hd]
  show some (ChainId.mk (.ofList (c :: front)) (.ofList (d :: back))) = _
  rw [← hc, ← hd, String.ofList_toList, String.ofList_toList]

/-- Every identifier that is read can be told from its text. -/
theorem isProper_of_parse? {s : String} {c : ChainId} (h : parse? s = some c) : c.IsProper := by
  rw [parse?] at h
  split at h
  · next hsplit =>
    cases h
    refine ⟨?_, ?_, ?_⟩
    · simp
    · rw [String.toList_ofList]
      exact Text.not_mem_of_splitFirst hsplit
    · simp
  · cases h

theorem text_of_parse? {s : String} {c : ChainId} (h : parse? s = some c) : c.text = s := by
  rw [parse?] at h
  split at h
  · next hsplit =>
    cases h
    simp [← String.toList_inj, Text.eq_append_of_splitFirst hsplit, text]
  · cases h

/-- A text is read as the identifier that it is written for. -/
theorem parse?_eq_some_iff {s : String} {c : ChainId} :
    parse? s = some c ↔ c.IsProper ∧ c.text = s := by
  constructor
  · exact fun h => ⟨isProper_of_parse? h, text_of_parse? h⟩
  · rintro ⟨hproper, rfl⟩
    exact parse?_text hproper

end ChainId

namespace ChainNumber

variable {c : ChainId} {n : ChainNumber}

/-- The chains that have a number: those of the namespace whose reference is read as one. -/
theorem ofChainId_eq_ok_iff :
    ofChainId c = .ok n ↔ c.ns = ns ∧ Decimal.word64? c.reference = some n.number := by
  rw [ofChainId]
  by_cases hns : c.ns = ns
  · rw [if_neg (not_not_intro hns)]
    cases hword : Decimal.word64? c.reference with
    | none => simp
    | some m =>
      rw [Option.bind_some]
      by_cases hm : m < Word.bound64
      · obtain ⟨number, hnumber⟩ := n
        simp [ofNat?, hm, hns]
      · have hne : m ≠ n.number := fun h => hm (h ▸ n.isWord)
        simp [ofNat?, hm, hne]
  · simp [hns]

@[simp] theorem ofChainId_chainId (n : ChainNumber) : ofChainId n.chainId = .ok n :=
  ofChainId_eq_ok_iff.2 ⟨rfl, Decimal.word64?_toString n.isWord⟩

end ChainNumber

end Tollbooth
