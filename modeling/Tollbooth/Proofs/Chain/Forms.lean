import Tollbooth.Proofs.Chain.Network
/-!
# The forms of a chain

A chain is written as a name, as an identifier or as a number.  Identifiers are the form in which
the others meet: a name is resolved to an identifier that is resolved to itself, and a number is the
identifier that it is read from, up to the way the number is spelled.

The forms lose information in one direction each.  A name is forgotten when it is resolved, and a
plus sign or zeros in front of a number are forgotten when it is read.  So what can be said is that
the second way around changes nothing any more: what was resolved is resolved to itself, and a
number that was read from an identifier is read from the one that is written for it.

* `ChainId.exists_parse?_iff` — the texts that are an identifier.
* `ChainId.resolve?_text_of_resolve?` — what a text is resolved to is resolved to itself.
* `ChainNumber.exists_ofChainId_iff` — the identifiers that have a number.
* `chain_forms_agree` — reading undoes writing for each of the forms.
-/

set_option autoImplicit false

namespace Tollbooth

/-! ## Identifiers

A text with a colon is read as an identifier, and one without is looked up among the known networks.
The identifiers of these have a colon in their texts as well. -/

namespace ChainId

variable {s : String} {c : ChainId}

/-- **A text is an identifier just if something stands on either side of its first colon.** -/
theorem exists_parse?_iff :
    (∃ c, parse? s = some c) ↔
      ∃ front back, front ≠ "" ∧ ':' ∉ front.toList ∧ back ≠ "" ∧ s = front ++ ":" ++ back := by
  constructor
  · rintro ⟨c, hc⟩
    obtain ⟨⟨hns, hcolon, hreference⟩, rfl⟩ := parse?_eq_some_iff.1 hc
    exact ⟨c.ns, c.reference, hns, hcolon, hreference, rfl⟩
  · rintro ⟨front, back, hfront, hcolon, hback, rfl⟩
    exact ⟨⟨front, back⟩, parse?_eq_some_iff.2 ⟨⟨hfront, hcolon, hback⟩, rfl⟩⟩

/-- The text of an identifier is resolved as one, and not as a name. -/
theorem resolve?_text (c : ChainId) : resolve? c.text = parse? c.text := by
  have hcolon : c.text.toList.contains ':' = true := by simp [text]
  rw [resolve?, if_pos hcolon]

/-- What a text is resolved to can be told from its own text. -/
theorem isProper_of_resolve? (h : resolve? s = some c) : c.IsProper := by
  rw [resolve?] at h
  split at h
  · exact isProper_of_parse? h
  · obtain ⟨k, hk, -, rfl⟩ := KnownNetwork.mem_of_chain? h
    obtain ⟨n, hn⟩ := KnownNetwork.exists_chainId hk
    exact hn ▸ n.isProper_chainId

/-- **What a text is resolved to is resolved to itself.** -/
theorem resolve?_text_of_resolve? (h : resolve? s = some c) : resolve? c.text = some c :=
  c.resolve?_text.trans (parse?_text (isProper_of_resolve? h))

end ChainId

/-! ## Numbers

A reference is any text, and few of them are numbers.  Which ones, and what they denote, is told by
the places of the digits (`Decimal.DenotesWord`). -/

namespace ChainNumber

variable {c : ChainId} {n : ChainNumber}

theorem ofChainId_eq_ok_iff_denotesWord :
    ofChainId c = .ok n ↔ c.ns = "eip155" ∧ Decimal.DenotesWord c.reference n.number :=
  ofChainId_eq_ok_iff.trans (and_congr_right fun _ => Decimal.word64?_eq_some_iff_denotesWord)

/-- **The identifiers that have a number** are those of the namespace whose reference denotes
one. -/
theorem exists_ofChainId_iff :
    (∃ n, ofChainId c = .ok n) ↔ c.ns = "eip155" ∧ ∃ m, Decimal.DenotesWord c.reference m := by
  constructor
  · rintro ⟨n, hn⟩
    obtain ⟨hns, hword⟩ := ofChainId_eq_ok_iff_denotesWord.1 hn
    exact ⟨hns, n.number, hword⟩
  · rintro ⟨hns, m, hword⟩
    exact ⟨⟨m, hword.1⟩, ofChainId_eq_ok_iff_denotesWord.2 ⟨hns, hword⟩⟩

end ChainNumber

/-- **The forms of a chain agree.**  A text is an identifier just if something stands on either side
of its first colon, and it is what is written for it; an identifier that can be told from its text
is read back from it.  What a name or an identifier is resolved to is resolved to itself.  A number
is read back from its identifier; an identifier has a number just if it is of the namespace and its
reference denotes a number of 64 bits, which is that number, however it is spelled. -/
theorem chain_forms_agree :
    (∀ s : String, (∃ c, ChainId.parse? s = some c) ↔
      ∃ front back, front ≠ "" ∧ ':' ∉ front.toList ∧ back ≠ "" ∧ s = front ++ ":" ++ back) ∧
    (∀ (s : String) (c : ChainId), ChainId.parse? s = some c → c.text = s) ∧
    (∀ c : ChainId, c.IsProper → ChainId.parse? c.text = some c) ∧
    (∀ (s : String) (c : ChainId), ChainId.resolve? s = some c →
      ChainId.resolve? c.text = some c) ∧
    (∀ n : ChainNumber, ChainNumber.ofChainId n.chainId = .ok n) ∧
    (∀ c : ChainId, (∃ n, ChainNumber.ofChainId c = .ok n) ↔
      c.ns = "eip155" ∧ ∃ m, Decimal.DenotesWord c.reference m) ∧
    ∀ (c : ChainId) (n : ChainNumber), ChainNumber.ofChainId c = .ok n →
      Decimal.DenotesWord c.reference n.number ∧ ChainNumber.ofChainId n.chainId = .ok n := by
  refine ⟨fun s => ChainId.exists_parse?_iff, fun s c => ChainId.text_of_parse?,
    fun c => ChainId.parse?_text, fun s c => ChainId.resolve?_text_of_resolve?,
    ChainNumber.ofChainId_chainId, fun c => ChainNumber.exists_ofChainId_iff, fun c n hn => ?_⟩
  exact ⟨(ChainNumber.ofChainId_eq_ok_iff_denotesWord.1 hn).2, n.ofChainId_chainId⟩

/-- A name, the identifier that it is resolved to, and another spelling of its number. -/
theorem chain_forms_agree_base :
    ChainId.resolve? "base" = some ⟨"eip155", "8453"⟩ ∧
      ChainId.resolve? "eip155:8453" = some ⟨"eip155", "8453"⟩ ∧
      ∃ n : ChainNumber, ChainNumber.ofChainId ⟨"eip155", "+08453"⟩ = .ok n ∧
        n.chainId = ⟨"eip155", "8453"⟩ ∧ ChainNumber.ofChainId n.chainId = .ok n := by
  have hname : ChainId.resolve? "base" = some ⟨"eip155", "8453"⟩ := by decide +kernel
  have hnumber : ChainNumber.ofChainId ⟨"eip155", "+08453"⟩ = .ok ⟨8453, by decide⟩ := by
    decide +kernel
  obtain ⟨-, -, -, hresolve, -, -, hagain⟩ := chain_forms_agree
  exact ⟨hname, hresolve _ _ hname, _, hnumber, rfl, (hagain _ _ hnumber).2⟩

end Tollbooth
