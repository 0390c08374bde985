import Tollbooth.Chain.Network
import Tollbooth.Proofs.Chain.Id
import Tollbooth.Proofs.Text.Decimal
/-!
# What denotes a chain

A chain with a number is denoted by its number in the namespace, and by its name if it has one.

There is a table of known networks, and a text without a colon is looked for in it.  Each network in
the table has a number, so that every text that is found has one; but a chain may have a number and
not be known.  The relation between texts and chains covers both: `DenotedBy` holds of the name of a
chain, if it has one, and of all spellings of its number in the namespace.

* `ChainNumber.DenotedBy` — the texts that denote a chain.
* `ChainNumber.exists_resolve?_iff` — just these are resolved to it.
-/

set_option autoImplicit false

namespace Tollbooth

namespace KnownNetwork

/-- A known network is found by its name, in which there is no colon. -/
theorem resolve?_name {k : KnownNetwork} (h : k ∈ all) :
    ChainId.resolve? k.name = some k.chain := by
  have htable : ∀ k ∈ all, ChainId.resolve? k.name = some k.chain := by decide +kernel
  exact htable k h

/-- Every known network has a number. -/
theorem exists_chainId {k : KnownNetwork} (h : k ∈ all) :
    ∃ n : ChainNumber, k.chain = n.chainId := by
  have htable : ∀ k ∈ all, (ChainNumber.ofChainId k.chain).toOption.map ChainNumber.chainId =
      some k.chain := by decide +kernel
  obtain ⟨n, -, hn⟩ := Option.map_eq_some_iff.1 (htable k h)
  exact ⟨n, hn.symm⟩

theorem mem_of_chain? {name : String} {c : ChainId} (h : chain? name = some c) :
    ∃ k ∈ all, k.name = name ∧ k.chain = c := by
  obtain ⟨k, hk, hc⟩ := Option.map_eq_some_iff.1 h
  exact ⟨k, List.mem_of_find?_eq_some hk, by simpa using List.find?_some hk, hc⟩

end KnownNetwork

namespace ChainNumber

/-- The text is the name of the chain with this number, or the number itself in its namespace, where
it may have zeros and a plus sign in front. -/
inductive DenotedBy (n : ChainNumber) : String → Prop
  | name {k : KnownNetwork} (known : k ∈ KnownNetwork.all) (chain : k.chain = n.chainId) :
      DenotedBy n k.name
  | number {sign digits : String} (signed : sign = "" ∨ sign = "+")
      (spelled : Decimal.Spells digits n.number) : DenotedBy n ("eip155:" ++ (sign ++ digits))

variable {n : ChainNumber} {s : String}

theorem isProper_chainId (n : ChainNumber) : n.chainId.IsProper := by
  have hns : ns ≠ "" ∧ ':' ∉ ns.toList := by decide
  exact ⟨hns.1, hns.2,
    (Decimal.digits?_eq_some_iff.1 (Decimal.digits?_toString n.number)).ne_empty⟩

theorem resolve?_number {sign digits : String} (h : Decimal.Spells digits n.number) :
    ChainId.resolve? ("eip155:" ++ (sign ++ digits)) = some ⟨ns, sign ++ digits⟩ := by
  have hcolon : ("eip155:" ++ (sign ++ digits)).toList.contains ':' = true := by
    rw [String.toList_append]
    simp
  have hns : ns ≠ "" ∧ ':' ∉ ns.toList := by decide
  rw [ChainId.resolve?, if_pos hcolon, ChainId.parse?_eq_some_iff]
  exact ⟨⟨hns.1, hns.2, fun he => h.ne_empty (String.append_eq_empty_iff.1 he).2⟩, rfl⟩

/-- **A text is resolved to a chain just if it denotes the chain.** -/
theorem exists_resolve?_iff :
    (∃ id, ChainId.resolve? s = some id ∧ ofChainId id = .ok n) ↔ n.DenotedBy s := by
  constructor
  · rintro ⟨id, hid, hn⟩
    rw [ChainId.resolve?] at hid
    split at hid
    · obtain ⟨hns, hword⟩ := ofChainId_eq_ok_iff.1 hn
      obtain ⟨-, sign, digits, hsign, hdigits, hreference⟩ := Decimal.word64?_eq_some_iff.1 hword
      rw [← ChainId.text_of_parse? hid, ChainId.text, hns, hreference]
      exact .number hsign hdigits
    · obtain ⟨k, hk, rfl, rfl⟩ := KnownNetwork.mem_of_chain? hid
      obtain ⟨m, hm⟩ := KnownNetwork.exists_chainId hk
      rw [hm, ofChainId_chainId] at hn
      cases hn
      exact .name hk hm
  · rintro (⟨hk, hchain⟩ | ⟨hsign, hdigits⟩)
    · exact ⟨_, KnownNetwork.resolve?_name hk, hchain ▸ ofChainId_chainId n⟩
    · refine ⟨_, resolve?_number hdigits, ofChainId_eq_ok_iff.2 ⟨rfl, ?_⟩⟩
      exact Decimal.word64?_eq_some_iff.2 ⟨n.isWord, _, _, hsign, hdigits, rfl⟩

theorem DenotedBy.unique {m : ChainNumber} (h : n.DenotedBy s) (h' : m.DenotedBy s) : n = m := by
  obtain ⟨id, hid, hn⟩ := exists_resolve?_iff.2 h
  obtain ⟨id', hid', hm⟩ := exists_resolve?_iff.2 h'
  cases hid.symm.trans hid'
  cases hn.symm.trans hm
  rfl

end ChainNumber

end Tollbooth
