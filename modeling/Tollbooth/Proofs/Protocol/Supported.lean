import Tollbooth.Proofs.Json.Container
import Tollbooth.Proofs.Json.Record
import Tollbooth.Protocol.Supported
/-!
# Kinds of payment that cannot be read

What a facilitator supports is listed in an object with up to three members.  A kind that cannot be
read is left out of the list, and this changes nothing about the others: every kind that can be read
on its own is in the list, in its place.  Everything else has to be as it should.

A list that is lenient with its items is easily too lenient, and so it is said on both sides what is
read: kinds that cannot be read are left out, and nothing else is.  Neither the order of the others
nor how often one of them is there is changed, and what is no list of kinds is not read as an empty
one.

* `Supported.KindsOf`, `Supported.ExtensionsOf`, `Supported.SignersOf` — what the members give.
* `Supported.ofValue_object_eq_ok_iff` — when an object is read, and as what.
* `unreadable_kinds_left_out` — which objects are read, whatever kinds they list.
-/

set_option autoImplicit false

namespace Tollbooth

open Json

namespace Supported

/-- The members of a record of what is supported. -/
def fields : List Field := [kindsSlot.field, extensionsSlot.field, signersSlot.field]

theorem apart_fields : Apart fields := by
  show ["kinds", "extensions", "signers"].Nodup
  decide

theorem nodup_fields : (fields.map (·.name)).Nodup := apart_fields.nodup_names

/-! ## What the members give

Each member is looked up by its name, and gives something if it is missing as well.  The object is
read if all three give something. -/

/-- The kinds that a member gives: those of its items that can be read on their own, in order. -/
inductive KindsOf : Option Value → List SupportedKind → Prop
  | absent : KindsOf none []
  | array (items : List Value) : KindsOf (some (.array items))
      (items.filterMap fun v => (SupportedKind.read.ofValue v).toOption)

/-- The extensions that a member gives. -/
inductive ExtensionsOf : Option Value → List String → Prop
  | absent : ExtensionsOf none []
  | array (names : List String) : ExtensionsOf (some (.array (names.map .string))) names

/-- The signers that a member gives. -/
inductive SignersOf : Option Value → List (String × List String) → Prop
  | absent : SignersOf none []
  | object (signers : List (String × List String)) :
      SignersOf (some (.object (signers.map fun e => (e.1, .array (e.2.map .string))))) signers

theorem readTexts_ofValue_eq_ok_iff {v : Value} {texts : List String} :
    (readList readString).ofValue v = .ok texts ↔ v = .array (texts.map .string) := by
  rw [readList_ofValue_eq_ok_iff]
  simp only [Reader.ofValue, readString_toDoc_eq_ok_iff, forall₂_eq_map_iff]
  constructor
  · rintro ⟨items, hv, rfl⟩
    exact hv
  · intro hv
    exact ⟨_, hv, rfl⟩

theorem finds_kinds_iff {v? : Option Value} {kinds : List SupportedKind} :
    kindsSlot.Finds v? kinds ↔ KindsOf v? kinds := by
  constructor
  · rintro (⟨⟨⟩⟩ | hread)
    · exact .absent
    · obtain ⟨items, rfl, rfl⟩ := readListLenient_ofValue_eq_ok_iff.1 hread
      exact .array items
  · rintro (_ | items)
    · exact .absent rfl
    · exact .present (readListLenient_ofValue_eq_ok_iff.2 ⟨items, rfl, rfl⟩)

theorem finds_extensions_iff {v? : Option Value} {extensions : List String} :
    extensionsSlot.Finds v? extensions ↔ ExtensionsOf v? extensions := by
  constructor
  · rintro (⟨⟨⟩⟩ | hread)
    · exact .absent
    · obtain rfl := readTexts_ofValue_eq_ok_iff.1 hread
      exact .array extensions
  · rintro (_ | _)
    · exact .absent rfl
    · exact .present (readTexts_ofValue_eq_ok_iff.2 rfl)

/-- A member that is itself in order gives its signers. -/
theorem finds_signers_iff {v? : Option Value} {signers : List (String × List String)}
    (hv : ∀ v ∈ v?, v.InOrder) : signersSlot.Finds v? signers ↔ SignersOf v? signers := by
  have hmembers : ∀ {members : List (String × Value)}, (Value.object members).InOrder →
      ((readMap (readList readString)).ofValue (.object members) = .ok signers ↔
        members = signers.map fun e => (e.1, .array (e.2.map .string))) := by
    intro members hmembers
    rw [readMap_ofValue_eq_ok_iff hmembers, ← forall₂_eq_map_iff]
    simp only [readTexts_ofValue_eq_ok_iff, Prod.ext_iff]
  constructor
  · rintro (⟨⟨⟩⟩ | @⟨v, _, hread⟩)
    · exact .absent
    · cases v with
      | object members =>
        obtain rfl := (hmembers (hv _ rfl)).1 hread
        exact .object signers
      | null | bool | number | string | array => cases hread
  · rintro (_ | _)
    · exact .absent rfl
    · exact .present ((hmembers (hv _ rfl)).2 rfl)

/-- **When an object is read, and as what.** -/
theorem ofValue_object_eq_ok_iff {members : List (String × Value)} {s : Supported}
    (h : (Value.object members).InOrder) :
    read.ofValue (.object members) = .ok s ↔
      KindsOf (Value.lookupMember "kinds" members) s.kinds ∧
        ExtensionsOf (Value.lookupMember "extensions" members) s.extensions ∧
        SignersOf (Value.lookupMember "signers" members) s.signers := by
  have hsigners : ∀ v ∈ Value.lookupMember "signers" members, v.InOrder :=
    fun v hv => h.of_lookupMember hv
  rw [← finds_kinds_iff, ← finds_extensions_iff, ← finds_signers_iff hsigners]
  have htakes : ∀ {α : Type} {slot : Slot α} {a : α}, slot.field ∈ fields → slot.alias? = none →
      (slot.Takes .value (valuesOf slot.name (gather fields (Value.toMembers members))) a ↔
        slot.Finds (Value.lookupMember slot.name members) a) :=
    fun hslot hname => Slot.takes_gather_iff_finds apart_fields hslot hname h
  have hkinds := @htakes _ kindsSlot s.kinds (by simp [fields]) rfl
  have hextensions := @htakes _ extensionsSlot s.extensions (by simp [fields]) rfl
  have hsigners := @htakes _ signersSlot s.signers (by simp [fields]) rfl
  refine (readRecord_eq_ok_iff nodup_fields).trans ⟨?_, ?_⟩
  · rintro ⟨⟨site, found⟩, ⟨⟩, hlays, hfits, h⟩
    obtain rfl := lays_object.1 hlays
    obtain ⟨hkindsFits, hextensionsFits, hsignersFits, -⟩ :=
      by simpa only [fields, List.forall_mem_cons] using hfits
    obtain ⟨kinds, hk, h⟩ := bind_eq_ok.1 h
    obtain ⟨extensions, he, h⟩ := bind_eq_ok.1 h
    obtain ⟨signers, hs, h⟩ := bind_eq_ok.1 h
    cases h
    exact ⟨hkinds.1 ((Record.get_eq_ok_iff hkindsFits.1).1 hk),
      hextensions.1 ((Record.get_eq_ok_iff hextensionsFits.1).1 he),
      hsigners.1 ((Record.get_eq_ok_iff hsignersFits.1).1 hs)⟩
  · rintro ⟨hk, he, hs⟩
    have hk := hkinds.2 hk
    have he := hextensions.2 he
    have hs := hsigners.2 hs
    refine ⟨⟨.value, _⟩, rfl, lays_object.2 rfl, ?_, bind_eq_ok.2 ⟨_, hk.get,
      bind_eq_ok.2 ⟨_, he.get, bind_eq_ok.2 ⟨_, hs.get, rfl⟩⟩⟩⟩
    simp only [fields, List.forall_mem_cons]
    exact ⟨hk.fits, he.fits, hs.fits, nofun⟩

end Supported

open Supported (KindsOf ExtensionsOf SignersOf)

/-- **Kinds that cannot be read are left out, and nothing else is.**  An object is read as what a
facilitator supports just if its members give kinds, extensions and signers.  An array gives kinds
whatever is in it: those of its items that can be read on their own, in their order and as often as
they are there.  If the kinds are anything else, the object is not read.  Every value that was read
is in order (`inOrder_of_readGeneric`). -/
theorem unreadable_kinds_left_out {members : List (String × Value)}
    (h : (Value.object members).InOrder) :
    (∀ s, Supported.read.ofValue (.object members) = .ok s ↔
      KindsOf (Value.lookupMember "kinds" members) s.kinds ∧
        ExtensionsOf (Value.lookupMember "extensions" members) s.extensions ∧
        SignersOf (Value.lookupMember "signers" members) s.signers) ∧
    ∀ v, Value.lookupMember "kinds" members = some v → (∀ items, v ≠ .array items) →
      ∃ fault, Supported.read.ofValue (.object members) = .error fault := by
  refine ⟨fun s => Supported.ofValue_object_eq_ok_iff h, fun v hv hno => ?_⟩
  cases hread : Supported.read.ofValue (.object members) with
  | error fault => exact ⟨fault, rfl⟩
  | ok s =>
    obtain ⟨hkinds, -⟩ := (Supported.ofValue_object_eq_ok_iff h).1 hread
    generalize s.kinds = kinds at hkinds
    rw [hv] at hkinds
    cases hkinds with
    | array items => exact (hno items rfl).elim

/-- A list of one kind that can be read, twice, with one between that cannot. -/
def mixedKinds : List (String × Value) :=
  let kind : Value := .object [("network", .string "n"), ("scheme", .string "exact"),
    ("x402Version", .number (.natural 2))]
  [("kinds", .array [kind, .object [("scheme", .string "exact")], kind])]

theorem inOrder_mixedKinds : (Value.object mixedKinds).InOrder := by
  refine .object (by decide) fun m hm => ?_
  obtain rfl := List.mem_singleton.1 hm
  refine .array fun v hv => ?_
  simp only [List.mem_cons, List.not_mem_nil, or_false] at hv
  obtain rfl | rfl | rfl := hv
  all_goals
    refine .object (by decide) fun m hm => ?_
    simp only [List.mem_cons, List.not_mem_nil, or_false] at hm
  · obtain rfl | rfl | rfl := hm <;> constructor
  · obtain rfl := hm
    constructor
  · obtain rfl | rfl | rfl := hm <;> constructor

/-- The kind that can be read is in the list twice. -/
theorem unreadable_kinds_left_out_mixed : (Value.object mixedKinds).InOrder ∧
    Supported.read.ofValue (.object mixedKinds) =
      .ok ⟨[⟨2, "exact", "n", none⟩, ⟨2, "exact", "n", none⟩], [], []⟩ :=
  ⟨inOrder_mixedKinds, ((unreadable_kinds_left_out inOrder_mixedKinds).1 _).2
    ⟨.array _, .absent, .absent⟩⟩

end Tollbooth
