import Tollbooth.Exact.Payload
import Tollbooth.Proofs.Json.Record
/-!
# What the extra parameters of an offer name

The extra parameters of an offer are any value.  They name the signing domain of a token as far as
they are an object with a text under `name` or `version`.

They are read as one record, so that a text is lost beside another member that is neither a text nor
null; and a record may be given as an array, so that an array is taken by its places.

What the parameters give and what is read of them are defined apart from each other.  The first
looks only at the members that are meant; the second is what a record of two members that may both
be left out comes to.  They differ in three ways, and `Misread` has them as its constructors: a text
that is lost because of its neighbour, once for each of the two, and an array that is taken for an
object.

* `DomainNames.ofValue_eq_ok_iff` — which values are read, and as what.
* `DomainNames.Given` — the names that extra parameters give, each by its own member.
* `DomainNames.Misread` — values of which something else is read, and what.
* `DomainNames.given_ofExtra_iff` — the names that are given are read, but for these values.
-/

set_option autoImplicit false

namespace Tollbooth.DomainNames

open Json

/-! ## What is read

A record that cannot be read gives no names at all, without an error. -/

/-- The members of a record of names. -/
def fields : List Field := [nameSlot.field, versionSlot.field]

theorem apart_fields : Apart fields := by
  show ["name", "version"].Nodup
  decide

theorem nodup_fields : (fields.map (·.name)).Nodup := apart_fields.nodup_names

/-- Names are read of what is there for them. -/
theorem read_eq_ok_iff {site : Site} {d : Doc} {n : DomainNames} :
    read site d = .ok n ↔ ∃ record : Record, site.enter = .ok record.site ∧
      Lays fields d record.found ∧
      nameSlot.Takes record.site (valuesOf "name" record.found) n.name ∧
      versionSlot.Takes record.site (valuesOf "version" record.found) n.version := by
  refine (readRecord_eq_ok_iff nodup_fields).trans (exists_congr fun record => ?_)
  refine and_congr_right fun _ => and_congr_right fun _ => ⟨?_, ?_⟩
  · rintro ⟨hfits, h⟩
    obtain ⟨hnameFits, hversionFits, -⟩ := by simpa only [fields, List.forall_mem_cons] using hfits
    obtain ⟨name, hname, h⟩ := bind_eq_ok.1 h
    obtain ⟨version, hversion, h⟩ := bind_eq_ok.1 h
    cases h
    exact ⟨(Record.get_eq_ok_iff hnameFits.1).1 hname,
      (Record.get_eq_ok_iff hversionFits.1).1 hversion⟩
  · rintro ⟨hname, hversion⟩
    exact ⟨List.forall_mem_cons.2 ⟨hname.fits, List.forall_mem_singleton.2 hversion.fits⟩,
      bind_eq_ok.2 ⟨_, hname.get, bind_eq_ok.2 ⟨_, hversion.get, rfl⟩⟩⟩

/-- The names that can be read of a value. -/
inductive Says : Value → DomainNames → Prop
  | object {members : List (String × Value)} {n : DomainNames}
      (name : OneText (nameSlot.field.valuesIn members) n.name)
      (version : OneText (versionSlot.field.valuesIn members) n.version) :
      Says (.object members) n
  /-- The items of an array stand for the name and the version. -/
  | array {items : List Value} {n : DomainNames} (two : items.length ≤ 2)
      (name : OneText items[0]?.toList n.name) (version : OneText items[1]?.toList n.version) :
      Says (.array items) n

/-- **Which values are read**, and as what. -/
theorem ofValue_eq_ok_iff {v : Value} {n : DomainNames} :
    read.ofValue v = .ok n ↔ Says v n := by
  rw [Reader.ofValue, read_eq_ok_iff]
  cases v with
  | null | bool | number | string =>
    constructor
    · rintro ⟨_, -, ⟨⟩, -⟩
    · rintro ⟨⟩
  | object members =>
    have hnameIff :
        nameSlot.Takes .value (valuesOf "name" (gather fields (Value.toMembers members))) n.name ↔
          OneText (nameSlot.field.valuesIn members) n.name :=
      takes_gather rfl rfl apart_fields (by simp [fields])
    have hversionIff :
        versionSlot.Takes .value (valuesOf "version" (gather fields (Value.toMembers members)))
            n.version ↔
          OneText (versionSlot.field.valuesIn members) n.version :=
      takes_gather rfl rfl apart_fields (by simp [fields])
    constructor
    · rintro ⟨⟨site, found⟩, ⟨⟩, hlays, hname, hversion⟩
      obtain rfl := lays_object.1 hlays
      exact .object (hnameIff.1 hname) (hversionIff.1 hversion)
    · rintro ⟨hname, hversion⟩
      exact ⟨⟨.value, _⟩, rfl, lays_object.2 rfl, hnameIff.2 hname, hversionIff.2 hversion⟩
  | array items =>
    have hnameIff :
        nameSlot.Takes .value (valuesOf "name" (arrange fields (items.map Value.toDoc))) n.name ↔
          OneText items[0]?.toList n.name :=
      takes_arrange rfl rfl nodup_fields rfl
    have hversionIff :
        versionSlot.Takes .value (valuesOf "version" (arrange fields (items.map Value.toDoc)))
            n.version ↔
          OneText items[1]?.toList n.version :=
      takes_arrange rfl rfl nodup_fields rfl
    have homissible : ∀ field ∈ fields, field.omissible = true :=
      List.forall_mem_cons.2 ⟨rfl, List.forall_mem_singleton.2 rfl⟩
    constructor
    · rintro ⟨⟨site, found⟩, ⟨⟩, hlays, hname, hversion⟩
      obtain ⟨htwo, -, rfl⟩ := lays_array.1 hlays
      exact .array htwo (hnameIff.1 hname) (hversionIff.1 hversion)
    · intro h
      cases h with
      | array htwo hname hversion =>
        have hlays := lays_array.2
          ⟨htwo, fun field hfield => homissible field (List.mem_of_mem_drop hfield), rfl⟩
        exact ⟨⟨.value, _⟩, rfl, hlays, hnameIff.2 hname, hversionIff.2 hversion⟩

/-! ## What is given

An object in order has each key once, so that what is looked up under a key is all there is.  The
readers see all members of a name, and on such objects this is the same. -/

/-- The names that extra parameters give: they are an object, and each name is a text in it. -/
structure Given (extra : Option Value) (n : DomainNames) : Prop where
  name : ∀ s, n.name = some s ↔ ∃ members, extra = some (.object members) ∧
    Value.lookupMember "name" members = some (.string s)
  version : ∀ s, n.version = some s ↔ ∃ members, extra = some (.object members) ∧
    Value.lookupMember "version" members = some (.string s)

/-- Something else is read of a value than it gives, and what. -/
inductive Misread : Value → DomainNames → Prop
  /-- A name is lost beside a version that is neither a text nor null. -/
  | name {members : List (String × Value)} {s : String}
      (lost : Value.lookupMember "name" members = some (.string s))
      (beside : ∀ s?, ¬ OneText (Value.lookupMember "version" members).toList s?) :
      Misread (.object members) none
  /-- A version is lost beside a name that is neither a text nor null. -/
  | version {members : List (String × Value)} {s : String}
      (lost : Value.lookupMember "version" members = some (.string s))
      (beside : ∀ s?, ¬ OneText (Value.lookupMember "name" members).toList s?) :
      Misread (.object members) none
  /-- An array of a name and a version is taken for an object of them. -/
  | array {items : List Value} {n : DomainNames} (two : items.length ≤ 2)
      (name : OneText items[0]?.toList n.name) (version : OneText items[1]?.toList n.version)
      (some : n ≠ none) : Misread (.array items) n

theorem Says.ofExtra_eq {v : Value} {n : DomainNames} (h : Says v n) : ofExtra (some v) = n := by
  rw [ofExtra, Option.bind_some, ofValue_eq_ok_iff.2 h]
  rfl

theorem ofExtra_eq_none {v : Value} (h : ∀ n, ¬ Says v n) : ofExtra (some v) = none := by
  rw [ofExtra, Option.bind_some]
  cases hread : read.ofValue v with
  | error fault => rfl
  | ok n => exact (h n (ofValue_eq_ok_iff.1 hread)).elim

section Object

variable {members : List (String × Value)} {n : DomainNames}

/-- Of an object in order the names are read of what is looked up. -/
theorem says_object_iff (h : (Value.object members).InOrder) :
    Says (.object members) n ↔
      OneText (Value.lookupMember "name" members).toList n.name ∧
        OneText (Value.lookupMember "version" members).toList n.version := by
  have hname := Field.valuesIn_eq_lookupMember (show nameSlot.field.alias? = .none from rfl) h.nodup
  have hversion :=
    Field.valuesIn_eq_lookupMember (show versionSlot.field.alias? = .none from rfl) h.nodup
  constructor
  · rintro ⟨hn, hv⟩
    exact ⟨hname ▸ hn, hversion ▸ hv⟩
  · rintro ⟨hn, hv⟩
    exact .object (hname.symm ▸ hn) (hversion.symm ▸ hv)

theorem given_object_iff : Given (some (.object members)) n ↔
    (∀ s, n.name = some s ↔ Value.lookupMember "name" members = some (.string s)) ∧
      ∀ s, n.version = some s ↔ Value.lookupMember "version" members = some (.string s) := by
  constructor
  · rintro ⟨hname, hversion⟩
    exact ⟨by simpa using hname, by simpa using hversion⟩
  · rintro ⟨hname, hversion⟩
    exact ⟨by simpa using hname, by simpa using hversion⟩

end Object

/-- What is no object gives no names. -/
theorem given_iff_eq_none {extra : Option Value} {n : DomainNames}
    (h : ∀ members, extra ≠ some (.object members)) : Given extra n ↔ n = none := by
  constructor
  · rintro ⟨hname, hversion⟩
    obtain ⟨name, version⟩ := n
    cases name with
    | some s =>
      obtain ⟨members, hextra, -⟩ := (hname s).1 rfl
      exact (h members hextra).elim
    | none =>
      cases version with
      | some s =>
        obtain ⟨members, hextra, -⟩ := (hversion s).1 rfl
        exact (h members hextra).elim
      | none => rfl
  · rintro rfl
    exact ⟨fun s => ⟨nofun, fun ⟨members, hextra, _⟩ => (h members hextra).elim⟩,
      fun s => ⟨nofun, fun ⟨members, hextra, _⟩ => (h members hextra).elim⟩⟩

/-- A value that is misread is read as something else than it gives. -/
theorem Misread.ofExtra {v : Value} {n : DomainNames} (h : Misread v n) (hv : v.InOrder) :
    DomainNames.ofExtra (some v) = n ∧ ¬ Given (some v) n := by
  cases h with
  | name hlost hbeside =>
    refine ⟨ofExtra_eq_none fun n hn => hbeside _ ((says_object_iff hv).1 hn).2, fun h => ?_⟩
    cases ((given_object_iff.1 h).1 _).2 hlost
  | version hlost hbeside =>
    refine ⟨ofExtra_eq_none fun n hn => hbeside _ ((says_object_iff hv).1 hn).1, fun h => ?_⟩
    cases ((given_object_iff.1 h).2 _).2 hlost
  | array htwo hname hversion hsome =>
    exact ⟨(Says.array htwo hname hversion).ofExtra_eq,
      fun h => hsome ((given_iff_eq_none (by simp)).1 h)⟩

/-- Of every other value what it gives is read. -/
theorem given_ofExtra {v : Value} (hv : v.InOrder) (h : ∀ n, ¬ Misread v n) :
    Given (some v) (ofExtra (some v)) := by
  by_cases hsays : ∃ n, Says v n
  · obtain ⟨n, hn⟩ := hsays
    rw [hn.ofExtra_eq]
    cases hn with
    | object =>
      rename_i hname hversion
      obtain ⟨hname, hversion⟩ := (says_object_iff hv).1 (.object hname hversion)
      exact given_object_iff.2 ⟨fun s => hname.eq_some_iff, fun s => hversion.eq_some_iff⟩
    | array htwo hname hversion =>
      refine (given_iff_eq_none (by simp)).2 (Decidable.by_contra fun hsome => ?_)
      exact h n (.array htwo hname hversion hsome)
  · rw [ofExtra_eq_none fun n hn => hsays ⟨n, hn⟩]
    cases v with
    | null | bool | number | string | array => exact (given_iff_eq_none (by simp)).2 rfl
    | object members =>
      -- A text would be lost, so what is beside it would be one as well, and both be read.
      refine given_object_iff.2 ⟨fun s => ⟨nofun, fun hlost => ?_⟩, fun s => ⟨nofun, fun hlost => ?_⟩⟩
      · refine (h _ (.name hlost fun s? hversion => hsays ⟨⟨some s, s?⟩, ?_⟩)).elim
        exact (says_object_iff hv).2 ⟨by rw [hlost]; exact .text s, hversion⟩
      · refine (h _ (.version hlost fun s? hname => hsays ⟨⟨s?, some s⟩, ?_⟩)).elim
        exact (says_object_iff hv).2 ⟨hname, by rw [hlost]; exact .text s⟩

/-- **The names that extra parameters give are read, unless they are misread**; and what is read
then.  Every value that was read is in order (`inOrder_of_readGeneric`). -/
theorem given_ofExtra_iff {extra : Option Value} (h : ∀ v ∈ extra, v.InOrder) :
    (Given extra (ofExtra extra) ↔ ∀ v ∈ extra, ∀ n, ¬ Misread v n) ∧
      ∀ v ∈ extra, ∀ n, Misread v n → ofExtra extra = n := by
  cases extra with
  | none => exact ⟨iff_of_true ((given_iff_eq_none (by simp)).2 rfl) (by simp), by simp⟩
  | some v =>
    have hv := h v rfl
    refine ⟨⟨fun hgiven => ?_, fun hread => given_ofExtra hv (hread v rfl)⟩, ?_⟩
    · rintro _ ⟨⟩ n hmisread
      obtain ⟨heq, hlost⟩ := hmisread.ofExtra hv
      exact hlost (heq ▸ hgiven)
    · rintro _ ⟨⟩ n hmisread
      exact (hmisread.ofExtra hv).1

/-- Extra parameters with a text for a name and a number for a version. -/
def numberedExtra : Value :=
  .object [("name", .string "USDC"), ("version", .number (.natural 2))]

theorem inOrder_numberedExtra : numberedExtra.InOrder := by
  refine .object (by decide) fun m hm => ?_
  simp only [List.mem_cons, List.not_mem_nil, or_false] at hm
  obtain rfl | rfl := hm
  · exact .string _
  · exact .number _

theorem misread_numberedExtra : Misread numberedExtra none := by
  refine .name (s := "USDC") rfl fun s? hversion => ?_
  have hnumber : OneText [.number (.natural 2)] s? := hversion
  cases hnumber

/-- The name is lost beside a version that is a number. -/
theorem given_ofExtra_iff_numbered :
    (∀ v ∈ some numberedExtra, v.InOrder) ∧ ofExtra (some numberedExtra) = none := by
  have h : ∀ v ∈ some numberedExtra, v.InOrder := by
    rintro _ ⟨⟩
    exact inOrder_numberedExtra
  exact ⟨h, (given_ofExtra_iff h).2 _ rfl _ misread_numberedExtra⟩

/-- The names that extra parameters give are not always read. -/
theorem extra_name_lost : ¬ ∀ extra : Option Value, (∀ v ∈ extra, v.InOrder) →
    Given extra (ofExtra extra) := by
  intro h
  have hgiven := h (some numberedExtra) fun v hv => Option.some.inj hv ▸ inOrder_numberedExtra
  obtain ⟨heq, hlost⟩ := misread_numberedExtra.ofExtra inOrder_numberedExtra
  exact hlost (heq ▸ hgiven)

end Tollbooth.DomainNames
