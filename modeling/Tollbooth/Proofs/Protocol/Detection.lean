import Tollbooth.Proofs.Json.Record
import Tollbooth.Proofs.Json.Sound
import Tollbooth.Protocol.Version
/-!
# Which payloads are told to be of a version

A payload that is one JSON value may show signs of its version: its number, an accepted offer, a
scheme and a network.  The number decides, and without one the other signs.

A payload should be an object, but an array is taken for one, its items for the signs in their
order.  And a number that is no natural number counts as none, while a text in an object may count
as a number.

What should be detected is said without any reader: an object with the number of a version under one
key, or an object without a number and with the shape of a version.  What is detected is described
by the signs that a value shows, and these are read as one record.  Everything in which the two
differ comes from that: a record may be given as an array, a number that is not natural is passed
over, and an object may be read as a number if there is a text in it that is one.

* `Doc.Shows` — the signs that a value shows.
* `VersionSigns.Shape` — what they tell without a number.
* `ProtocolVersion.Recognised` — a payload of a version, as it should be.
* `ProtocolVersion.detect_eq_ok_iff` — which payloads are detected; all of them are recognised, but
  for those that `Slips`.
-/

set_option autoImplicit false

namespace Tollbooth

open Json

/-! ## Signs

The signs are documents and not yet values.  Only the number is looked into; for the others it is
enough that something is there. -/

/-- The members of a value that tell its version, as far as they are there. -/
structure VersionSigns where
  version : Option Doc
  accepted : Option Doc
  scheme : Option Doc
  network : Option Doc

/-- The signs that a value shows.  An object shows them under their names, each once at most; an
array shows them in their order, as many as it has. -/
inductive Json.Doc.Shows : Doc → VersionSigns → Prop
  | object {members : Members} {signs : VersionSigns}
      (keys : ∀ e ∈ members.entries, (unescape? e.1).isSome = true)
      (version : valuesAt "x402Version" members.entries = signs.version.toList)
      (accepted : valuesAt "accepted" members.entries = signs.accepted.toList)
      (scheme : valuesAt "scheme" members.entries = signs.scheme.toList)
      (network : valuesAt "network" members.entries = signs.network.toList) :
      Shows (.object members) signs
  | array {items : Items} (length : items.values.length ≤ 4) :
      Shows (.array items)
        ⟨items.values[0]?, items.values[1]?, items.values[2]?, items.values[3]?⟩

/-- Something is there, and it is not null. -/
def IsPresent (d? : Option Doc) : Prop := ∃ d, d? = some d ∧ d ≠ .null

/-- The version that the signs tell without a number. -/
def VersionSigns.Shape (signs : VersionSigns) : ProtocolVersion → Prop
  | .v1 => ¬ IsPresent signs.accepted ∧ IsPresent signs.scheme ∧ IsPresent signs.network
  | .v2 => IsPresent signs.accepted

/-! ## Reading

The record has four members, all of which may be left out, and is read of whatever is laid out for
it. -/

namespace VersionHints

/-- The members of a record of hints. -/
def fields : List Field :=
  [versionSlot.field, acceptedSlot.field, schemeSlot.field, networkSlot.field]

theorem apart_fields : Apart fields := by
  show ["x402Version", "accepted", "scheme", "network"].Nodup
  decide

theorem nodup_fields : (fields.map (·.name)).Nodup := apart_fields.nodup_names

/-- Hints are read of what is there for them. -/
theorem read_eq_ok_iff {site : Site} {d : Doc} {hints : VersionHints} :
    read site d = .ok hints ↔ ∃ record : Record, site.enter = .ok record.site ∧
      Lays fields d record.found ∧
      versionSlot.Takes record.site (valuesOf "x402Version" record.found) hints.version ∧
      acceptedSlot.Takes record.site (valuesOf "accepted" record.found) hints.accepted ∧
      schemeSlot.Takes record.site (valuesOf "scheme" record.found) hints.scheme ∧
      networkSlot.Takes record.site (valuesOf "network" record.found) hints.network := by
  refine (readRecord_eq_ok_iff nodup_fields).trans (exists_congr fun record => ?_)
  refine and_congr_right fun _ => and_congr_right fun _ => ⟨?_, ?_⟩
  · rintro ⟨hfits, h⟩
    simp only [fields, List.forall_mem_cons] at hfits
    obtain ⟨hversionFits, hacceptedFits, hschemeFits, hnetworkFits, -⟩ := hfits
    obtain ⟨version, hversion, h⟩ := bind_eq_ok.1 h
    obtain ⟨accepted, haccepted, h⟩ := bind_eq_ok.1 h
    obtain ⟨scheme, hscheme, h⟩ := bind_eq_ok.1 h
    obtain ⟨network, hnetwork, h⟩ := bind_eq_ok.1 h
    cases h
    exact ⟨(Record.get_eq_ok_iff hversionFits.1).1 hversion,
      (Record.get_eq_ok_iff hacceptedFits.1).1 haccepted,
      (Record.get_eq_ok_iff hschemeFits.1).1 hscheme,
      (Record.get_eq_ok_iff hnetworkFits.1).1 hnetwork⟩
  · rintro ⟨hversion, haccepted, hscheme, hnetwork⟩
    constructor
    · simp only [fields, List.forall_mem_cons]
      exact ⟨hversion.fits, haccepted.fits, hscheme.fits, hnetwork.fits, nofun⟩
    · exact bind_eq_ok.2 ⟨_, hversion.get, bind_eq_ok.2 ⟨_, haccepted.get, bind_eq_ok.2
        ⟨_, hscheme.get, bind_eq_ok.2 ⟨_, hnetwork.get, rfl⟩⟩⟩⟩

theorem readPresence_eq_ok_iff {site : Site} {d : Doc} {b : Bool} :
    readPresence site d = .ok b ↔ d.complete = true ∧ (b = true ↔ d ≠ .null) := by
  have hmap : readPresence site d = .ok b ↔
      ∃ u, readOption readSkipped site d = .ok u ∧ u.isSome = b := map_eq_ok
  rw [hmap]
  constructor
  · rintro ⟨u, hu, rfl⟩
    obtain ⟨rfl, rfl⟩ | ⟨hnull, ⟨⟩, hskip, rfl⟩ := readOption_eq_ok.1 hu
    · exact ⟨rfl, iff_of_false nofun fun h => h rfl⟩
    · exact ⟨readSkipped_eq_ok.1 hskip, iff_of_true rfl hnull⟩
  · rintro ⟨hcomplete, hb⟩
    cases b with
    | false =>
      have hnull : d = .null := by_contra fun hnull => nomatch hb.2 hnull
      exact ⟨none, readOption_eq_ok.2 (.inl ⟨hnull, rfl⟩), rfl⟩
    | true =>
      exact ⟨some (), readOption_eq_ok.2 (.inr ⟨hb.1 rfl, (), readSkipped_eq_ok.2 hcomplete, rfl⟩),
        rfl⟩

/-- A sign of which only the presence counts is read of any value. -/
theorem takes_presence_iff {name : String} {site : Site} {d? : Option Doc} {b : Bool}
    (hd : ∀ d ∈ d?, d.complete = true) :
    (Slot.defaulted name readPresence false).Takes site d?.toList b ↔ (b = true ↔ IsPresent d?) := by
  cases d? with
  | none =>
    constructor
    · rintro ⟨⟨⟩⟩
      exact iff_of_false nofun (by rintro ⟨d, ⟨⟩, -⟩)
    · intro hb
      cases b with
      | false => exact .absent rfl
      | true => obtain ⟨d, ⟨⟩, -⟩ := hb.1 rfl
  | some d =>
    have hpresent : IsPresent (some d) ↔ d ≠ .null :=
      ⟨fun ⟨d', hd', hnull⟩ => Option.some.inj hd' ▸ hnull, fun hnull => ⟨d, rfl, hnull⟩⟩
    rw [hpresent]
    constructor
    · intro h
      cases h with
      | present hread => exact (readPresence_eq_ok_iff.1 hread).2
    · intro hb
      exact .present (readPresence_eq_ok_iff.2 ⟨hd d rfl, hb⟩)

/-- Hints can only be read of a value that is broken off nowhere. -/
theorem complete_of_read {site : Site} {d : Doc} {hints : VersionHints}
    (h : read site d = .ok hints) : d.complete = true := by
  obtain ⟨record, -, hlays, hfits, -⟩ := (readRecord_eq_ok_iff nodup_fields).1 h
  have hpresence : ∀ {d : Doc}, (fun _ => ()) <$> readPresence record.site d = .ok () →
      d.complete = true := by
    intro d hcheck
    obtain ⟨b, hb, -⟩ := map_eq_ok.1 hcheck
    exact (readPresence_eq_ok_iff.1 hb).1
  refine hlays.complete nodup_fields hfits fun field hfield d hcheck => ?_
  simp only [fields, List.mem_cons, List.not_mem_nil, or_false] at hfield
  obtain rfl | rfl | rfl | rfl := hfield
  · obtain ⟨version, hversion, -⟩ := map_eq_ok.1 hcheck
    obtain ⟨rfl, -⟩ | ⟨-, v, hv, -⟩ := readOption_eq_ok.1 hversion
    · rfl
    · exact complete_of_readGeneric hv
  · exact hpresence hcheck
  · exact hpresence hcheck
  · exact hpresence hcheck

end VersionHints

/-! ## What a value shows

An object shows what stands under the four names.  It shows nothing at all if one of them is there
twice, for then there is no single value.  An array shows its items in the order of the fields. -/

/-- The signs are what was found for the hints. -/
structure VersionSigns.AreIn (signs : VersionSigns) (found : List (String × Doc)) : Prop where
  version : valuesOf "x402Version" found = signs.version.toList
  accepted : valuesOf "accepted" found = signs.accepted.toList
  scheme : valuesOf "scheme" found = signs.scheme.toList
  network : valuesOf "network" found = signs.network.toList

theorem toList_inj {α : Type} {a b : Option α} : a.toList = b.toList ↔ a = b := by
  cases a <;> cases b <;> simp

theorem shows_object_iff {members : Members} {signs : VersionSigns}
    (hd : members.complete = true) :
    (Doc.object members).Shows signs ↔ ∃ found, Lays VersionHints.fields (.object members) found ∧
      signs.AreIn found := by
  obtain ⟨hclosed, hentries⟩ := Members.complete_iff.1 hd
  have hvalues : ∀ field ∈ VersionHints.fields, field.alias? = none →
      valuesOf field.name (gather VersionHints.fields members.entries) =
        valuesAt field.name members.entries := fun field hfield halias =>
    (valuesOf_gather VersionHints.apart_fields hfield _).trans (field.among_eq_valuesAt halias _)
  have hversion := hvalues VersionHints.versionSlot.field (by simp [VersionHints.fields]) rfl
  have haccepted := hvalues VersionHints.acceptedSlot.field (by simp [VersionHints.fields]) rfl
  have hscheme := hvalues VersionHints.schemeSlot.field (by simp [VersionHints.fields]) rfl
  have hnetwork := hvalues VersionHints.networkSlot.field (by simp [VersionHints.fields]) rfl
  constructor
  · intro h
    cases h with
    | object hkeys hv ha hs hn =>
      refine ⟨_, .object hclosed fun e he => ?_, ⟨hversion.trans hv, haccepted.trans ha,
        hscheme.trans hs, hnetwork.trans hn⟩⟩
      obtain ⟨key, hkey⟩ := Option.isSome_iff_exists.1 (hkeys e he)
      exact ⟨key, hkey, fun _ => hentries e he⟩
  · rintro ⟨found, hlays, hv, ha, hs, hn⟩
    cases hlays with
    | object _ hpasses =>
      refine .object (fun e he => ?_) (hversion.symm.trans hv) (haccepted.symm.trans ha)
        (hscheme.symm.trans hs) (hnetwork.symm.trans hn)
      obtain ⟨key, hkey, -⟩ := hpasses e he
      exact Option.isSome_iff_exists.2 ⟨key, hkey⟩

theorem shows_array_iff {items : Items} {signs : VersionSigns} (hd : items.complete = true) :
    (Doc.array items).Shows signs ↔ ∃ found, Lays VersionHints.fields (.array items) found ∧
      signs.AreIn found := by
  obtain ⟨hclosed, -⟩ := Items.complete_iff.1 hd
  have homissible : ∀ field ∈ VersionHints.fields, field.omissible = true := by
    simp only [VersionHints.fields, List.forall_mem_cons]
    exact ⟨rfl, rfl, rfl, rfl, nofun⟩
  have hversion := valuesOf_arrange VersionHints.nodup_fields (i := 0) rfl items.values
  have haccepted := valuesOf_arrange VersionHints.nodup_fields (i := 1) rfl items.values
  have hscheme := valuesOf_arrange VersionHints.nodup_fields (i := 2) rfl items.values
  have hnetwork := valuesOf_arrange VersionHints.nodup_fields (i := 3) rfl items.values
  constructor
  · intro h
    cases h with
    | array hlength =>
      exact ⟨_, .array hclosed hlength fun field hfield =>
        homissible field (List.mem_of_mem_drop hfield), ⟨hversion, haccepted, hscheme, hnetwork⟩⟩
  · rintro ⟨found, hlays, hv, ha, hs, hn⟩
    obtain ⟨version, accepted, scheme, network⟩ := signs
    cases hlays with
    | array _ hlength =>
      obtain rfl := toList_inj.1 (hversion.symm.trans hv)
      obtain rfl := toList_inj.1 (haccepted.symm.trans ha)
      obtain rfl := toList_inj.1 (hscheme.symm.trans hs)
      obtain rfl := toList_inj.1 (hnetwork.symm.trans hn)
      exact .array hlength

/-- What a value lays out for the hints are the signs that it shows. -/
theorem shows_iff {d : Doc} {signs : VersionSigns} (hd : d.complete = true) :
    d.Shows signs ↔ ∃ found, Lays VersionHints.fields d found ∧
      signs.AreIn found := by
  cases d with
  | broken | null | bool | number | string =>
    constructor
    · intro h
      cases h
    · rintro ⟨_, ⟨⟩, -⟩
  | object members => exact shows_object_iff hd
  | array items => exact shows_array_iff hd

/-! ## Detection

The chain of equivalences goes from the text to the value that stands in it, from there to the hints
that are read, and from the hints to the signs.  At the end the values that slip through are split
off: if nothing was taken for what it is not, the payload is recognised. -/

/-- The version that a payload gives, as a generic value: null is none. -/
inductive GivesVersion : Option Doc → Option Value → Prop
  | absent : GivesVersion none none
  | null : GivesVersion (some .null) none
  | value {site : Site} {d : Doc} {v : Value} (inner : Site.start.enter = .ok site)
      (there : d ≠ .null) (reads : readGeneric site d = .ok v) : GivesVersion (some d) (some v)

theorem takes_version_iff {site : Site} (hsite : Site.start.enter = .ok site) {d? : Option Doc}
    {v? : Option Value} :
    VersionHints.versionSlot.Takes site d?.toList v? ↔ GivesVersion d? v? := by
  constructor
  · intro h
    cases d? with
    | none =>
      cases h with
      | absent hv =>
        cases hv
        exact .absent
    | some d =>
      cases h with
      | present hread =>
        obtain ⟨rfl, rfl⟩ | ⟨hnull, v, hv, rfl⟩ := readOption_eq_ok.1 hread
        · exact .null
        · exact .value hsite hnull hv
  · intro h
    cases h with
    | absent => exact .absent rfl
    | null => exact .present rfl
    | value hsite' hnull hv =>
      cases hsite.symm.trans hsite'
      exact .present (readOption_eq_ok.2 (.inr ⟨hnull, _, hv, rfl⟩))

/-- Hints are read of the signs that a value shows. -/
theorem VersionHints.read_start_eq_ok_iff {d : Doc} {hints : VersionHints}
    (hd : d.complete = true) :
    read .start d = .ok hints ↔ ∃ signs : VersionSigns, d.Shows signs ∧
      GivesVersion signs.version hints.version ∧
      (hints.accepted = true ↔ IsPresent signs.accepted) ∧
      (hints.scheme = true ↔ IsPresent signs.scheme) ∧
      (hints.network = true ↔ IsPresent signs.network) := by
  have hfound : ∀ {found : List (String × Doc)} {name : String} {d? : Option Doc},
      Lays fields d found → valuesOf name found = d?.toList → ∀ d' ∈ d?, d'.complete = true := by
    intro found name d? hlays hvalues d' hd'
    have hmem : d' ∈ valuesOf name found := by rwa [hvalues, Option.mem_toList]
    exact hlays.complete_found hd _ (mem_valuesOf.1 hmem)
  rw [read_eq_ok_iff]
  constructor
  · rintro ⟨⟨site, found⟩, henter, hlays, hv, ha, hs, hn⟩
    obtain ⟨version, hversion⟩ := hv.exists_toList
    obtain ⟨accepted, haccepted⟩ := ha.exists_toList
    obtain ⟨scheme, hscheme⟩ := hs.exists_toList
    obtain ⟨network, hnetwork⟩ := hn.exists_toList
    refine ⟨⟨version, accepted, scheme, network⟩,
      (shows_iff hd).2 ⟨found, hlays, ⟨hversion, haccepted, hscheme, hnetwork⟩⟩, ?_, ?_, ?_, ?_⟩
    · exact (takes_version_iff henter).1 (hversion ▸ hv)
    · exact (takes_presence_iff (hfound hlays haccepted)).1 (haccepted ▸ ha)
    · exact (takes_presence_iff (hfound hlays hscheme)).1 (hscheme ▸ hs)
    · exact (takes_presence_iff (hfound hlays hnetwork)).1 (hnetwork ▸ hn)
  · rintro ⟨signs, hshows, hv, ha, hs, hn⟩
    obtain ⟨found, hlays, hversion, haccepted, hscheme, hnetwork⟩ := (shows_iff hd).1 hshows
    refine ⟨⟨.text 126, found⟩, rfl, hlays, ?_, ?_, ?_, ?_⟩
    · exact hversion.symm ▸ (takes_version_iff rfl).2 hv
    · exact haccepted.symm ▸ (takes_presence_iff (hfound hlays haccepted)).2 ha
    · exact hscheme.symm ▸ (takes_presence_iff (hfound hlays hscheme)).2 hs
    · exact hnetwork.symm ▸ (takes_presence_iff (hfound hlays hnetwork)).2 hn

/-- What a payload tells: the number decides, and the other signs only without one. -/
def VersionSigns.Tells (signs : VersionSigns) (number : Option Value) (v : ProtocolVersion) :
    Prop :=
  number = some (.number (.natural v.number)) ∨
    (∀ n, number ≠ some (.number (.natural n))) ∧ signs.Shape v

theorem ProtocolVersion.ofNumber?_eq_some {n : Nat} {v : ProtocolVersion} :
    ofNumber? n = some v ↔ n = v.number := by
  constructor
  · intro h
    match n, h with
    | 1, rfl | 2, rfl => rfl
  · rintro rfl
    cases v <;> rfl

section Decide

variable {hints : VersionHints} {signs : VersionSigns} {v : ProtocolVersion}

theorem VersionHints.decide_of_number {n : Nat} (h : hints.version = some (.number (.natural n))) :
    hints.decide = .ok v ↔ n = v.number := by
  rw [decide, h, ← ProtocolVersion.ofNumber?_eq_some]
  dsimp only
  cases ProtocolVersion.ofNumber? n <;> simp

theorem VersionHints.decide_of_no_number (h : ∀ n, hints.version ≠ some (.number (.natural n))) :
    hints.decide =
      if hints.accepted then .ok .v2
      else if hints.scheme && hints.network then .ok .v1
      else .error .unknownShape := by
  rw [decide]
  split
  · next n hn => exact (h n hn).elim
  · rfl

/-- There are hints for all signs. -/
theorem VersionSigns.exists_hints (signs : VersionSigns) (number : Option Value) :
    ∃ hints : VersionHints, hints.version = number ∧
      (hints.accepted = true ↔ IsPresent signs.accepted) ∧
      (hints.scheme = true ↔ IsPresent signs.scheme) ∧
      (hints.network = true ↔ IsPresent signs.network) := by
  classical
  exact ⟨⟨number, IsPresent signs.accepted, IsPresent signs.scheme, IsPresent signs.network⟩, rfl,
    decide_eq_true_iff, decide_eq_true_iff, decide_eq_true_iff⟩

/-- Hints that are read of signs decide as the signs tell. -/
theorem decide_eq_ok_iff (haccepted : hints.accepted = true ↔ IsPresent signs.accepted)
    (hscheme : hints.scheme = true ↔ IsPresent signs.scheme)
    (hnetwork : hints.network = true ↔ IsPresent signs.network) :
    hints.decide = .ok v ↔ signs.Tells hints.version v := by
  by_cases hnumber : ∃ n, hints.version = some (.number (.natural n))
  · obtain ⟨n, hn⟩ := hnumber
    rw [VersionHints.decide_of_number hn, VersionSigns.Tells, hn]
    simp
  · have hnone : ∀ n, hints.version ≠ some (.number (.natural n)) := fun n hn => hnumber ⟨n, hn⟩
    rw [VersionHints.decide_of_no_number hnone, VersionSigns.Tells, or_iff_right (hnone _),
      and_iff_right hnone]
    cases v with
    | v1 =>
      rw [VersionSigns.Shape, ← haccepted, ← hscheme, ← hnetwork]
      cases hints.accepted <;> cases hints.scheme <;> cases hints.network <;> simp
    | v2 =>
      rw [VersionSigns.Shape, ← haccepted]
      cases hints.accepted <;> cases hints.scheme <;> cases hints.network <;> simp

end Decide

/-- The payload is a JSON object that is of this version: it has that number, or else it has no
number and the shape of the version. -/
def ProtocolVersion.Recognised (payload : Bytes) (v : ProtocolVersion) : Prop :=
  ∃ members signs, (Doc.object members).StandsIn payload ∧ (Doc.object members).Shows signs ∧
    ((∃ token, signs.version = some (.number token) ∧
        Number.ofToken? token = some (.natural v.number)) ∨
      (∀ token, signs.version ≠ some (.number token)) ∧ signs.Shape v)

/-- A payload may be taken for something that it is not: an array for an object, a number that is
no natural one for no number, and a text within an object for a number. -/
inductive Slips (payload : Bytes) : Prop
  | array {items : Items} {signs : VersionSigns} (stands : (Doc.array items).StandsIn payload)
      (shows : (Doc.array items).Shows signs)
  | number {d : Doc} {signs : VersionSigns} {token : Bytes} (stands : d.StandsIn payload)
      (shows : d.Shows signs) (version : signs.version = some (.number token))
      (stray : ∀ n, Number.ofToken? token ≠ some (.natural n))
  | embedded {d : Doc} {signs : VersionSigns} {members : Members} (stands : d.StandsIn payload)
      (shows : d.Shows signs) (version : signs.version = some (.object members))
      (text : members.embedded? ≠ none)

theorem detect_eq_ok_iff_hints {payload : Bytes} {v : ProtocolVersion} :
    ProtocolVersion.detect payload = .ok v ↔
      ∃ hints, VersionHints.read.ofText payload = .ok hints ∧ hints.decide = .ok v := by
  rw [ProtocolVersion.detect]
  cases VersionHints.read.ofText payload with
  | error fault => exact ⟨nofun, nofun⟩
  | ok hints => simp

/-- Which payloads are detected. -/
theorem detect_eq_ok_iff_tells {payload : Bytes} {v : ProtocolVersion} :
    ProtocolVersion.detect payload = .ok v ↔
      ∃ (d : Doc) (signs : VersionSigns) (number : Option Value), d.StandsIn payload ∧
        d.Shows signs ∧ GivesVersion signs.version number ∧ signs.Tells number v := by
  rw [detect_eq_ok_iff_hints]
  constructor
  · rintro ⟨hints, hread, hdecide⟩
    obtain ⟨d, hstands, hread⟩ :=
      (Reader.ofText_eq_ok_iff_standsIn fun _ => VersionHints.complete_of_read).1 hread
    obtain ⟨signs, hshows, hgives, ha, hs, hn⟩ :=
      (VersionHints.read_start_eq_ok_iff (Doc.complete_of_wellFormed d hstands.1)).1 hread
    exact ⟨d, signs, hints.version, hstands, hshows, hgives, (decide_eq_ok_iff ha hs hn).1 hdecide⟩
  · rintro ⟨d, signs, number, hstands, hshows, hgives, htells⟩
    obtain ⟨hints, rfl, ha, hs, hn⟩ := signs.exists_hints number
    have hread := (VersionHints.read_start_eq_ok_iff
      (Doc.complete_of_wellFormed d hstands.1)).2 ⟨signs, hshows, hgives, ha, hs, hn⟩
    exact ⟨hints, (Reader.ofText_eq_ok_iff_standsIn fun _ => VersionHints.complete_of_read).2
      ⟨d, hstands, hread⟩, (decide_eq_ok_iff ha hs hn).2 htells⟩

/-- A number token in a text is read as its number. -/
theorem readNumber_text_eq_ok {levels : Nat} {token : Bytes} {n : Number} :
    readNumber (.text levels) (.number token) = .ok n ↔ Number.ofToken? token = some n := by
  simp only [readNumber, Site.number?]
  cases Number.ofToken? token <;> simp

theorem GivesVersion.of_number {token : Bytes} {number : Option Value}
    (h : GivesVersion (some (.number token)) number) :
    ∃ n, Number.ofToken? token = some n ∧ number = some (.number n) := by
  cases h with
  | value hsite _ hread =>
    cases hsite
    obtain ⟨n, hn, rfl⟩ := map_eq_ok.1 hread
    exact ⟨n, readNumber_text_eq_ok.1 hn, rfl⟩

/-- A number is read of a number, or else of a text in an object. -/
theorem GivesVersion.number_cases {d? : Option Doc} {n : Number}
    (h : GivesVersion d? (some (.number n))) :
    (∃ token, d? = some (.number token) ∧ Number.ofToken? token = some n) ∨
      ∃ members, d? = some (.object members) ∧ members.embedded? ≠ none := by
  generalize hv : some (Value.number n) = v? at h
  cases h with
  | absent | null => cases hv
  | @value site d v hsite hnull hread =>
    cases hv
    cases d with
    | broken | bool => cases hread
    | null => exact (hnull rfl).elim
    | string =>
      obtain ⟨s, -, ⟨⟩⟩ := map_eq_ok.1 hread
    | array =>
      obtain ⟨inner, -, hread⟩ := bind_eq_ok.1 hread
      obtain ⟨vs, -, ⟨⟩⟩ := map_eq_ok.1 hread
    | number token =>
      obtain ⟨_, hn, heq⟩ := GivesVersion.of_number (.value hsite hnull hread)
      cases heq
      exact .inl ⟨token, rfl, hn⟩
    | object members =>
      refine .inr ⟨members, rfl, fun hnone => ?_⟩
      obtain ⟨inner, -, hread⟩ := bind_eq_ok.1 hread
      rw [hnone] at hread
      obtain ⟨all, -, ⟨⟩⟩ := map_eq_ok.1 hread

/-- **Which payloads are detected**: those whose signs tell the version.  Each of them is an object
of this version, unless something in it is taken for what it is not. -/
theorem ProtocolVersion.detect_eq_ok_iff (payload : Bytes) (v : ProtocolVersion) :
    (detect payload = .ok v ↔
      ∃ (d : Doc) (signs : VersionSigns) (number : Option Value), d.StandsIn payload ∧
        d.Shows signs ∧ GivesVersion signs.version number ∧ signs.Tells number v) ∧
    (detect payload = .ok v → Recognised payload v ∨ Slips payload) := by
  refine ⟨detect_eq_ok_iff_tells, fun h => ?_⟩
  obtain ⟨d, signs, number, hstands, hshows, hgives, htells⟩ := detect_eq_ok_iff_tells.1 h
  cases d with
  | broken | null | bool | number | string => cases hshows
  | array items => exact .inr (.array hstands hshows)
  | object members =>
    obtain rfl | ⟨hnone, hshape⟩ := htells
    · obtain ⟨token, hversion, hnumber⟩ | ⟨inner, hversion, hembedded⟩ := hgives.number_cases
      · exact .inl ⟨members, signs, hstands, hshows, .inl ⟨token, hversion, hnumber⟩⟩
      · exact .inr (.embedded hstands hshows hversion hembedded)
    · by_cases htoken : ∃ token, signs.version = some (.number token)
      · obtain ⟨token, hversion⟩ := htoken
        rw [hversion] at hgives
        obtain ⟨n, hn, rfl⟩ := hgives.of_number
        refine .inr (.number hstands hshows hversion fun m hm => ?_)
        cases hn.symm.trans hm
        exact hnone m rfl
      · exact .inl ⟨members, signs, hstands, hshows,
          .inr ⟨fun token hversion => htoken ⟨token, hversion⟩, hshape⟩⟩

/-- An array that holds nothing but a number. -/
def numberArray : Bytes := Bytes.ofString "[2]"

/-- An array is detected, though it is no object. -/
theorem array_detected :
    ¬ ∀ (payload : Bytes) (v : ProtocolVersion), ProtocolVersion.detect payload = .ok v →
      ProtocolVersion.Recognised payload v := by
  intro h
  obtain ⟨members, -, hstands, -⟩ := h numberArray .v2 rfl
  have harray : (Doc.array (.item [] [] (.number (Bytes.ofString "2")) (.close []))).StandsIn
      numberArray := Doc.standsIn_text rfl
  cases harray.unique hstands

end Tollbooth
