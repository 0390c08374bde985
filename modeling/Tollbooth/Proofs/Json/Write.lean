import Tollbooth.Json.Octets
import Tollbooth.Json.Record
import Tollbooth.Json.Verbatim
import Tollbooth.Proofs.Chain.Address
import Tollbooth.Proofs.Json.Scan
/-!
# Reading what was written

Written documents are spelled as JSON, so that their texts are read as the documents that they are.
A record is read back member by member, provided that each member is one of its fields and none is
there twice.

Two things have to come together.  The text of a written document is scanned back to it, which is
`Scan.scanFront_text` and needs nothing but that it is spelled as JSON; and the document is read as
what it was written for.  So reading what was written is never about texts, and what is left are
lemmas about documents, type by type.

* `Reader.ofText_text` — reading the text of a document is reading the document.
* `Reader.ofText_eq_ok` — when a text is read.
* `wellFormed_ofMembers`, `wellFormed_ofPresent` — written objects are spelled as JSON.
* `readRecord_ofMembers` — the members of a written record are found.
-/

set_option autoImplicit false

namespace Tollbooth

/-- A computation that goes on with another one succeeds just if both do. -/
theorem bind_eq_ok {ε α β : Type} {x : Except ε α} {f : α → Except ε β} {b : β} :
    (x >>= f) = .ok b ↔ ∃ a, x = .ok a ∧ f a = .ok b := by
  cases x with
  | error e =>
    constructor
    · intro h
      cases h
    · rintro ⟨a, ⟨⟩, -⟩
  | ok a =>
    constructor
    · exact fun h => ⟨a, rfl, h⟩
    · rintro ⟨_, ⟨⟩, h⟩
      exact h

/-- It fails just if one of them does. -/
theorem bind_eq_error {ε α β : Type} {x : Except ε α} {f : α → Except ε β} {e : ε} :
    (x >>= f) = .error e ↔ x = .error e ∨ ∃ a, x = .ok a ∧ f a = .error e := by
  cases x with
  | error e' =>
    constructor
    · intro h
      cases h
      exact .inl rfl
    · rintro (⟨⟨⟩⟩ | ⟨a, ⟨⟩, -⟩)
      rfl
  | ok a =>
    constructor
    · exact fun h => .inr ⟨a, rfl, h⟩
    · rintro (⟨⟨⟩⟩ | ⟨_, ⟨⟩, h⟩)
      exact h

/-- What is made of a result is a result just if there is one. -/
theorem map_eq_ok {ε α β : Type} {x : Except ε α} {f : α → β} {b : β} :
    f <$> x = .ok b ↔ ∃ a, x = .ok a ∧ f a = b := by
  cases x with
  | error e => exact ⟨nofun, nofun⟩
  | ok a =>
    constructor
    · intro h
      cases h
      exact ⟨a, rfl, rfl⟩
    · rintro ⟨_, ⟨⟩, rfl⟩
      rfl

namespace Json

variable {α : Type}

/-- **Reading the text of a document is reading the document.** -/
theorem Reader.ofText_text (read : Reader α) {d : Doc} (h : d.wellFormed = true) :
    read.ofText d.text = read .start d := by
  rw [Reader.ofText, scanFront_text h]
  show (read .start d >>= fun a => if allBlank [] = true then pure a else _) = _
  cases read .start d <;> rfl

theorem Reader.ofText_eq_bind (read : Reader α) (s : Bytes) :
    read.ofText s = read .start (scanFront s).1 >>= fun a =>
      if allBlank (scanFront s).2 then pure a else .error .malformed := by
  rw [Reader.ofText]

/-- A text is read if its first value is, and only blanks follow it. -/
theorem Reader.ofText_eq_ok {read : Reader α} {s : Bytes} {a : α} :
    read.ofText s = .ok a ↔
      read .start (scanFront s).1 = .ok a ∧ allBlank (scanFront s).2 = true := by
  rw [Reader.ofText_eq_bind, bind_eq_ok]
  constructor
  · rintro ⟨a', hread, hrest⟩
    split at hrest
    · next hblank =>
      cases hrest
      exact ⟨hread, hblank⟩
    · cases hrest
  · rintro ⟨hread, hblank⟩
    exact ⟨a, hread, if_pos hblank⟩

/-! ## Written documents

No blanks are written, so what has to be spelled as it should are the keys and the values inside. -/

theorem wellFormed_ofString (s : String) : (Doc.ofString s).wellFormed = true :=
  isStringBody_iff.2 (isBody_escape s)

theorem wellFormed_ofList_members {ms : List (Bytes × Doc)}
    (h : ∀ m ∈ ms, IsBody m.1 ∧ m.2.wellFormed = true) :
    ∀ first, (Members.ofList ms).wellFormed first = true := by
  induction ms with
  | nil => intro first; rfl
  | cons m ms ih =>
    intro first
    obtain ⟨hkey, hvalue⟩ := h m List.mem_cons_self
    have hrest := ih (fun m' hm => h m' (List.mem_cons_of_mem m hm)) false
    refine Members.wellFormed_member.2 ⟨?_, rfl, hkey, rfl, rfl, hvalue, hrest⟩
    cases first <;> rfl

/-- An object of documents that are spelled as JSON is spelled as JSON. -/
theorem wellFormed_ofMembers {ms : List (String × Doc)} (h : ∀ m ∈ ms, m.2.wellFormed = true) :
    (Doc.ofMembers ms).wellFormed = true := by
  refine wellFormed_ofList_members (fun m hm => ?_) true
  obtain ⟨⟨key, d⟩, hd, rfl⟩ := List.mem_map.1 hm
  exact ⟨isBody_escape key, h _ hd⟩

theorem wellFormed_ofPresent {ms : List (String × Option Doc)}
    (h : ∀ m ∈ ms, ∀ d ∈ m.2, d.wellFormed = true) : (Doc.ofPresent ms).wellFormed = true := by
  refine wellFormed_ofMembers fun m hm => ?_
  obtain ⟨⟨key, d?⟩, hd, hm⟩ := List.mem_filterMap.1 hm
  obtain ⟨d, hd', rfl⟩ := Option.map_eq_some_iff.1 hm
  exact h _ hd d hd'

/-! ## Scalars

A value that is written as a text is read from any text that spells it, not only from the one that
is written. -/

@[simp] theorem readString_ofString (site : Site) (s : String) :
    readString site (.ofString s) = .ok s := by
  rw [Doc.ofString, readString, unescape?_escape]

/-- A byte string of a fixed length is read from any text that spells it. -/
theorem readOctets_ofString {n : Nat} {s : String} {v : Octets n} (site : Site)
    (h : Octets.parse? n s = some v) : readOctets n site (.ofString s) = .ok v := by
  refine bind_eq_ok.2 ⟨s, readString_ofString site s, ?_⟩
  simp only [h]
  rfl

@[simp] theorem readOctets_ofOctets {n : Nat} (site : Site) (v : Octets n) :
    readOctets n site (.ofOctets v) = .ok v :=
  readOctets_ofString site v.parse?_text

@[simp] theorem readAddress_checksum (site : Site) (a : Address) :
    readAddress site (.ofString a.checksum) = .ok a := by
  have hparse : Octets.parse? 20 a.checksum = some a.octets := a.octetsParse?_checksumWith _
  rw [readAddress, readOctets_ofString site hparse]
  rfl

@[simp] theorem readBytes_ofBytes (site : Site) (b : Bytes) :
    readBytes site (.ofBytes b) = .ok b := by
  have hdecode : Hex.decode? ("0x" ++ Hex.encode b) = some b := by
    rw [Hex.encode, Hex.decode?_marked, Hex.decodeChars?_encodeChars]
  refine bind_eq_ok.2 ⟨_, readString_ofString site _, ?_⟩
  simp only [hdecode]
  rfl

theorem readOption_of_ne_null (read : Reader α) (site : Site) {d : Doc}
    (h : d ≠ .null) : readOption read site d = some <$> read site d := by
  cases d with
  | null => exact (h rfl).elim
  | broken | bool | number | string | array | object => rfl

/-- A document that was kept is read as what it was. -/
@[simp] theorem Verbatim.read_doc (site : Site) (v : Verbatim) : read site v.doc = .ok v := by
  obtain ⟨d, text, isJson, isText⟩ := v
  have hkept : ofDoc? d = some ⟨d, text, isJson, isText⟩ := by
    rw [ofDoc?, dif_pos isJson]
    split
    · next s hs =>
      have htext : s = text := Option.some.inj (hs.symm.trans isText)
      subst htext
      rfl
    · next hs => cases hs.symm.trans isText
  rw [read]
  simp only [hkept]

/-! ## Records

Members that are written in some order are found in that order, each by the field of its name. -/

/-- Each member is written for one of the fields, which is found by its name, and can be read as
it. -/
def Suits (fields : List Field) (site : Site) (m : String × Doc) : Prop :=
  ∃ field, fields.find? (·.hasName m.1) = some field ∧ field.name = m.1 ∧
    field.check site m.2 = .ok ()

theorem Slot.suits {fields : List Field} {site : Site} (slot : Slot α) {d : Doc} {a : α}
    (hfind : fields.find? (·.hasName slot.name) = some slot.field)
    (hread : slot.read site d = .ok a) : Suits fields site (slot.name, d) := by
  refine ⟨slot.field, hfind, rfl, ?_⟩
  show (fun _ => ()) <$> slot.read site d = .ok ()
  rw [hread]
  rfl

theorem collectEntries_of_suits {fields : List Field} {site : Site} {ms : List (String × Doc)}
    (h : ∀ m ∈ ms, Suits fields site m) :
    ∀ found : List (String × Doc), (found.map (·.1) ++ ms.map (·.1)).Nodup →
      collectEntries fields site found (ms.map fun (key, d) => (escape key, d)) =
        .ok (found ++ ms) := by
  induction ms with
  | nil => intro found _; rw [List.append_nil]; rfl
  | cons m ms ih =>
    intro found hnodup
    obtain ⟨key, d⟩ := m
    obtain ⟨field, hfind, hname, hcheck⟩ := h (key, d) List.mem_cons_self
    have hfresh : found.any (·.1 == field.name) = false := by
      rw [hname, List.any_eq_false]
      intro m' hm' heq
      rw [List.nodup_append] at hnodup
      exact hnodup.2.2 m'.1 (List.mem_map_of_mem hm') key List.mem_cons_self (beq_iff_eq.1 heq)
    have hrest := ih (fun m' hm' => h m' (List.mem_cons_of_mem _ hm'))
      (found ++ [(key, d)]) (by simpa using hnodup)
    rw [List.map_cons, collectEntries]
    simp only [unescape?_escape]
    rw [hfind]
    simp only [hfresh]
    rw [hcheck, hname]
    show collectEntries fields site (found ++ [(key, d)]) _ = _
    rw [hrest, List.append_assoc]
    rfl

/-- **The members of a written record are found.** -/
theorem readRecord_ofMembers {fields : List Field} {build : Record → Except Fault α} {levels : Nat}
    {ms : List (String × Doc)} (h : ∀ m ∈ ms, Suits fields (.text levels) m)
    (hnodup : (ms.map (·.1)).Nodup) :
    readRecord fields build (.text (levels + 1)) (.ofMembers ms) = build ⟨.text levels, ms⟩ := by
  have hentries := collectEntries_of_suits h [] (by simpa using hnodup)
  have hcollect : collect fields (.text (levels + 1)) (.ofMembers ms) =
      .ok ⟨.text levels, ms⟩ := by
    rw [Doc.ofMembers, collect]
    simp only [Site.enter, Members.entries_ofList, Members.closed_ofList]
    show (collectEntries fields (.text levels) [] _ >>= fun found => _) = _
    rw [hentries]
    rfl
  rw [readRecord, hcollect]
  rfl

end Json

end Tollbooth
