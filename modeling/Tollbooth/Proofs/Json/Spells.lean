import Tollbooth.Proofs.Json.Write
/-!
# Documents that spell values

A document spells a value if it is spelled as JSON and read as the value.  Reading enters a
container only if it is not nested too deeply, so it matters how many levels a value takes.

`Spells` joins three things that are needed together wherever something is written: the document is
spelled as JSON, its bytes are a text, and it is read as the value from which it was written.  The
first two make the document come back from its text; the third makes the value come back from the
document.  With them in one structure a codec needs a single lemma, and the codecs of larger types
are put together from those of their members.

Reading has a bound on how deep containers may be nested, and writing has none.  So what is claimed
of a type always says how many levels are enough for it, and `Spells.mono` allows for more.

* `Spells` — the document is read as the value.
* `Spells.ofText_render` — so is its text.
* `spells_ofString` and the like — scalars, and what is kept verbatim.
* `spells_ofList` — arrays.
* `spells_record` — records: for each member there is a slot that gives its value (`Slot.Gives`),
  from what is written for the member or from nothing being written.
* `spells_ofVerbatims` — objects whose values are kept verbatim.
-/

set_option autoImplicit false

namespace Tollbooth.Json

variable {α : Type}

/-- The document is spelled as JSON in a text, and read as the value where containers may be entered
`depth` levels deep. -/
structure Spells (depth : Nat) (read : Reader α) (d : Doc) (a : α) : Prop where
  wellFormed : d.wellFormed = true
  isText : Bytes.IsText d.text
  reads (levels : Nat) : read (.text (levels + depth)) d = .ok a

variable {depth : Nat} {read : Reader α} {d : Doc} {a : α}

theorem Spells.mono {deeper : Nat} (h : Spells depth read d a) (hle : depth ≤ deeper) :
    Spells deeper read d a := by
  refine ⟨h.wellFormed, h.isText, fun levels => ?_⟩
  obtain ⟨more, rfl⟩ := Nat.exists_eq_add_of_le' hle
  rw [← Nat.add_assoc]
  exact h.reads (levels + more)

theorem Doc.ofString_render (h : Bytes.IsText d.text) : Bytes.ofString d.render = d.text := by
  obtain ⟨s, hs⟩ := h
  rw [Doc.render, hs, Bytes.toString?_ofString, Option.getD_some]

theorem Spells.ofText (h : Spells depth read d a) (hdepth : depth ≤ Site.nestingLimit) :
    read.ofText d.text = .ok a := by
  rw [Reader.ofText_text read h.wellFormed]
  exact (h.mono hdepth).reads 0

/-- **A text spells what its document spells.** -/
theorem Spells.ofText_render (h : Spells depth read d a) (hdepth : depth ≤ Site.nestingLimit) :
    read.ofText (Bytes.ofString d.render) = .ok a := by
  rw [Doc.ofString_render h.isText]
  exact h.ofText hdepth

/-- What spells a value can be kept verbatim. -/
theorem Spells.exists_verbatim (h : Spells depth read d a) (hdepth : depth ≤ Site.nestingLimit) :
    ∃ v : Verbatim, v.toDoc = d ∧ Bytes.ofString v.text = d.text ∧
      read.ofText (Bytes.ofString v.text) = .ok a := by
  obtain ⟨s, hs⟩ := h.isText
  have hisText : Bytes.toString? d.text = some s := by rw [hs, Bytes.toString?_ofString]
  exact ⟨⟨d, s, h.wellFormed, hisText⟩, rfl, hs.symm, hs ▸ h.ofText hdepth⟩

/-! ## Scalars

The bytes of a scalar are a text because every character is written by whole characters, and it is
read back by the lemmas of `Write`. -/

theorem isText_escapeChar (c : Char) : Bytes.IsText (escapeChar c) := by
  rcases escapeChar_cases c with ⟨e, b, he, -, hc, -⟩ | ⟨hn, hc⟩ | ⟨-, -, -, hc⟩
  · have hascii : ∀ e ∈ shortEscapes, e.toNat < 0x80 := by simp [shortEscapes]
    rw [hc]
    refine Bytes.isText_of_ascii ?_
    simp only [List.forall_mem_cons]
    exact ⟨by decide, hascii e he, nofun⟩
  · have hdigit : ∀ m : Fin 16, (hexDigit m.val).toNat < 0x80 := by decide
    have hhigh := hdigit ⟨c.toNat / 16, by omega⟩
    have hlow := hdigit ⟨c.toNat % 16, by omega⟩
    rw [hc]
    refine Bytes.isText_of_ascii ?_
    simp only [List.forall_mem_cons]
    exact ⟨by decide, by decide, by decide, by decide, hhigh, hlow, nofun⟩
  · rw [hc]
    exact Bytes.isText_utf8EncodeChar c

theorem isText_escape (s : String) : Bytes.IsText (escape s) := by
  rw [escape]
  induction s.toList with
  | nil => exact Bytes.isText_nil
  | cons c cs ih => exact (isText_escapeChar c).append ih

/-- A byte of ASCII put in front of a text. -/
theorem isText_cons {b : UInt8} {more : Bytes} (hb : b.toNat < 0x80) (h : Bytes.IsText more) :
    Bytes.IsText (b :: more) :=
  (Bytes.isText_of_ascii fun _ hx => List.mem_singleton.1 hx ▸ hb : Bytes.IsText [b]).append h

theorem isText_quoted {body : Bytes} (h : Bytes.IsText body) :
    Bytes.IsText (0x22 :: body ++ [0x22]) :=
  (isText_cons (by decide) h).append (isText_cons (by decide) Bytes.isText_nil)

/-- A text that is written spells whatever it is read as. -/
theorem spells_of_ofString {s : String} (h : ∀ levels, read (.text levels) (.ofString s) = .ok a) :
    Spells 0 read (.ofString s) a :=
  ⟨wellFormed_ofString s, isText_quoted (isText_escape s), h⟩

theorem spells_ofString (s : String) : Spells 0 readString (.ofString s) s :=
  spells_of_ofString fun levels => readString_ofString (.text levels) s

theorem spells_ofOctets {n : Nat} (v : Octets n) : Spells 0 (readOctets n) (.ofOctets v) v :=
  spells_of_ofString fun levels => readOctets_ofOctets (.text levels) v

theorem spells_checksum (a : Address) : Spells 0 readAddress (.ofString a.checksum) a :=
  spells_of_ofString fun levels => readAddress_checksum (.text levels) a

theorem spells_ofBytes (b : Bytes) : Spells 0 readBytes (.ofBytes b) b :=
  spells_of_ofString fun levels => readBytes_ofBytes (.text levels) b

theorem spells_bool (b : Bool) : Spells 0 readBool (.bool b) b := by
  refine ⟨rfl, Bytes.isText_of_ascii ?_, fun _ => rfl⟩
  cases b <;> simp [Doc.text]

theorem spells_verbatim (v : Verbatim) : Spells 0 Verbatim.read v.toDoc v :=
  ⟨v.isJson, ⟨v.text, Bytes.eq_ofString_of_toString? v.isText⟩,
    fun levels => Verbatim.read_doc (.text levels) v⟩

/-! ## Arrays

An array takes one level more than its items, and is read item by item. -/

theorem readItems_eq_ok {read : Doc → Except Fault α} {write : α → Doc} {as : List α}
    (h : ∀ a, read (write a) = .ok a) : readItems read true (as.map write) = .ok as := by
  induction as with
  | nil => rfl
  | cons a as ih =>
    rw [List.map_cons, readItems, h, ih]
    rfl

theorem wellFormed_ofList_items {ds : List Doc} (h : ∀ d ∈ ds, d.wellFormed = true) :
    ∀ first, (Items.ofList ds).wellFormed first = true := by
  induction ds with
  | nil => intro first; rfl
  | cons d ds ih =>
    intro first
    have hrest := ih (fun d' hd => h d' (List.mem_cons_of_mem d hd)) false
    refine Items.wellFormed_item.2 ⟨?_, rfl, h d List.mem_cons_self, hrest⟩
    cases first <;> rfl

theorem isText_ofList_items {ds : List Doc} (h : ∀ d ∈ ds, Bytes.IsText d.text) :
    ∀ first, Bytes.IsText ((Items.ofList ds).text first) := by
  induction ds with
  | nil => exact fun _ => isText_cons (by decide) Bytes.isText_nil
  | cons d ds ih =>
    intro first
    have hvalue := h d List.mem_cons_self
    have hrest := (ih fun d' hd => h d' (List.mem_cons_of_mem d hd)) false
    cases first with
    | true => exact hvalue.append hrest
    | false => exact (isText_cons (by decide) hvalue).append hrest

/-- An array of what spells values spells their list. -/
theorem spells_ofList {write : α → Doc} (h : ∀ a, Spells depth read (write a) a) (as : List α) :
    Spells (depth + 1) (readList read) (.ofList (as.map write)) as := by
  refine ⟨wellFormed_ofList_items (fun d hd => ?_) true, isText_cons (by decide)
    (isText_ofList_items (fun d hd => ?_) true), fun levels => ?_⟩
  · obtain ⟨a, -, rfl⟩ := List.mem_map.1 hd
    exact (h a).wellFormed
  · obtain ⟨a, -, rfl⟩ := List.mem_map.1 hd
    exact (h a).isText
  · have hitems : readItems (read (.text (levels + depth))) true (as.map write) = .ok as :=
      readItems_eq_ok fun a => (h a).reads levels
    rw [Doc.ofList, readList, Items.values_ofList, Items.closed_ofList]
    exact hitems

/-! ## Records

A member may be missing from what is written when its slot has a value without it, so what is shown
of a member is that its slot gets the right value from what is there (`Slot.Gives`).  From this for
every slot it follows for the record: the members that are written are found, each by its own field,
because names are distinct. -/

/-- The slot has this value, by what is written for it or by nothing being written. -/
structure Slot.Gives (slot : Slot α) (depth : Nat) (d? : Option Doc) (a : α) : Prop where
  present : ∀ d ∈ d?, Spells depth slot.read d a
  absent : d? = none → slot.absent = .ok a

theorem Spells.gives {slot : Slot α} (h : Spells depth slot.read d a) :
    slot.Gives depth (some d) a :=
  ⟨fun _ hd => Option.some.inj hd ▸ h, nofun⟩

theorem Spells.option (h : Spells depth read d a) (hnull : d ≠ .null) :
    Spells depth (readOption read) d (some a) := by
  refine ⟨h.wellFormed, h.isText, fun levels => ?_⟩
  rw [readOption_of_ne_null read _ hnull, h.reads]
  rfl

theorem Slot.Gives.mono {slot : Slot α} {d? : Option Doc} {deeper : Nat}
    (h : slot.Gives depth d? a) (hle : depth ≤ deeper) : slot.Gives deeper d? a :=
  ⟨fun d hd => (h.present d hd).mono hle, h.absent⟩

/-- A member that may be left out is written if there is a value. -/
theorem Slot.gives_option {slot : Slot (Option α)} {write : α → Doc} (a? : Option α)
    (hread : slot.read = readOption read) (habsent : slot.absent = .ok none)
    (h : ∀ a, Spells depth read (write a) a) (hnull : ∀ a, write a ≠ .null) :
    slot.Gives depth (a?.map write) a? := by
  cases a? with
  | none => exact ⟨nofun, fun _ => habsent⟩
  | some a => exact Spells.gives (hread ▸ (h a).option (hnull a))

/-- The same for texts. -/
theorem Slot.gives_string {slot : Slot (Option String)} (s? : Option String)
    (hread : slot.read = readOption readString) (habsent : slot.absent = .ok none) :
    slot.Gives 0 (s?.map Doc.ofString) s? :=
  gives_option s? hread habsent spells_ofString fun _ => nofun

/-- The members that are written. -/
def presentMembers (ms : List (String × Option Doc)) : List (String × Doc) :=
  ms.filterMap fun (key, d) => d.map (key, ·)

theorem sublist_presentMembers (ms : List (String × Option Doc)) :
    ((presentMembers ms).map (·.1)).Sublist (ms.map (·.1)) := by
  induction ms with
  | nil => exact .slnil
  | cons m ms ih =>
    obtain ⟨key, d?⟩ := m
    cases d? with
    | none => exact ih.cons key
    | some d => exact ih.cons_cons key

/-- A member that is written, or not, is found, or not. -/
theorem find?_presentMembers {ms : List (String × Option Doc)} (hnodup : (ms.map (·.1)).Nodup)
    (key : String) :
    ((presentMembers ms).find? (·.1 == key)).map (·.2) = (ms.find? (·.1 == key)).bind (·.2) := by
  induction ms with
  | nil => rfl
  | cons m ms ih =>
    obtain ⟨name, d?⟩ := m
    obtain ⟨hname, hnodup⟩ := List.nodup_cons.1 hnodup
    by_cases hkey : name = key
    · subst hkey
      cases d? with
      | some d => simp [presentMembers]
      | none =>
        have hnone : (presentMembers ms).find? (·.1 == name) = none := by
          refine List.find?_eq_none.2 fun m hm heq => hname ?_
          rw [← beq_iff_eq.1 heq]
          exact (sublist_presentMembers ms).subset (List.mem_map_of_mem hm)
        show ((presentMembers ms).find? (·.1 == name)).map (·.2) = _
        simp [hnone]
    · have hfind : ((name, d?) :: ms).find? (·.1 == key) = ms.find? (·.1 == key) :=
        List.find?_cons_of_neg (by simpa using hkey)
      rw [hfind, ← ih hnodup]
      cases d? with
      | none => rfl
      | some d =>
        show (((name, d) :: presentMembers ms).find? (·.1 == key)).map (·.2) = _
        rw [List.find?_cons_of_neg (by simpa using hkey)]

/-- The record was made of these members: what they give is found in it. -/
def Record.Holds (r : Record) (depth : Nat) (ms : List (String × Option Doc)) : Prop :=
  ∀ {β : Type} {slot : Slot β} {d? : Option Doc} {b : β}, slot.Gives depth d? b →
    (ms.find? (·.1 == slot.name)).bind (·.2) = d? → r.get slot = .ok b

theorem holds_presentMembers {ms : List (String × Option Doc)} (hnodup : (ms.map (·.1)).Nodup)
    (levels : Nat) : Record.Holds ⟨.text (levels + depth), presentMembers ms⟩ depth ms := by
  intro β slot d? b h hfind
  have hfound := (find?_presentMembers hnodup slot.name).trans hfind
  rw [Record.get]
  cases hm : (presentMembers ms).find? (·.1 == slot.name) with
  | none =>
    rw [hm] at hfound
    exact h.absent hfound.symm
  | some m =>
    rw [hm] at hfound
    exact (h.present m.2 hfound.symm).reads levels

/-- What is written for a member, if anything, is found by one of the fields and readable as it. -/
structure Fills (fields : List Field) (depth : Nat) (m : String × Option Doc) : Prop where
  wellFormed : ∀ d ∈ m.2, d.wellFormed = true
  isText : ∀ d ∈ m.2, Bytes.IsText d.text
  suits : ∀ d ∈ m.2, ∀ levels, Suits fields (.text (levels + depth)) (m.1, d)

theorem Slot.Gives.fills {slot : Slot α} {fields : List Field} {d? : Option Doc}
    (h : slot.Gives depth d? a) (hfind : fields.find? (·.hasName slot.name) = some slot.field) :
    Fills fields depth (slot.name, d?) :=
  ⟨fun d hd => (h.present d hd).wellFormed, fun d hd => (h.present d hd).isText,
    fun d hd levels => slot.suits hfind ((h.present d hd).reads levels)⟩

theorem isText_ofList_members {ms : List (Bytes × Doc)}
    (h : ∀ m ∈ ms, Bytes.IsText m.1 ∧ Bytes.IsText m.2.text) :
    ∀ first, Bytes.IsText ((Members.ofList ms).text first) := by
  induction ms with
  | nil => exact fun _ => isText_cons (by decide) Bytes.isText_nil
  | cons m ms ih =>
    intro first
    obtain ⟨hkey, hvalue⟩ := h m List.mem_cons_self
    have hrest := (ih fun m' hm => h m' (List.mem_cons_of_mem m hm)) false
    have hmember := ((isText_quoted hkey).append (isText_cons (b := 0x3a) (by decide)
      hvalue)).append hrest
    cases first with
    | true => simpa [Members.ofList, Members.text] using hmember
    | false =>
      simpa [Members.ofList, Members.text] using isText_cons (b := 0x2c) (by decide) hmember

theorem isText_ofMembers {ms : List (String × Doc)} (h : ∀ m ∈ ms, Bytes.IsText m.2.text) :
    Bytes.IsText (Doc.ofMembers ms).text := by
  refine isText_cons (by decide) (isText_ofList_members (fun m hm => ?_) true)
  obtain ⟨⟨key, d⟩, hd, rfl⟩ := List.mem_map.1 hm
  exact ⟨isText_escape _, h _ hd⟩

theorem isText_ofPresent {ms : List (String × Option Doc)}
    (h : ∀ m ∈ ms, ∀ d ∈ m.2, Bytes.IsText d.text) : Bytes.IsText (Doc.ofPresent ms).text := by
  refine isText_ofMembers fun m hm => ?_
  obtain ⟨⟨name, d?⟩, hmem, heq⟩ := List.mem_filterMap.1 hm
  obtain ⟨d, hd, rfl⟩ := Option.map_eq_some_iff.1 heq
  exact h _ hmem d hd

/-- **A record is spelled by its members.** -/
theorem spells_record {fields : List Field} {build : Record → Except Fault α}
    (ms : List (String × Option Doc)) (hnodup : (ms.map (·.1)).Nodup)
    (hfills : ∀ m ∈ ms, Fills fields depth m)
    (hbuild : ∀ r : Record, r.Holds depth ms → build r = .ok a) :
    Spells (depth + 1) (readRecord fields build) (.ofPresent ms) a := by
  refine ⟨wellFormed_ofPresent fun m hm => (hfills m hm).wellFormed,
    isText_ofPresent fun m hm => (hfills m hm).isText, fun levels => ?_⟩
  have hsuits : ∀ m ∈ presentMembers ms, Suits fields (.text (levels + depth)) m := by
    intro m hm
    obtain ⟨⟨key, d?⟩, hmem, heq⟩ := List.mem_filterMap.1 hm
    obtain ⟨d, hd, rfl⟩ := Option.map_eq_some_iff.1 heq
    exact (hfills _ hmem).suits d hd levels
  rw [← hbuild _ (holds_presentMembers hnodup levels)]
  exact readRecord_ofMembers hsuits ((sublist_presentMembers ms).nodup hnodup)

/-! ## Objects as they stand

An object can also be read member by member without knowing what the members should be.  This is how
it is said later what a body contains and that it contains nothing else. -/

/-- Reads a member as it stands: its value is kept verbatim. -/
def readMember (site : Site) (m : Bytes × Doc) : Except Fault (String × Verbatim) := do
  let key ← readString site (.string m.1)
  let value ← Verbatim.read site m.2
  return (key, value)

/-- Reads an object as it stands: its members in their order, the values verbatim. -/
def readMembers : Reader (List (String × Verbatim)) := fun site d =>
  match d with
  | .object members => do
    let inner ← site.enter
    let found ← members.entries.mapM (readMember inner)
    if members.closed then return found else .error .malformed
  | d => .error (mistake site d)

/-- The object with these members, each value as it was spelled. -/
def Doc.ofVerbatims (ms : List (String × Verbatim)) : Doc :=
  .ofMembers (ms.map fun m => (m.1, m.2.toDoc))

theorem mapM_readMember (site : Site) (ms : List (String × Verbatim)) :
    (ms.map fun m => (escape m.1, m.2.toDoc)).mapM (readMember site) = .ok ms := by
  induction ms with
  | nil => rfl
  | cons m ms ih =>
    have hkey : readString site (.string (escape m.1)) = .ok m.1 := readString_ofString site m.1
    have hvalue : Verbatim.read site m.2.toDoc = .ok m.2 := Verbatim.read_doc site m.2
    rw [List.map_cons, List.mapM_cons, ih, readMember, hkey, hvalue]
    rfl

/-- **An object of values that are kept verbatim spells its members.** -/
theorem spells_ofVerbatims (ms : List (String × Verbatim)) :
    Spells 1 readMembers (.ofVerbatims ms) ms := by
  refine ⟨wellFormed_ofMembers fun m hm => ?_, isText_ofMembers fun m hm => ?_, fun levels => ?_⟩
  · obtain ⟨⟨key, v⟩, -, rfl⟩ := List.mem_map.1 hm
    exact v.isJson
  · obtain ⟨⟨key, v⟩, -, rfl⟩ := List.mem_map.1 hm
    exact (spells_verbatim v).isText
  · rw [Doc.ofVerbatims, Doc.ofMembers, List.map_map, readMembers]
    simp only [Members.entries_ofList, Members.closed_ofList]
    show (List.mapM (readMember (.text levels)) _ >>= fun found => pure found) = _
    exact bind_eq_ok.2 ⟨ms, mapM_readMember (.text levels) ms, rfl⟩

end Tollbooth.Json
