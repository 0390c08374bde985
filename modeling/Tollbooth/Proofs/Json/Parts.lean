import Mathlib.Data.List.Forall2
import Mathlib.Data.List.Nodup
import Mathlib.Data.Set.List
import Tollbooth.Proofs.Json.Spells
/-!
# The parts of a document, and which of them a record takes

Every value within a JSON text is a JSON text of its own, and could be kept.  A record takes some
values of a document as its members.  Which ones it takes depends on their names alone, as long as
each of them can be read, so the readers of the members may be changed without changing that.

What stands next to a value within a text is a comma, a colon, a bracket or a blank.  All of these
are characters of ASCII, at which any text can be cut, so what stands between two cuts is a text
again.

That the names decide which values a record takes is what makes it possible to read one document by
two records that differ in how they read a member.  The second one finds the same members as the
first, so if it fails it is for a member's sake and not because it has lost its way.

* `Doc.IsKept` — the document is a JSON text; `Items.isKept_values` and `Members.isKept_entries` —
  so are its parts.
* `collect_found` — what a record finds is of the document, and has distinct names.
* `collect_alike` — what is found does not depend on how it is read.
-/

set_option autoImplicit false

namespace Tollbooth.Json

open Tollbooth (Bytes)

/-! ## Parts

To be kept, a value must be spelled as JSON and its bytes must be a text.  Both are said of the
whole document to begin with, and are carried from the front to the rest: past the blanks, past the
value, and on behind it. -/

/-- The document is a JSON text, which can be kept verbatim. -/
def Doc.IsKept (d : Doc) : Prop := ∃ v : Verbatim, v.doc = d

theorem Doc.isKept_iff {d : Doc} : d.IsKept ↔ d.wellFormed = true ∧ Bytes.IsText d.text := by
  constructor
  · rintro ⟨v, rfl⟩
    exact ⟨v.isJson, v.text, Bytes.eq_ofString_of_toString? v.isText⟩
  · rintro ⟨hjson, s, hs⟩
    exact ⟨⟨d, s, hjson, by rw [hs, Bytes.toString?_ofString]⟩, rfl⟩

/-- What spells a value can be kept. -/
theorem Spells.isKept {α : Type} {depth : Nat} {read : Reader α} {d : Doc} {a : α}
    (h : Spells depth read d a) : d.IsKept :=
  Doc.isKept_iff.2 ⟨h.wellFormed, h.isText⟩

/-- The bytes begin with a character of ASCII. -/
def BeginsAscii (s : Bytes) : Prop := ∃ b t, s = b :: t ∧ b.toNat < 0x80

theorem toNat_lt_of_isBlank {b : UInt8} (h : isBlank b = true) : b.toNat < 0x80 := by
  simp only [isBlank, Bool.or_eq_true, beq_iff_eq] at h
  rcases h with ((rfl | rfl) | rfl) | rfl <;> decide

theorem beginsAscii_gap {gap s : Bytes} {b : UInt8} (hgap : allBlank gap = true)
    (hb : b.toNat < 0x80) : BeginsAscii (gap ++ b :: s) := by
  cases gap with
  | nil => exact ⟨b, s, rfl, hb⟩
  | cons c gap =>
    exact ⟨c, _, rfl, toNat_lt_of_isBlank (List.all_eq_true.1 hgap c List.mem_cons_self)⟩

/-- The first byte of a text can be left out if it is of ASCII. -/
theorem isText_tail {b : UInt8} {s : Bytes} (h : Bytes.IsText (b :: s)) (hb : b.toNat < 0x80) :
    Bytes.IsText s := by
  have hcut : Bytes.IsText ([] ++ b :: s) := h
  exact (hcut.cut hb).2

/-- Blanks before a text can be left out. -/
theorem isText_of_gap {gap s : Bytes} (hgap : allBlank gap = true)
    (h : Bytes.IsText (gap ++ s)) : Bytes.IsText s := by
  induction gap with
  | nil => exact h
  | cons b gap ih =>
    have hb := toNat_lt_of_isBlank (List.all_eq_true.1 hgap b List.mem_cons_self)
    refine ih (List.all_eq_true.2 fun c hc => ?_) (isText_tail h hb)
    exact List.all_eq_true.1 hgap c (List.mem_cons_of_mem b hc)

/-- A value with something behind it that begins in ASCII is a JSON text, and so is the rest. -/
theorem isKept_of_append {d : Doc} {rest : Bytes} (hd : d.wellFormed = true)
    (hrest : BeginsAscii rest) (h : Bytes.IsText (d.text ++ rest)) :
    d.IsKept ∧ Bytes.IsText rest := by
  obtain ⟨b, t, rfl, hb⟩ := hrest
  obtain ⟨hvalue, hmore⟩ := h.cut hb
  exact ⟨Doc.isKept_iff.2 ⟨hd, hvalue⟩, isText_cons hb hmore⟩

theorem Items.beginsAscii_text {items : Items} (h : items.wellFormed false = true) :
    BeginsAscii (items.text false) := by
  cases items with
  | broken | torn => cases h
  | close gap => exact beginsAscii_gap h (by decide)
  | item before gap value rest =>
    simp only [text, Bool.false_eq_true, if_false, List.append_assoc]
    exact beginsAscii_gap (wellFormed_item.1 h).1 (by decide)

theorem Members.beginsAscii_text {members : Members} (h : members.wellFormed false = true) :
    BeginsAscii (members.text false) := by
  cases members with
  | broken => cases h
  | close gap => exact beginsAscii_gap h (by decide)
  | member before gap key afterKey afterColon value rest =>
    simp only [text, Bool.false_eq_true, if_false, List.append_assoc]
    exact beginsAscii_gap (wellFormed_member.1 h).1 (by decide)

/-- **The values of an array that is a JSON text are JSON texts.** -/
theorem Items.isKept_values : ∀ {items : Items} {first : Bool}, items.wellFormed first = true →
    Bytes.IsText (items.text first) → ∀ d ∈ items.values, d.IsKept
  | .broken, _, h, _ | .torn _, _, h, _ => by cases h
  | .close _, _, _, _ => nofun
  | .item before gap value rest, first, h, htext => by
    obtain ⟨hbefore, hgap, hvalue, hrest⟩ := wellFormed_item.1 h
    have hinner : Bytes.IsText (gap ++ (value.text ++ rest.text false)) := by
      cases first with
      | true => simpa [text] using htext
      | false =>
        have hcomma : Bytes.IsText
            (before ++ 0x2c :: (gap ++ (value.text ++ rest.text false))) := by
          simpa [text] using htext
        exact (hcomma.cut (by decide)).2
    obtain ⟨hkept, hmore⟩ := isKept_of_append hvalue (beginsAscii_text hrest)
      (isText_of_gap hgap hinner)
    exact List.forall_mem_cons.2 ⟨hkept, isKept_values hrest hmore⟩

/-- **The values of an object that is a JSON text are JSON texts.** -/
theorem Members.isKept_entries : ∀ {members : Members} {first : Bool},
    members.wellFormed first = true → Bytes.IsText (members.text first) →
      ∀ m ∈ members.entries, m.2.IsKept
  | .broken, _, h, _ => by cases h
  | .close _, _, _, _ => nofun
  | .member before gap key afterKey afterColon value rest, first, h, htext => by
    obtain ⟨hbefore, hgap, hkey, hafterKey, hafterColon, hvalue, hrest⟩ := wellFormed_member.1 h
    -- The colon is the last place before the value where the text can be cut.
    obtain ⟨front, hfront⟩ : ∃ front, (text first (.member before gap key afterKey afterColon value
        rest)) = front ++ 0x3a :: (afterColon ++ (value.text ++ rest.text false)) :=
      ⟨(if first then [] else before ++ [0x2c]) ++ gap ++ (0x22 :: key ++ [0x22]) ++ afterKey,
        by simp [text]⟩
    rw [hfront] at htext
    obtain ⟨hkept, hmore⟩ := isKept_of_append hvalue (beginsAscii_text hrest)
      (isText_of_gap hafterColon (htext.cut (by decide)).2)
    exact List.forall_mem_cons.2 ⟨hkept, isKept_entries hrest hmore⟩

/-! ## What a record finds

The search for members is a loop with several ways to fail.  `Collects` has its successful runs, one
constructor for each way to get past an entry, and what is to be said of what is found is shown by
induction on these. -/

section Collect

variable {fields fields' : List Field} {site : Site} {found all : List (String × Doc)}

/-- What is found in the entries of an object, put to what was found before. -/
inductive Collects (fields : List Field) (site : Site) :
    List (String × Doc) → List (Bytes × Doc) → List (String × Doc) → Prop
  | nil (found : List (String × Doc)) : Collects fields site found [] found
  /-- An entry that is no member is read over. -/
  | skipped {found all : List (String × Doc)} {body : Bytes} {key : String} {d : Doc}
      {rest : List (Bytes × Doc)} (hkey : unescape? body = some key)
      (unknown : fields.find? (·.hasName key) = none) (complete : readSkipped site d = .ok ())
      (others : Collects fields site found rest all) :
      Collects fields site found ((body, d) :: rest) all
  | member {found all : List (String × Doc)} {body : Bytes} {key : String} {field : Field} {d : Doc}
      {rest : List (Bytes × Doc)} (hkey : unescape? body = some key)
      (known : fields.find? (·.hasName key) = some field) (new : field.name ∉ found.map (·.1))
      (check : field.check site d = .ok ())
      (others : Collects fields site (found ++ [(field.name, d)]) rest all) :
      Collects fields site found ((body, d) :: rest) all

theorem any_name_eq_true {name : String} :
    found.any (·.1 == name) = true ↔ name ∈ found.map (·.1) := by
  simp

theorem collectEntries_eq_ok {entries : List (Bytes × Doc)} :
    collectEntries fields site found entries = .ok all ↔
      Collects fields site found entries all := by
  constructor
  · intro h
    induction entries generalizing found with
    | nil =>
      cases h
      exact .nil _
    | cons e rest ih =>
      obtain ⟨body, d⟩ := e
      rw [collectEntries] at h
      split at h
      · cases h
      · next key hkey =>
        split at h
        · next hunknown =>
          obtain ⟨⟨⟩, hcomplete, h⟩ := bind_eq_ok.1 h
          exact .skipped hkey hunknown hcomplete (ih h)
        · next field hknown =>
          split at h
          · cases h
          · next hnew =>
            obtain ⟨⟨⟩, hcheck, h⟩ := bind_eq_ok.1 h
            exact .member hkey hknown (fun hmem => hnew (any_name_eq_true.2 hmem)) hcheck (ih h)
  · intro h
    induction h with
    | nil => rfl
    | skipped hkey hunknown hcomplete _ ih =>
      simp only [collectEntries, hkey, hunknown]
      exact bind_eq_ok.2 ⟨(), hcomplete, ih⟩
    | member hkey hknown hnew hcheck _ ih =>
      have hfresh : ¬ _ := fun h => hnew (any_name_eq_true.1 h)
      simp only [collectEntries, hkey, hknown]
      rw [if_neg hfresh]
      exact bind_eq_ok.2 ⟨(), hcheck, ih⟩

/-- What is found was found before, or stands in the object. -/
theorem Collects.mem {entries : List (Bytes × Doc)} (h : Collects fields site found entries all) :
    (∀ m ∈ found, m ∈ all) ∧ ∀ m ∈ all, m ∈ found ∨ ∃ e ∈ entries, e.2 = m.2 := by
  induction h with
  | nil => exact ⟨fun m hm => hm, fun m hm => .inl hm⟩
  | skipped _ _ _ _ ih =>
    refine ⟨ih.1, fun m hm => (ih.2 m hm).imp_right ?_⟩
    rintro ⟨e, he, heq⟩
    exact ⟨e, List.mem_cons_of_mem _ he, heq⟩
  | @member found _ body _ field d rest _ _ _ _ _ ih =>
    refine ⟨fun m hm => ih.1 m (List.mem_append_left _ hm), fun m hm => ?_⟩
    obtain hfound | ⟨e, he, heq⟩ := ih.2 m hm
    · obtain hfound | hnew := List.mem_append.1 hfound
      · exact .inl hfound
      · rw [List.mem_singleton] at hnew
        exact .inr ⟨(body, d), List.mem_cons_self, by rw [hnew]⟩
    · exact .inr ⟨e, List.mem_cons_of_mem _ he, heq⟩

theorem Collects.nodup {entries : List (Bytes × Doc)} (h : Collects fields site found entries all)
    (hfound : (found.map (·.1)).Nodup) : (all.map (·.1)).Nodup := by
  induction h with
  | nil => exact hfound
  | skipped _ _ _ _ ih => exact ih hfound
  | member _ _ hnew _ _ ih =>
    refine ih ?_
    rw [List.map_append, List.map_singleton, ← List.concat_eq_append]
    exact hfound.concat hnew

/-- What is found in the items of an array that is closed behind them. -/
inductive CollectsItems (site : Site) : List Field → List Doc → List (String × Doc) → Prop
  | nil : CollectsItems site [] [] []
  /-- A member is left out at the end. -/
  | omitted {field : Field} {fields : List Field} {all : List (String × Doc)}
      (omissible : field.omissible = true) (others : CollectsItems site fields [] all) :
      CollectsItems site (field :: fields) [] all
  | member {field : Field} {fields : List Field} {d : Doc} {ds : List Doc}
      {all : List (String × Doc)} (check : field.check site d = .ok ())
      (others : CollectsItems site fields ds all) :
      CollectsItems site (field :: fields) (d :: ds) ((field.name, d) :: all)

theorem collectItems_eq_ok {closed : Bool} {ds : List Doc} :
    collectItems site closed fields ds = .ok all ↔
      closed = true ∧ CollectsItems site fields ds all := by
  constructor
  · intro h
    induction fields generalizing ds all with
    | nil =>
      cases ds with
      | nil =>
        cases closed with
        | false => cases h
        | true =>
          cases h
          exact ⟨rfl, .nil⟩
      | cons d ds => cases h
    | cons field fields ih =>
      cases ds with
      | nil =>
        rw [collectItems] at h
        split at h
        · cases h
        · split at h
          · next homissible =>
            obtain ⟨hclosed, hothers⟩ := ih h
            exact ⟨hclosed, .omitted homissible hothers⟩
          · cases h
      | cons d ds =>
        obtain ⟨⟨⟩, hcheck, h⟩ := bind_eq_ok.1 h
        obtain ⟨others, hothers, h⟩ := bind_eq_ok.1 h
        cases h
        obtain ⟨hclosed, hothers⟩ := ih hothers
        exact ⟨hclosed, .member hcheck hothers⟩
  · rintro ⟨rfl, h⟩
    induction h with
    | nil => rfl
    | omitted homissible _ ih => simpa [collectItems, homissible] using ih
    | member hcheck _ ih => exact bind_eq_ok.2 ⟨(), hcheck, bind_eq_ok.2 ⟨_, ih, rfl⟩⟩

/-- What is found in an array stands in it, and has the names of fields in their order. -/
theorem CollectsItems.sublist_and_mem {ds : List Doc} (h : CollectsItems site fields ds all) :
    (all.map (·.1)).Sublist (fields.map (·.name)) ∧ ∀ m ∈ all, m.2 ∈ ds := by
  induction h with
  | nil => exact ⟨.slnil, nofun⟩
  | omitted _ _ ih => exact ⟨ih.1.cons _, ih.2⟩
  | member _ _ ih =>
    exact ⟨ih.1.cons_cons _, List.forall_mem_cons.2
      ⟨List.mem_cons_self, fun m hm => List.mem_cons_of_mem _ (ih.2 m hm)⟩⟩

/-! ## Other readers for the same members

Two lists of fields are alike if they go by the same names in the same order.  A run of the search
for one is a run for the other, provided that the members which were found can be read by both. -/

/-- The fields go by the same names. -/
structure Field.Alike (field field' : Field) : Prop where
  name : field.name = field'.name
  alias? : field.alias? = field'.alias?
  omissible : field.omissible = field'.omissible

theorem Field.Alike.hasName {field field' : Field} (h : field.Alike field') (key : String) :
    field.hasName key = field'.hasName key := by
  rw [Field.hasName, Field.hasName, h.name, h.alias?]

/-- Fields that go by the same names are found by the same keys. -/
theorem find?_alike (h : List.Forall₂ Field.Alike fields fields') (key : String) :
    (fields.find? (·.hasName key) = none ∧ fields'.find? (·.hasName key) = none) ∨
      ∃ field field', fields.find? (·.hasName key) = some field ∧
        fields'.find? (·.hasName key) = some field' ∧ field.name = field'.name := by
  induction h with
  | nil => exact .inl ⟨rfl, rfl⟩
  | @cons field field' fields fields' one _ ih =>
    have hname := one.hasName key
    cases hfield : field.hasName key with
    | true => exact .inr ⟨field, field', by simp [hfield], by simp [← hname, hfield], one.name⟩
    | false => simpa [hfield, ← hname] using ih

/-- The members that were found can be read by fields of their names. -/
def Readable (fields : List Field) (site : Site) (all : List (String × Doc)) : Prop :=
  ∀ m ∈ all, ∀ field ∈ fields, field.name = m.1 → field.check site m.2 = .ok ()

theorem Collects.alike {entries : List (Bytes × Doc)} (h : Collects fields site found entries all)
    (hfields : List.Forall₂ Field.Alike fields fields') (hall : Readable fields' site all) :
    Collects fields' site found entries all := by
  induction h with
  | nil => exact .nil _
  | @skipped _ _ _ key _ _ hkey hunknown hcomplete _ ih =>
    obtain ⟨-, hunknown'⟩ | ⟨field, field', hknown, -, -⟩ := find?_alike hfields key
    · exact .skipped hkey hunknown' hcomplete (ih hall)
    · cases hunknown.symm.trans hknown
  | @member found all _ key field d _ hkey hknown hnew hcheck others ih =>
    obtain ⟨hunknown, -⟩ | ⟨known, field', hknown', hfield', hname⟩ := find?_alike hfields key
    · cases hunknown.symm.trans hknown
    · cases hknown.symm.trans hknown'
      -- What is found here is not lost later on, so it is among what can be read.
      have hfound : (field.name, d) ∈ all :=
        others.mem.1 _ (List.mem_append_right _ (List.mem_singleton_self _))
      refine .member hkey hfield' (hname ▸ hnew) ?_ (hname ▸ ih hall)
      exact hall _ hfound field' (List.mem_of_find?_eq_some hfield') hname.symm

theorem CollectsItems.alike {ds : List Doc} (h : CollectsItems site fields ds all)
    (hfields : List.Forall₂ Field.Alike fields fields') (hall : Readable fields' site all) :
    CollectsItems site fields' ds all := by
  induction h generalizing fields' with
  | nil =>
    cases hfields
    exact .nil
  | omitted homissible _ ih =>
    cases hfields with
    | cons one others =>
      refine .omitted (one.omissible ▸ homissible) (ih others fun m hm field hfield => ?_)
      exact hall m hm field (List.mem_cons_of_mem _ hfield)
  | member hcheck _ ih =>
    cases hfields with
    | @cons _ field' _ _ one others =>
      rw [one.name]
      refine .member ?_ (ih others fun m hm field hfield => ?_)
      · exact hall _ List.mem_cons_self field' List.mem_cons_self one.name.symm
      · exact hall m (List.mem_cons_of_mem _ hm) field (List.mem_cons_of_mem _ hfield)

variable {d : Doc} {record : Record}

/-- **What a record finds** stands in the document, and no name is found twice. -/
theorem collect_found (h : collect fields site d = .ok record)
    (hfields : (fields.map (·.name)).Nodup) (hd : d.IsKept) :
    (record.found.map (·.1)).Nodup ∧ ∀ m ∈ record.found, m.2.IsKept := by
  obtain ⟨hjson, htext⟩ := Doc.isKept_iff.1 hd
  cases d with
  | broken | null | bool | number | string => cases h
  | array items =>
    obtain ⟨inner, -, h⟩ := bind_eq_ok.1 h
    obtain ⟨found, hfound, h⟩ := bind_eq_ok.1 h
    cases h
    obtain ⟨hnames, hmem⟩ := (collectItems_eq_ok.1 hfound).2.sublist_and_mem
    refine ⟨hnames.nodup hfields, fun m hm => ?_⟩
    exact Items.isKept_values hjson (isText_tail htext (by decide)) _ (hmem m hm)
  | object members =>
    obtain ⟨inner, -, h⟩ := bind_eq_ok.1 h
    obtain ⟨found, hfound, h⟩ := bind_eq_ok.1 h
    split at h
    · cases h
      have hfound := collectEntries_eq_ok.1 hfound
      refine ⟨hfound.nodup List.nodup_nil, fun m hm => ?_⟩
      obtain hnone | ⟨e, he, heq⟩ := hfound.mem.2 m hm
      · cases hnone
      · exact heq ▸ Members.isKept_entries hjson (isText_tail htext (by decide)) e he
    · cases h

/-- **Other readers find the same members**, if they can read them. -/
theorem collect_alike (h : collect fields site d = .ok record)
    (hfields : List.Forall₂ Field.Alike fields fields')
    (hall : Readable fields' record.site record.found) : collect fields' site d = .ok record := by
  cases d with
  | broken | null | bool | number | string => cases h
  | array items =>
    obtain ⟨inner, henter, h⟩ := bind_eq_ok.1 h
    obtain ⟨found, hfound, h⟩ := bind_eq_ok.1 h
    cases h
    obtain ⟨hclosed, hfound⟩ := collectItems_eq_ok.1 hfound
    have hfound' := collectItems_eq_ok.2 ⟨hclosed, hfound.alike hfields hall⟩
    exact bind_eq_ok.2 ⟨inner, henter, bind_eq_ok.2 ⟨found, hfound', rfl⟩⟩
  | object members =>
    obtain ⟨inner, henter, h⟩ := bind_eq_ok.1 h
    obtain ⟨found, hfound, h⟩ := bind_eq_ok.1 h
    split at h
    · next hclosed =>
      cases h
      have hfound' := collectEntries_eq_ok.2 ((collectEntries_eq_ok.1 hfound).alike hfields hall)
      exact bind_eq_ok.2 ⟨inner, henter, bind_eq_ok.2 ⟨found, hfound', if_pos hclosed⟩⟩
    · cases h

/-- A slot that gives its value has read what was found under its name. -/
theorem Record.check_of_get {α : Type} {slot : Slot α} {a : α} (h : record.get slot = .ok a)
    (hfound : (record.found.map (·.1)).Nodup) {m : String × Doc} (hm : m ∈ record.found)
    (hname : slot.name = m.1) : slot.field.check record.site m.2 = .ok () := by
  have hfind : record.found.find? (·.1 == slot.name) = some m := by
    have hsome : (record.found.find? (·.1 == slot.name)).isSome :=
      List.find?_isSome.2 ⟨m, hm, beq_iff_eq.2 hname.symm⟩
    obtain ⟨m', hm'⟩ := Option.isSome_iff_exists.1 hsome
    have hnamed := List.find?_some hm'
    have hsame : m'.1 = m.1 := (eq_of_beq hnamed).trans hname
    rw [hm', List.inj_on_of_nodup_map hfound (List.mem_of_find?_eq_some hm') hm hsame]
  rw [Record.get, hfind] at h
  show (fun _ => ()) <$> slot.read record.site m.2 = .ok ()
  rw [show slot.read record.site m.2 = .ok a from h]
  rfl

end Collect

/-! ## Values as they are

A reader that takes anything is where such a comparison begins. -/

/-- Takes any value as it is. -/
def readAny : Reader Doc := fun _ d => .ok d

theorem readItems_readAny (site : Site) (closed : Bool) (ds : List Doc) :
    readItems (readAny site) closed ds = if closed then .ok ds else .error .malformed := by
  induction ds with
  | nil => rfl
  | cons d ds ih =>
    rw [readItems, ih]
    cases closed <;> rfl

/-- **The values of an array that can be kept can be kept**, whatever they are. -/
theorem readList_verbatim {site : Site} {d : Doc} {ds : List Doc}
    (h : readList readAny site d = .ok ds) (hd : d.IsKept) :
    ∃ vs : List Verbatim, vs.map (·.doc) = ds ∧ readList Verbatim.read site d = .ok vs := by
  obtain ⟨hjson, htext⟩ := Doc.isKept_iff.1 hd
  cases d with
  | broken | null | bool | number | string | object => cases h
  | array items =>
    obtain ⟨inner, henter, h⟩ := bind_eq_ok.1 h
    rw [readItems_readAny] at h
    split at h
    · next hclosed =>
      cases h
      have hkept := Items.isKept_values hjson (isText_tail htext (by decide))
      obtain ⟨vs, hvs⟩ : items.values ∈ Set.range (List.map Verbatim.doc) :=
        Set.range_list_map Verbatim.doc ▸ hkept
      refine ⟨vs, hvs, bind_eq_ok.2 ⟨inner, henter, ?_⟩⟩
      rw [hclosed, ← hvs]
      exact readItems_eq_ok fun v => Verbatim.read_doc inner v
    · cases h

end Tollbooth.Json
