import Mathlib.Data.List.Lattice
import Mathlib.Data.List.Pairwise
import Tollbooth.Proofs.Json.Parts
import Tollbooth.Proofs.Json.Value
/-!
# What a record takes of a document

A record takes its members from an object by their names and from an array by their places.  It can
be read just if each of its members can: what is there for the member is one value at most, and a
value that is there is readable.  Nothing else of the document matters, but that its keys can be
read and that it is broken off nowhere.

Reading a record is one pass through the document, in which each member is checked when it is met,
and then a value is taken from each slot.  This is what the program does, and it reports the first
problem first; but to say what a record is read of, it is the wrong way round, because it asks what
happens at each entry instead of what there is for each field.  The lemmas here turn it around.  A
document lays out for each field the values that belong to it, the record is found if there is one
of them at most and it is readable, and a slot has a value if that one gives it or if there is none.

The second half carries this to generic values, whose members are in order and have no key twice.
There the values of a field with one name are what is looked up under it, and most of the types that
are read need nothing else: for a text that may be left out, `takes_iff_oneText` lists the three
things that may stand there.

* `Lays` — what a document lays out for a record: `gather` for objects, `arrange` for arrays.
* `collect_eq_ok_iff` — when a record is found, and what is found.
* `Slot.Takes`, `Record.get_eq_ok_iff` — what a slot makes of what is there for it.
* `valuesOf_gather`, `valuesOf_arrange` — what is there for a field, by its names or by its place.
* `lays_object`, `lays_array` — generic values.
-/

set_option autoImplicit false

namespace Tollbooth.Json

open Tollbooth (Bytes)

/-! ## Names

A field may go by two names, but no name is that of two fields, so a key belongs to one field at
most. -/

/-- The names that a field goes by. -/
def Field.names (field : Field) : List String := field.name :: field.alias?.toList

theorem Field.hasName_iff {field : Field} {key : String} :
    field.hasName key = true ↔ key ∈ field.names := by
  rw [hasName, names, Bool.or_eq_true, beq_iff_eq, beq_iff_eq, List.mem_cons, Option.mem_toList,
    @eq_comm _ key]

theorem Field.name_mem_names (field : Field) : field.name ∈ field.names := List.mem_cons_self

/-- No name is that of two fields. -/
def Apart (fields : List Field) : Prop := (fields.flatMap Field.names).Nodup

section Names

variable {fields : List Field} {field field' : Field} {key : String}

theorem Apart.eq_of_mem (h : Apart fields) (hfield : field ∈ fields) (hfield' : field' ∈ fields)
    (hkey : key ∈ field.names) (hkey' : key ∈ field'.names) : field = field' := by
  by_contra hne
  have : Std.Symm (Function.onFun List.Disjoint Field.names) := ⟨fun _ _ h => List.Disjoint.symm h⟩
  exact (List.nodup_flatMap.1 h).2.forall hfield hfield' hne hkey hkey'

theorem Apart.nodup_names (h : Apart fields) : (fields.map (·.name)).Nodup := by
  refine List.Nodup.sublist ?_ h
  clear h
  induction fields with
  | nil => exact .slnil
  | cons field fields ih => exact (List.singleton_sublist.2 field.name_mem_names).append ih

theorem Apart.find?_eq_some_iff (h : Apart fields) :
    fields.find? (·.hasName key) = some field ↔ field ∈ fields ∧ key ∈ field.names := by
  constructor
  · intro hfind
    have hkey : field.hasName key = true := by simpa using List.find?_some hfind
    exact ⟨List.mem_of_find?_eq_some hfind, Field.hasName_iff.1 hkey⟩
  · rintro ⟨hfield, hkey⟩
    have hsome : (fields.find? (·.hasName key)).isSome :=
      List.find?_isSome.2 ⟨field, hfield, Field.hasName_iff.2 hkey⟩
    obtain ⟨field', hfind⟩ := Option.isSome_iff_exists.1 hsome
    have hkey' : field'.hasName key = true := by simpa using List.find?_some hfind
    rw [hfind, h.eq_of_mem hfield (List.mem_of_find?_eq_some hfind) hkey
      (Field.hasName_iff.1 hkey')]

end Names

/-! ## What a document lays out

Objects lay out their members by name, arrays by place.  In both cases the result is a list of names
with values, in which it can be counted how many there are for a field. -/

/-- The members of a record that the entries of an object are. -/
def gather (fields : List Field) (entries : List (Bytes × Doc)) : List (String × Doc) :=
  entries.filterMap fun e =>
    ((unescape? e.1).bind fun key => fields.find? (·.hasName key)).map fun field =>
      (field.name, e.2)

/-- The members of a record that the values of an array are. -/
def arrange (fields : List Field) (ds : List Doc) : List (String × Doc) :=
  (fields.zip ds).map fun m => (m.1.name, m.2)

/-- What was found under a name. -/
def valuesOf (name : String) (found : List (String × Doc)) : List Doc :=
  (found.filter (·.1 == name)).map (·.2)

/-- An entry does not stand in the way of a record: its key can be read, and its value is broken off
nowhere, which is all that matters of it unless it is a member. -/
def Passes (fields : List Field) (e : Bytes × Doc) : Prop :=
  ∃ key, unescape? e.1 = some key ∧
    (fields.find? (·.hasName key) = none → e.2.complete = true)

/-- What a document lays out for a record, by name. -/
inductive Lays (fields : List Field) : Doc → List (String × Doc) → Prop
  | object {members : Members} (closed : members.closed = true)
      (passes : ∀ e ∈ members.entries, Passes fields e) :
      Lays fields (.object members) (gather fields members.entries)
  /-- Fields may be left out at the end of an array, if they are such that may be. -/
  | array {items : Items} (closed : items.closed = true)
      (length : items.values.length ≤ fields.length)
      (omissible : ∀ field ∈ fields.drop items.values.length, field.omissible = true) :
      Lays fields (.array items) (arrange fields items.values)

/-- There is one value for the field at most, and it is readable. -/
def Field.Fits (field : Field) (site : Site) (ds : List Doc) : Prop :=
  ds.length ≤ 1 ∧ ∀ d ∈ ds, field.check site d = .ok ()

section Lays

variable {fields : List Field} {field : Field} {site : Site} {found all : List (String × Doc)}

theorem length_valuesOf (name : String) :
    (valuesOf name all).length = (all.map (·.1)).count name := by
  rw [valuesOf, List.length_map, List.count, List.countP_map, List.countP_eq_length_filter]
  rfl

theorem mem_valuesOf {name : String} {d : Doc} : d ∈ valuesOf name all ↔ (name, d) ∈ all := by
  simp [valuesOf]

theorem valuesOf_cons (name : String) (m : String × Doc) :
    valuesOf name (m :: all) =
      if m.1 = name then m.2 :: valuesOf name all else valuesOf name all := by
  rw [valuesOf, List.filter_cons]
  split
  · next h => rw [if_pos (eq_of_beq h)]; rfl
  · next h => rw [if_neg fun heq => h (beq_iff_eq.2 heq)]; rfl

/-- What goes by the names of fields, each there once at most, has distinct names. -/
theorem nodup_of_valuesOf (hmem : ∀ m ∈ all, m.1 ∈ fields.map (·.name))
    (h : ∀ field ∈ fields, (valuesOf field.name all).length ≤ 1) : (all.map (·.1)).Nodup := by
  refine List.nodup_iff_count_le_one.2 fun name => ?_
  by_cases hname : name ∈ all.map (·.1)
  · obtain ⟨m, hm, rfl⟩ := List.mem_map.1 hname
    obtain ⟨field, hfield, heq⟩ := List.mem_map.1 (hmem m hm)
    rw [← length_valuesOf, ← heq]
    exact h field hfield
  · rw [List.count_eq_zero.2 hname]
    exact Nat.zero_le 1

theorem valuesOf_eq_nil {name : String} (h : name ∉ all.map (·.1)) : valuesOf name all = [] := by
  rw [← List.length_eq_zero_iff, length_valuesOf, List.count_eq_zero.2 h]

/-! ## Objects

The runs of the search are those of `Collects`.  By induction on the entries, there is one just if
no entry stands in the way and no name is met a second time, and what it finds is everything that
goes by a name. -/

theorem gather_cons {e : Bytes × Doc} {entries : List (Bytes × Doc)} {key : String}
    (hkey : unescape? e.1 = some key) :
    gather fields (e :: entries) =
      ((fields.find? (·.hasName key)).map fun field => (field.name, e.2)).toList ++
        gather fields entries := by
  rw [gather, List.filterMap_cons, hkey, Option.bind_some]
  cases fields.find? (·.hasName key) <;> rfl

theorem name_of_mem_gather {entries : List (Bytes × Doc)} {m : String × Doc}
    (h : m ∈ gather fields entries) : m.1 ∈ fields.map (·.name) := by
  obtain ⟨e, -, he⟩ := List.mem_filterMap.1 h
  obtain ⟨field, hfield, rfl⟩ := Option.map_eq_some_iff.1 he
  obtain ⟨key, -, hfind⟩ := Option.bind_eq_some_iff.1 hfield
  exact List.mem_map_of_mem (List.mem_of_find?_eq_some hfind)

/-- The entry is readable where it is a member. -/
def Suitable (fields : List Field) (site : Site) (e : Bytes × Doc) : Prop :=
  ∀ key field, unescape? e.1 = some key → fields.find? (·.hasName key) = some field →
    field.check site e.2 = .ok ()

/-- **What is found in an object** is all that goes by the name of a field, each name once. -/
theorem collects_iff {entries : List (Bytes × Doc)} (hfound : (found.map (·.1)).Nodup) :
    Collects fields site found entries all ↔
      (∀ e ∈ entries, Passes fields e ∧ Suitable fields site e) ∧
        all = found ++ gather fields entries ∧ (all.map (·.1)).Nodup := by
  constructor
  · intro h
    refine ⟨?_, ?_, h.nodup hfound⟩
    · clear hfound
      induction h with
      | nil => exact nofun
      | skipped hkey hunknown hcomplete _ ih =>
        refine List.forall_mem_cons.2
          ⟨⟨⟨_, hkey, fun _ => readSkipped_eq_ok.1 hcomplete⟩, fun _ _ hkey' hknown => ?_⟩, ih⟩
        rw [hkey] at hkey'
        cases hkey'
        cases hunknown.symm.trans hknown
      | member hkey hknown _ hcheck _ ih =>
        refine List.forall_mem_cons.2 ⟨⟨⟨_, hkey, fun hunknown => ?_⟩,
          fun _ _ hkey' hknown' => ?_⟩, ih⟩
        · cases hunknown.symm.trans hknown
        · rw [hkey] at hkey'
          cases hkey'
          cases hknown.symm.trans hknown'
          exact hcheck
    · clear hfound
      induction h with
      | nil => exact (List.append_nil _).symm
      | skipped hkey hunknown _ _ ih =>
        rw [ih, gather_cons hkey, hunknown]
        rfl
      | member hkey hknown _ _ _ ih =>
        rw [ih, gather_cons hkey, hknown, List.append_assoc]
        rfl
  · rintro ⟨hentries, rfl, hall⟩
    induction entries generalizing found with
    | nil =>
      rw [show gather fields [] = [] from rfl, List.append_nil]
      exact .nil found
    | cons e entries ih =>
      obtain ⟨⟨⟨key, hkey, hcomplete⟩, hsuits⟩, hentries⟩ := List.forall_mem_cons.1 hentries
      rw [gather_cons hkey] at hall ⊢
      cases hfind : fields.find? (·.hasName key) with
      | none =>
        rw [hfind] at hall
        exact .skipped hkey hfind (readSkipped_eq_ok.2 (hcomplete hfind)) (ih hfound hentries hall)
      | some field =>
        have hone : found ++ ((Option.map (fun field => (field.name, e.2)) (some field)).toList ++
            gather fields entries) = found ++ [(field.name, e.2)] ++ gather fields entries :=
          (List.append_assoc _ _ _).symm
        rw [hfind, hone] at hall
        rw [hone]
        have hbefore : ((found ++ [(field.name, e.2)]).map (·.1)).Nodup := by
          rw [List.map_append] at hall
          exact (List.nodup_append.1 hall).1
        refine .member hkey hfind (fun hold => ?_) (hsuits key field hkey hfind)
          (ih hbefore hentries hall)
        rw [List.map_append, List.map_singleton] at hbefore
        exact (List.nodup_append.1 hbefore).2.2 _ hold _ (List.mem_singleton_self _) rfl

/-- The values of the entries that have a name of the field. -/
def Field.among (field : Field) (entries : List (Bytes × Doc)) : List Doc :=
  (entries.filter fun e => (unescape? e.1).any field.hasName).map (·.2)

/-- The values of the entries with a key. -/
def valuesAt (key : String) (entries : List (Bytes × Doc)) : List Doc :=
  (entries.filter (unescape? ·.1 == some key)).map (·.2)

/-- A field that has one name has the values of that key. -/
theorem Field.among_eq_valuesAt (h : field.alias? = none) (entries : List (Bytes × Doc)) :
    field.among entries = valuesAt field.name entries := by
  have hname : (fun e : Bytes × Doc => (unescape? e.1).any field.hasName) =
      fun e => unescape? e.1 == some field.name := by
    funext e
    cases unescape? e.1 with
    | none => rfl
    | some key =>
      rw [Option.any_some, hasName, h, Bool.beq_comm]
      exact Bool.or_false _
  rw [among, valuesAt, hname]

/-- **What is gathered for a field** are the values of the entries that have a name of it. -/
theorem valuesOf_gather (h : Apart fields) (hfield : field ∈ fields)
    (entries : List (Bytes × Doc)) :
    valuesOf field.name (gather fields entries) = field.among entries := by
  induction entries with
  | nil => rfl
  | cons e entries ih =>
    rw [Field.among] at ih ⊢
    cases hkey : unescape? e.1 with
    | none => simpa [gather, hkey] using ih
    | some key =>
      rw [gather_cons hkey, List.filter_cons, hkey, Option.any_some]
      cases hfind : fields.find? (·.hasName key) with
      | none =>
        have hno : field.hasName key = false := by
          simpa using List.find?_eq_none.1 hfind field hfield
        rw [hno]
        exact ih
      | some field' =>
        obtain ⟨hfield', hkey'⟩ := h.find?_eq_some_iff.1 hfind
        show valuesOf field.name ((field'.name, e.2) :: gather fields entries) = _
        rw [valuesOf_cons, ih]
        cases hhas : field.hasName key with
        | true =>
          rw [h.eq_of_mem hfield' hfield hkey' (Field.hasName_iff.1 hhas), if_pos rfl]
          rfl
        | false =>
          refine if_neg fun hname : field'.name = field.name => ?_
          have hsame := h.eq_of_mem hfield' hfield (hname ▸ field'.name_mem_names)
            field.name_mem_names
          rw [hsame] at hkey'
          cases hhas.symm.trans (Field.hasName_iff.2 hkey')

/-! ## Arrays

An array has its items in the order of the fields, and may stop early where the fields that are left
may be left out. -/

/-- **What is found in an array** are its values, each for the field of its place. -/
theorem collectsItems_iff {ds : List Doc} :
    CollectsItems site fields ds all ↔
      ds.length ≤ fields.length ∧ (∀ field ∈ fields.drop ds.length, field.omissible = true) ∧
        (∀ m ∈ fields.zip ds, m.1.check site m.2 = .ok ()) ∧
        all = arrange fields ds := by
  constructor
  · intro h
    induction h with
    | nil => exact ⟨Nat.le_refl 0, nofun, nofun, rfl⟩
    | omitted homissible _ ih =>
      obtain ⟨-, hdrop, -, rfl⟩ := ih
      exact ⟨Nat.zero_le _, List.forall_mem_cons.2 ⟨homissible, hdrop⟩, nofun, by simp [arrange]⟩
    | member hcheck _ ih =>
      obtain ⟨hlength, hdrop, hchecks, rfl⟩ := ih
      exact ⟨Nat.succ_le_succ hlength, hdrop, List.forall_mem_cons.2 ⟨hcheck, hchecks⟩, rfl⟩
  · rintro ⟨hlength, hdrop, hchecks, rfl⟩
    induction fields generalizing ds with
    | nil =>
      rw [List.length_eq_zero_iff.1 (Nat.le_zero.1 hlength)]
      exact .nil
    | cons field fields ih =>
      cases ds with
      | nil =>
        obtain ⟨homissible, hdrop⟩ := List.forall_mem_cons.1 hdrop
        have hothers : CollectsItems site fields [] (arrange fields []) :=
          ih (Nat.zero_le _) hdrop (by simp)
        rw [arrange, List.zip_nil_right] at hothers ⊢
        exact .omitted homissible hothers
      | cons d ds =>
        obtain ⟨hcheck, hchecks⟩ := List.forall_mem_cons.1 hchecks
        exact .member hcheck (ih (Nat.le_of_succ_le_succ hlength) hdrop hchecks)

theorem name_of_mem_arrange {ds : List Doc} {m : String × Doc} (h : m ∈ arrange fields ds) :
    m.1 ∈ fields.map (·.name) := by
  obtain ⟨⟨field, d⟩, hmem, rfl⟩ := List.mem_map.1 h
  exact List.mem_map_of_mem (f := Field.name) (List.of_mem_zip hmem).1

/-- **What an array holds for a field** is the value in the place of the field. -/
theorem valuesOf_arrange (hfields : (fields.map (·.name)).Nodup) {i : Nat}
    (hfield : fields[i]? = some field) (ds : List Doc) :
    valuesOf field.name (arrange fields ds) = ds[i]?.toList := by
  induction fields generalizing i ds with
  | nil => cases hfield
  | cons first fields ih =>
    obtain ⟨hfirst, hfields⟩ := List.nodup_cons.1 hfields
    cases ds with
    | nil => rfl
    | cons d ds =>
      show valuesOf field.name ((first.name, d) :: arrange fields ds) = _
      rw [valuesOf_cons]
      cases i with
      | zero =>
        cases hfield
        rw [if_pos rfl, valuesOf_eq_nil]
        · rfl
        · intro hmem
          obtain ⟨m, hm, hname⟩ := List.mem_map.1 hmem
          exact hfirst (hname ▸ name_of_mem_arrange hm :)
      | succ i =>
        have hmem : field.name ∈ fields.map (·.name) :=
          List.mem_map_of_mem (f := Field.name) (List.mem_of_getElem? hfield)
        have hne : first.name ≠ field.name := fun hname => hfirst (hname ▸ hmem :)
        rw [if_neg hne, ih hfields hfield]
        rfl

/-! ## Records

Both kinds together: a record is found just if the document lays out what is found, with one
readable value at most for each field. -/

theorem Lays.name_mem {d : Doc} (h : Lays fields d found) :
    ∀ m ∈ found, m.1 ∈ fields.map (·.name) := by
  cases h with
  | object => exact fun _ => name_of_mem_gather
  | array => exact fun _ => name_of_mem_arrange

/-- What was found can be read by the fields that it was found for. -/
def Checks (fields : List Field) (site : Site) (all : List (String × Doc)) : Prop :=
  ∀ field ∈ fields, ∀ d, (field.name, d) ∈ all → field.check site d = .ok ()

theorem fits_iff (hmem : ∀ m ∈ all, m.1 ∈ fields.map (·.name)) :
    (∀ field ∈ fields, field.Fits site (valuesOf field.name all)) ↔
      (all.map (·.1)).Nodup ∧ Checks fields site all := by
  constructor
  · intro h
    exact ⟨nodup_of_valuesOf hmem fun field hfield => (h field hfield).1,
      fun field hfield d hd => (h field hfield).2 d (mem_valuesOf.2 hd)⟩
  · rintro ⟨hnodup, hchecks⟩ field hfield
    refine ⟨?_, fun d hd => hchecks field hfield d (mem_valuesOf.1 hd)⟩
    rw [length_valuesOf]
    exact List.nodup_iff_count_le_one.1 hnodup field.name

theorem suitable_iff (hfields : (fields.map (·.name)).Nodup) {entries : List (Bytes × Doc)} :
    (∀ e ∈ entries, Suitable fields site e) ↔ Checks fields site (gather fields entries) := by
  constructor
  · intro h field hfield d hd
    obtain ⟨e, he, hmember⟩ := List.mem_filterMap.1 hd
    obtain ⟨field', hfield', heq⟩ := Option.map_eq_some_iff.1 hmember
    obtain ⟨key, hkey, hfind⟩ := Option.bind_eq_some_iff.1 hfield'
    obtain ⟨hname, rfl⟩ := Prod.mk.inj heq
    have hsame := List.inj_on_of_nodup_map hfields (List.mem_of_find?_eq_some hfind) hfield hname
    exact hsame ▸ h e he key field' hkey hfind
  · intro h e he key field hkey hfind
    refine h field (List.mem_of_find?_eq_some hfind) e.2 (List.mem_filterMap.2 ⟨e, he, ?_⟩)
    rw [hkey, Option.bind_some, hfind]
    rfl

theorem checks_arrange (hfields : (fields.map (·.name)).Nodup) {ds : List Doc} :
    (∀ m ∈ fields.zip ds, m.1.check site m.2 = .ok ()) ↔
      Checks fields site (arrange fields ds) := by
  constructor
  · intro h field hfield d hd
    obtain ⟨m, hm, heq⟩ := List.mem_map.1 hd
    obtain ⟨hname, rfl⟩ := Prod.mk.inj heq
    have hsame := List.inj_on_of_nodup_map hfields (List.of_mem_zip hm).1 hfield hname
    exact hsame ▸ h m hm
  · intro h m hm
    exact h m.1 (List.of_mem_zip hm).1 m.2 (List.mem_map_of_mem hm)

/-- When the members of an object are found, and what is found. -/
theorem collectEntries_nil_eq_ok_iff (hfields : (fields.map (·.name)).Nodup)
    {entries : List (Bytes × Doc)} :
    collectEntries fields site [] entries = .ok found ↔
      (∀ e ∈ entries, Passes fields e) ∧ found = gather fields entries ∧
        ∀ field ∈ fields, field.Fits site (valuesOf field.name found) := by
  have hnone : (([] : List (String × Doc)).map (·.1)).Nodup := List.nodup_nil
  rw [collectEntries_eq_ok, collects_iff hnone, List.nil_append]
  constructor
  · rintro ⟨hentries, rfl, hnodup⟩
    refine ⟨fun e he => (hentries e he).1, rfl, (fits_iff fun _ => name_of_mem_gather).2
      ⟨hnodup, (suitable_iff hfields).1 fun e he => (hentries e he).2⟩⟩
  · rintro ⟨hpasses, rfl, hfits⟩
    obtain ⟨hnodup, hchecks⟩ := (fits_iff fun _ => name_of_mem_gather).1 hfits
    have hsuits := (suitable_iff hfields).2 hchecks
    exact ⟨fun e he => ⟨hpasses e he, hsuits e he⟩, rfl, hnodup⟩

/-- When the members of an array are found, and what is found. -/
theorem collectItems_eq_ok_iff (hfields : (fields.map (·.name)).Nodup) {closed : Bool}
    {ds : List Doc} :
    collectItems site closed fields ds = .ok found ↔
      closed = true ∧ ds.length ≤ fields.length ∧
        (∀ field ∈ fields.drop ds.length, field.omissible = true) ∧ found = arrange fields ds ∧
        ∀ field ∈ fields, field.Fits site (valuesOf field.name found) := by
  rw [collectItems_eq_ok]
  refine and_congr_right fun _ => ⟨fun hfound => ?_, ?_⟩
  · have hnodup := hfound.sublist_and_mem.1.nodup hfields
    obtain ⟨hlength, hdrop, hchecks, rfl⟩ := collectsItems_iff.1 hfound
    exact ⟨hlength, hdrop, rfl, (fits_iff fun _ => name_of_mem_arrange).2
      ⟨hnodup, (checks_arrange hfields).1 hchecks⟩⟩
  · rintro ⟨hlength, hdrop, rfl, hfits⟩
    obtain ⟨-, hchecks⟩ := (fits_iff fun _ => name_of_mem_arrange).1 hfits
    exact collectsItems_iff.2 ⟨hlength, hdrop, (checks_arrange hfields).2 hchecks, rfl⟩

/-- **When a record is found in a document, and what is found**: the document lays it out, with one
readable value at most for each field. -/
theorem collect_eq_ok_iff (hfields : (fields.map (·.name)).Nodup) {d : Doc} {record : Record} :
    collect fields site d = .ok record ↔
      site.enter = .ok record.site ∧ Lays fields d record.found ∧
        ∀ field ∈ fields, field.Fits record.site (valuesOf field.name record.found) := by
  constructor
  · intro h
    cases d with
    | broken | null | bool | number | string => cases h
    | object members =>
      obtain ⟨inner, henter, h⟩ := bind_eq_ok.1 h
      obtain ⟨found, hfound, h⟩ := bind_eq_ok.1 h
      split at h
      · next hclosed =>
        cases h
        obtain ⟨hpasses, rfl, hfits⟩ := (collectEntries_nil_eq_ok_iff hfields).1 hfound
        exact ⟨henter, .object hclosed hpasses, hfits⟩
      · cases h
    | array items =>
      obtain ⟨inner, henter, h⟩ := bind_eq_ok.1 h
      obtain ⟨found, hfound, h⟩ := bind_eq_ok.1 h
      cases h
      obtain ⟨hclosed, hlength, hdrop, rfl, hfits⟩ := (collectItems_eq_ok_iff hfields).1 hfound
      exact ⟨henter, .array hclosed hlength hdrop, hfits⟩
  · obtain ⟨inner, found⟩ := record
    rintro ⟨henter, hlays, hfits⟩
    cases hlays with
    | object hclosed hpasses =>
      have hfound := (collectEntries_nil_eq_ok_iff hfields).2 ⟨hpasses, rfl, hfits⟩
      exact bind_eq_ok.2 ⟨inner, henter, bind_eq_ok.2 ⟨_, hfound, if_pos hclosed⟩⟩
    | array hclosed hlength hdrop =>
      have hfound := (collectItems_eq_ok_iff hfields).2 ⟨hclosed, hlength, hdrop, rfl, hfits⟩
      exact bind_eq_ok.2 ⟨inner, henter, bind_eq_ok.2 ⟨_, hfound, rfl⟩⟩

/-- A record is found only in a document that is broken off nowhere, if its members are such. -/
theorem Lays.complete (hfields : (fields.map (·.name)).Nodup) {d : Doc} (h : Lays fields d found)
    (hfits : ∀ field ∈ fields, field.Fits site (valuesOf field.name found))
    (hcheck : ∀ field ∈ fields, ∀ d, field.check site d = .ok () → d.complete = true) :
    d.complete = true := by
  obtain ⟨-, hchecks⟩ := (fits_iff h.name_mem).1 hfits
  cases h with
  | object hclosed hpasses =>
    have hsuits := (suitable_iff hfields).2 hchecks
    refine Members.complete_iff.2 ⟨hclosed, fun e he => ?_⟩
    obtain ⟨key, hkey, hunknown⟩ := hpasses e he
    cases hfind : fields.find? (·.hasName key) with
    | none => exact hunknown hfind
    | some field =>
      exact hcheck field (List.mem_of_find?_eq_some hfind) _ (hsuits e he key field hkey hfind)
  | @array items hclosed hlength =>
    have hsuits := (checks_arrange hfields).2 hchecks
    refine Items.complete_iff.2 ⟨hclosed, fun d hd => ?_⟩
    rw [← List.map_snd_zip hlength] at hd
    obtain ⟨⟨field, d⟩, hmem, rfl⟩ := List.mem_map.1 hd
    exact hcheck field (List.of_mem_zip hmem).1 _ (hsuits _ hmem)

/-- What is found in a document that is broken off nowhere is not broken off either. -/
theorem Lays.complete_found {d : Doc} (h : Lays fields d found) (hd : d.complete = true) :
    ∀ m ∈ found, m.2.complete = true := by
  intro m hm
  cases h with
  | object =>
    obtain ⟨e, he, hmember⟩ := List.mem_filterMap.1 hm
    obtain ⟨field, -, rfl⟩ := Option.map_eq_some_iff.1 hmember
    exact (Members.complete_iff.1 hd).2 e he
  | array =>
    obtain ⟨⟨field, d⟩, hmem, rfl⟩ := List.mem_map.1 hm
    exact (Items.complete_iff.1 hd).2 d (List.of_mem_zip hmem).2

end Lays

/-! ## Slots

A slot is a field with a type.  What was found has been checked by its field already, so taking a
value can only fail where nothing was found and something has to be there. -/

section Slot

variable {α : Type} {slot : Slot α} {site : Site} {ds : List Doc} {a : α}

/-- What is there for a slot gives it this value: there is one readable value, or none. -/
inductive Slot.Takes (slot : Slot α) (site : Site) : List Doc → α → Prop
  | absent {a : α} (value : slot.absent = .ok a) : Takes slot site [] a
  | present {d : Doc} {a : α} (reads : slot.read site d = .ok a) : Takes slot site [d] a

theorem Slot.Takes.fits (h : slot.Takes site ds a) : slot.field.Fits site ds := by
  cases h with
  | absent => exact ⟨Nat.zero_le 1, nofun⟩
  | present hread => exact ⟨Nat.le_refl 1, List.forall_mem_singleton.2 (map_eq_ok.2 ⟨a, hread, rfl⟩)⟩

/-- There is one value at most for a slot that has one. -/
theorem Slot.Takes.exists_toList (h : slot.Takes site ds a) : ∃ d? : Option Doc, ds = d?.toList := by
  cases h with
  | absent => exact ⟨none, rfl⟩
  | @present d => exact ⟨some d, rfl⟩

/-- **A slot has a value** if what was found for it gives it that value. -/
theorem Record.get_eq_ok_iff {record : Record}
    (h : (valuesOf slot.name record.found).length ≤ 1) :
    record.get slot = .ok a ↔ slot.Takes record.site (valuesOf slot.name record.found) a := by
  have hfind : (record.found.find? (·.1 == slot.name)).map (·.2) =
      (valuesOf slot.name record.found).head? := by
    rw [valuesOf, List.head?_map, List.head?_filter]
  rw [Record.get]
  generalize record.found.find? (·.1 == slot.name) = m? at hfind
  generalize valuesOf slot.name record.found = ds at h hfind
  cases m? with
  | none =>
    cases ds with
    | nil => exact ⟨.absent, fun h => by cases h; assumption⟩
    | cons => cases hfind
  | some m =>
    cases ds with
    | nil => cases hfind
    | cons d rest =>
      obtain rfl := List.length_eq_zero_iff.1 (Nat.le_zero.1 (Nat.le_of_succ_le_succ h))
      cases hfind
      exact ⟨.present, fun h => by cases h; assumption⟩

theorem Slot.Takes.get {record : Record}
    (h : slot.Takes record.site (valuesOf slot.name record.found) a) : record.get slot = .ok a :=
  (Record.get_eq_ok_iff h.fits.1).2 h

theorem Lays.unique {fields : List Field} {d : Doc} {found found' : List (String × Doc)}
    (h : Lays fields d found) (h' : Lays fields d found') : found = found' := by
  cases h <;> cases h' <;> rfl

/-- What a document lays out gives a slot the value that it has in the record that is found. -/
theorem Lays.takes_of_get {fields : List Field} {d : Doc} {found : List (String × Doc)}
    {record : Record} (h : Lays fields d found) (hfields : (fields.map (·.name)).Nodup)
    (hrecord : collect fields site d = .ok record) (hslot : slot.field ∈ fields)
    (hget : record.get slot = .ok a) : slot.Takes record.site (valuesOf slot.name found) a := by
  obtain ⟨-, hlays, hfits⟩ := (collect_eq_ok_iff hfields).1 hrecord
  rw [h.unique hlays]
  exact (Record.get_eq_ok_iff (hfits slot.field hslot).1).1 hget

/-- **When a record is read**: it is found, and its slots give the value. -/
theorem readRecord_eq_ok_iff {fields : List Field} {build : Record → Except Fault α} {d : Doc}
    (hfields : (fields.map (·.name)).Nodup) :
    readRecord fields build site d = .ok a ↔ ∃ record : Record, site.enter = .ok record.site ∧
      Lays fields d record.found ∧
      (∀ field ∈ fields, field.Fits record.site (valuesOf field.name record.found)) ∧
      build record = .ok a := by
  rw [readRecord, bind_eq_ok]
  simp only [collect_eq_ok_iff hfields, and_assoc]

end Slot

/-! ## Generic values

A generic value is written as a document that is broken off nowhere, so what is said about documents
gets simpler.  These are the forms in which the readers of single types use it. -/

section Value

variable {fields : List Field} {found : List (String × Doc)}

/-- An object lays out its members. -/
theorem lays_object {members : List (String × Value)} :
    Lays fields (Value.object members).toDoc found ↔
      found = gather fields (Value.toMembers members) := by
  have hentries : (Members.ofList (Value.toMembers members)).entries = Value.toMembers members :=
    Members.entries_ofList _
  constructor
  · intro h
    generalize hd : (Value.object members).toDoc = d at h
    cases h with
    | object =>
      cases hd
      rw [hentries]
    | array => cases hd
  · rintro rfl
    have hlays : Lays fields (Value.object members).toDoc
        (gather fields (Members.ofList (Value.toMembers members)).entries) := by
      refine .object (Members.closed_ofList _) fun e he => ?_
      rw [hentries] at he
      have hcomplete := Value.complete_toMembers members e he
      rw [Value.toMembers_eq_map] at he
      obtain ⟨m, -, rfl⟩ := List.mem_map.1 he
      exact ⟨m.1, unescape?_escape m.1, fun _ => hcomplete⟩
    rwa [hentries] at hlays

/-- An array lays out its items, if it has no more than there are fields, and no less than there have
to be. -/
theorem lays_array {items : List Value} :
    Lays fields (Value.array items).toDoc found ↔
      items.length ≤ fields.length ∧
        (∀ field ∈ fields.drop items.length, field.omissible = true) ∧
        found = arrange fields (items.map Value.toDoc) := by
  have hvalues : (Items.ofList (Value.toDocs items)).values = items.map Value.toDoc := by
    rw [Items.values_ofList, Value.toDocs_eq_map]
  have hlength : (Items.ofList (Value.toDocs items)).values.length = items.length := by
    rw [hvalues, List.length_map]
  constructor
  · intro h
    generalize hd : (Value.array items).toDoc = d at h
    cases h with
    | object => cases hd
    | array _ hmost homissible =>
      cases hd
      rw [hlength] at hmost homissible
      exact ⟨hmost, homissible, by rw [hvalues]⟩
  · rintro ⟨hmost, homissible, rfl⟩
    rw [← hlength] at hmost homissible
    rw [← hvalues]
    exact .array (Items.closed_ofList _) hmost homissible

/-- The values that an object has under the names of a field. -/
def Field.valuesIn (field : Field) (members : List (String × Value)) : List Value :=
  (members.filter (field.hasName ·.1)).map (·.2)

theorem Field.among_toMembers (field : Field) (members : List (String × Value)) :
    field.among (Value.toMembers members) = (field.valuesIn members).map Value.toDoc := by
  rw [Value.toMembers_eq_map, among, valuesIn, List.filter_map, List.map_map, List.map_map]
  have hkeys : (fun m : String × Value => (unescape? (escape m.1)).any field.hasName) =
      fun m => field.hasName m.1 := by
    funext m
    rw [unescape?_escape, Option.any_some]
  exact congrArg (fun p => (members.filter p).map (·.2.toDoc)) hkeys

/-- A field that has one name has what is looked up under it. -/
theorem Field.valuesIn_eq_lookupMember {field : Field} (h : field.alias? = none)
    {members : List (String × Value)} (hmembers : (members.map (·.1)).Nodup) :
    field.valuesIn members = (Value.lookupMember field.name members).toList := by
  have hname : (fun m : String × Value => field.hasName m.1) = fun m => m.1 == field.name := by
    funext m
    rw [hasName, h, Bool.beq_comm]
    exact Bool.or_false _
  rw [valuesIn, hname, Value.filter_eq_lookupMember hmembers]

/-- What is looked up for a slot gives it this value. -/
inductive Slot.Finds {α : Type} (slot : Slot α) : Option Value → α → Prop
  | absent {a : α} (value : slot.absent = .ok a) : Finds slot none a
  | present {v : Value} {a : α} (reads : slot.read.ofValue v = .ok a) : Finds slot (some v) a

/-- **What an object in order gives a slot that has one name** is what is looked up under it. -/
theorem Slot.takes_gather_iff_finds {α : Type} {slot : Slot α} {a : α} (hfields : Apart fields)
    (hslot : slot.field ∈ fields) (hname : slot.alias? = none) {members : List (String × Value)}
    (hmembers : (Value.object members).InOrder) :
    slot.Takes .value (valuesOf slot.name (gather fields (Value.toMembers members))) a ↔
      slot.Finds (Value.lookupMember slot.name members) a := by
  have hvalues : valuesOf slot.name (gather fields (Value.toMembers members)) =
      (Value.lookupMember slot.name members).toList.map Value.toDoc := by
    rw [show slot.name = slot.field.name from rfl, valuesOf_gather hfields hslot,
      Field.among_toMembers, Field.valuesIn_eq_lookupMember hname hmembers.nodup]
  rw [hvalues]
  cases Value.lookupMember slot.name members with
  | none => exact ⟨fun h => by cases h; exact .absent ‹_›, fun h => by cases h; exact .absent ‹_›⟩
  | some v => exact ⟨fun h => by cases h; exact .present ‹_›, fun h => by cases h; exact .present ‹_›⟩

/-- What is there for a text that may be left out: nothing, null, or the text. -/
inductive OneText : List Value → Option String → Prop
  | absent : OneText [] none
  | null : OneText [.null] none
  | text (s : String) : OneText [.string s] (some s)

theorem OneText.eq_some_iff {v? : Option Value} {s? : Option String} (h : OneText v?.toList s?)
    {s : String} : s? = some s ↔ v? = some (.string s) := by
  match v?, h with
  | none, .absent => exact ⟨nofun, nofun⟩
  | some .null, .null => exact ⟨nofun, nofun⟩
  | some (.string t), .text _ => simp [eq_comm]

theorem readOption_readString_toDoc {site : Site} {v : Value} {s? : Option String} :
    readOption readString site v.toDoc = .ok s? ↔ OneText [v] s? := by
  cases v with
  | null =>
    constructor
    · rintro ⟨⟩
      exact .null
    · rintro ⟨⟩
      rfl
  | string s =>
    have hread : readOption readString site (Value.string s).toDoc = .ok (some s) :=
      congrArg (some <$> ·) (readString_ofString site s)
    rw [hread]
    constructor
    · rintro ⟨⟩
      exact .text s
    · rintro ⟨⟩
      rfl
  | bool | number | array | object => exact ⟨nofun, nofun⟩

/-- **A text that may be left out is read of nothing, of null and of a text**, and of nothing
else. -/
theorem takes_iff_oneText {slot : Slot (Option String)} {site : Site} {vs : List Value}
    {s? : Option String} (hread : slot.read = readOption readString)
    (habsent : slot.absent = .ok none) :
    slot.Takes site (vs.map Value.toDoc) s? ↔ OneText vs s? := by
  match vs with
  | [] =>
    constructor
    · rintro ⟨h⟩
      cases habsent.symm.trans h
      exact .absent
    · rintro ⟨⟩
      exact .absent habsent
  | [v] =>
    rw [← @readOption_readString_toDoc site, ← hread]
    exact ⟨fun h => by cases h; assumption, .present⟩
  | _ :: _ :: _ => exact ⟨nofun, nofun⟩

section Text

variable {slot : Slot (Option String)} {site : Site} {s? : Option String}
  (hread : slot.read = readOption readString) (habsent : slot.absent = .ok none)
include hread habsent

/-- What an object gives for a text that may be left out. -/
theorem takes_gather (hfields : Apart fields) (hslot : slot.field ∈ fields)
    {members : List (String × Value)} :
    slot.Takes site (valuesOf slot.name (gather fields (Value.toMembers members))) s? ↔
      OneText (slot.field.valuesIn members) s? := by
  have hvalues : valuesOf slot.name (gather fields (Value.toMembers members)) =
      (slot.field.valuesIn members).map Value.toDoc :=
    (valuesOf_gather hfields hslot _).trans (slot.field.among_toMembers members)
  rw [hvalues, takes_iff_oneText hread habsent]

/-- What an array gives for it. -/
theorem takes_arrange (hfields : (fields.map (·.name)).Nodup) {i : Nat}
    (hslot : fields[i]? = some slot.field) {items : List Value} :
    slot.Takes site (valuesOf slot.name (arrange fields (items.map Value.toDoc))) s? ↔
      OneText items[i]?.toList s? := by
  have hvalues : valuesOf slot.name (arrange fields (items.map Value.toDoc)) =
      items[i]?.toList.map Value.toDoc := by
    rw [show slot.name = slot.field.name from rfl, valuesOf_arrange hfields hslot,
      List.getElem?_map, Option.toList_map]
  rw [hvalues, takes_iff_oneText hread habsent]

end Text

end Value

end Tollbooth.Json
