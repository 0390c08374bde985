import Mathlib.Data.List.Forall2
import Tollbooth.Proofs.Json.Value
/-!
# Reading lists and maps

An array is read as a list item by item, and an object as a map entry by entry.  A lenient list keeps
the items that can be read.  Whatever the order of the entries, a map is in the order of its keys.

Readers of containers stop at the first item that they cannot read, and go through a document in its
order.  What they come to if they do not stop can be said without any order: every item is read, by
itself.  The two kinds of documents need different care.  In a text an item may be broken off, and
then even a lenient list is lost; a generic value is at hand as a whole, and there an item is lost
alone.

* `readItems_eq_ok_iff` — a list is read if every item is.
* `readList_ofValue_eq_ok_iff`, `readListLenient_ofValue_eq_ok_iff` — arrays as generic values.
* `readMap_ofValue_eq_ok_iff` — objects in order as generic values.
* `pairwise_of_readMap` — a map that is read is in order.
-/

set_option autoImplicit false

namespace Tollbooth.Json

open Tollbooth (Bytes)

variable {α : Type} {site : Site}

/-! ## Texts -/

theorem readString_toDoc_eq_ok_iff {v : Value} {s : String} :
    readString site v.toDoc = .ok s ↔ v = .string s := by
  cases v with
  | string t =>
    have hread : readString site (Value.string t).toDoc = .ok t := readString_ofString site t
    rw [hread, Except.ok.injEq, Value.string.injEq]
  | null | bool | number | array | object => exact ⟨nofun, nofun⟩

/-! ## Lists

A lenient list reads every item as something that may be nothing, which always succeeds on a generic
value, and takes out the nothings afterwards. -/

theorem forall₂_eq_map_iff {β : Type} {f : β → α} {as : List α} {bs : List β} :
    List.Forall₂ (fun a b => a = f b) as bs ↔ as = bs.map f := by
  rw [← List.forall₂_map_right_iff, List.forall₂_eq_eq_eq]

/-- **A list is read if every item is.** -/
theorem readItems_eq_ok_iff {read : Doc → Except Fault α} {closed : Bool} {ds : List Doc}
    {as : List α} :
    readItems read closed ds = .ok as ↔
      closed = true ∧ List.Forall₂ (fun d a => read d = .ok a) ds as := by
  induction ds generalizing as with
  | nil =>
    rw [readItems]
    cases closed with
    | false => exact ⟨nofun, fun h => absurd h.1 Bool.false_ne_true⟩
    | true => simp [eq_comm]
  | cons d ds ih =>
    rw [readItems, bind_eq_ok]
    constructor
    · rintro ⟨a, ha, h⟩
      obtain ⟨rest, hrest, h⟩ := bind_eq_ok.1 h
      cases h
      obtain ⟨hclosed, hrest⟩ := ih.1 hrest
      exact ⟨hclosed, .cons ha hrest⟩
    · rintro ⟨hclosed, h⟩
      cases h with
      | cons ha hrest =>
        exact ⟨_, ha, bind_eq_ok.2 ⟨_, ih.2 ⟨hclosed, hrest⟩, rfl⟩⟩

theorem toDoc_array (items : List Value) :
    (Value.array items).toDoc = .array (.ofList (items.map Value.toDoc)) := by
  rw [Value.toDoc, Value.toDocs_eq_map]

/-- **A value is read as a list** if it is an array and every item is read. -/
theorem readList_ofValue_eq_ok_iff {read : Reader α} {v : Value} {as : List α} :
    (readList read).ofValue v = .ok as ↔
      ∃ items, v = .array items ∧ List.Forall₂ (fun i a => read.ofValue i = .ok a) items as := by
  cases v with
  | array items =>
    have hread : (readList read).ofValue (.array items) =
        readItems (read .value) true (items.map Value.toDoc) := by
      rw [Reader.ofValue, toDoc_array]
      show readItems (read .value) (Items.ofList _).closed (Items.ofList _).values = _
      rw [Items.closed_ofList, Items.values_ofList]
    rw [hread, readItems_eq_ok_iff, List.forall₂_map_left_iff]
    simp [Reader.ofValue]
  | null | bool | number | string | object =>
    constructor
    · intro h
      cases h
    · rintro ⟨items, ⟨⟩, -⟩

/-- **A value is read as a lenient list** if it is an array; the items that can be read are kept. -/
theorem readListLenient_ofValue_eq_ok_iff {read : Reader α} {v : Value} {as : List α} :
    (readListLenient read).ofValue v = .ok as ↔
      ∃ items, v = .array items ∧ as = items.filterMap fun i => (read.ofValue i).toOption := by
  cases v with
  | array items =>
    -- Nothing about a value at hand can fail but the items, and those are only left out.
    have hitems : ∀ ds : List Doc, readItems
        (fun d => (.ok (read .value d).toOption : Except Fault (Option α))) true ds =
          .ok (ds.map fun d => (read .value d).toOption) := fun ds =>
      readItems_eq_ok_iff.2 ⟨rfl, List.forall₂_map_right_iff.2 (List.forall₂_same.2 fun _ _ => rfl)⟩
    have hread : (readListLenient read).ofValue (.array items) =
        .ok (items.filterMap fun i => (read.ofValue i).toOption) := by
      rw [Reader.ofValue, toDoc_array]
      show (List.reduceOption ·) <$>
        readItems _ (Items.ofList _).closed (Items.ofList _).values = _
      rw [Items.closed_ofList, Items.values_ofList]
      refine map_eq_ok.2 ⟨_, hitems _, ?_⟩
      show ((items.map Value.toDoc).map fun d => (read .value d).toOption).filterMap id = _
      rw [List.map_map, List.filterMap_map]
      rfl
    rw [hread]
    simp [eq_comm]
  | null | bool | number | string | object =>
    constructor
    · intro h
      cases h
    · rintro ⟨items, ⟨⟩, -⟩

/-! ## Maps

Entries are put in one by one, each in the place that its key has among those before it.  For
entries that come in order this place is the last one, so on generic values, whose members are in
order, reading a map keeps them as they are. -/

namespace Value

/-- A member behind all others comes last. -/
theorem insertMember_of_forall_lt {key : String} {value : α} {members : List (String × α)}
    (h : ∀ k ∈ members.map (·.1), k < key) :
    insertMember key value members = members ++ [(key, value)] := by
  induction members with
  | nil => rfl
  | cons m members ih =>
    obtain ⟨other, v⟩ := m
    obtain ⟨hfirst, hrest⟩ := List.forall_mem_cons.1 h
    rw [insertMember, if_neg (String.lt_asymm hfirst), if_neg, ih hrest]
    · rfl
    · rintro rfl
      exact String.lt_irrefl _ hfirst

end Value

/-- The entries that are read are put in order. -/
theorem pairwise_of_readEntries {read : Doc → Except Fault α} {closed : Bool}
    {found all : List (String × α)} {entries : List (Bytes × Doc)}
    (h : readEntries read closed found entries = .ok all)
    (hfound : (found.map (·.1)).Pairwise (· < ·)) : (all.map (·.1)).Pairwise (· < ·) := by
  induction entries generalizing found with
  | nil =>
    rw [readEntries] at h
    split at h
    · cases h
      exact hfound
    · cases h
  | cons e entries ih =>
    rw [readEntries] at h
    split at h
    · cases h
    · obtain ⟨a, -, h⟩ := bind_eq_ok.1 h
      exact ih h (Value.pairwise_insertMember hfound)

/-- **A map that is read is in the order of its keys**, each of which is there once. -/
theorem pairwise_of_readMap {read : Reader α} {d : Doc} {all : List (String × α)}
    (h : readMap read site d = .ok all) : (all.map (·.1)).Pairwise (· < ·) := by
  cases d with
  | broken | null | bool | number | string | array => cases h
  | object members =>
    obtain ⟨inner, -, h⟩ := bind_eq_ok.1 h
    exact pairwise_of_readEntries h .nil

/-- Entries in order are read one by one. -/
theorem readEntries_toMembers_eq_ok_iff {read : Doc → Except Fault α}
    {found all : List (String × α)} {members : List (String × Value)}
    (hmembers : (found.map (·.1) ++ members.map (·.1)).Pairwise (· < ·)) :
    readEntries read true found (Value.toMembers members) = .ok all ↔
      ∃ rest, all = found ++ rest ∧
        List.Forall₂ (fun m e => m.1 = e.1 ∧ read m.2.toDoc = .ok e.2) members rest := by
  induction members generalizing found with
  | nil =>
    rw [Value.toMembers, readEntries, if_pos rfl, Except.ok.injEq]
    simp [eq_comm]
  | cons m members ih =>
    obtain ⟨key, v⟩ := m
    have hlast : ∀ a, Value.insertMember key a found = found ++ [(key, a)] := fun a =>
      Value.insertMember_of_forall_lt fun k hk =>
        (List.pairwise_append.1 hmembers).2.2 k hk key List.mem_cons_self
    rw [Value.toMembers, readEntries, unescape?_escape]
    dsimp only
    rw [bind_eq_ok]
    constructor
    · rintro ⟨a, ha, h⟩
      rw [hlast, ih (by simpa using hmembers)] at h
      obtain ⟨rest, rfl, hrest⟩ := h
      exact ⟨(key, a) :: rest, by simp, .cons ⟨rfl, ha⟩ hrest⟩
    · rintro ⟨rest, rfl, hrest⟩
      cases hrest with
      | @cons _ e _ rest ha hrest =>
        obtain ⟨other, a⟩ := e
        obtain ⟨rfl, ha⟩ := ha
        refine ⟨a, ha, ?_⟩
        rw [hlast, ih (by simpa using hmembers)]
        exact ⟨rest, by simp, hrest⟩

/-- **An object in order is read as a map** if every value is read. -/
theorem readMap_ofValue_eq_ok_iff {read : Reader α} {members : List (String × Value)}
    {all : List (String × α)} (h : (Value.object members).InOrder) :
    (readMap read).ofValue (.object members) = .ok all ↔
      List.Forall₂ (fun m e => m.1 = e.1 ∧ read.ofValue m.2 = .ok e.2) members all := by
  have hread : (readMap read).ofValue (.object members) =
      readEntries (read .value) true [] (Value.toMembers members) := by
    rw [Reader.ofValue, Value.toDoc]
    show readEntries _ (Members.ofList _).closed [] (Members.ofList _).entries = _
    rw [Members.closed_ofList, Members.entries_ofList]
  rw [hread, readEntries_toMembers_eq_ok_iff]
  · simp [Reader.ofValue]
  · cases h with
    | object keys => exact keys

end Tollbooth.Json
