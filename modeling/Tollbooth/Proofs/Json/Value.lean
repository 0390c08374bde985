import Tollbooth.Proofs.Json.Write
/-!
# Generic values

The members of a generic value have an order: that of their keys, each of which is there once.
Every value that is read is so, whatever the order of the text that it was read from.  It is written
as a document that is broken off nowhere, and read from such a document only.

The order is what makes generic values fit for comparison: two texts that differ in the order of
their members are read as one value, and a key that is there twice is there once.  It is also what
makes statements about them simple, because in a value in order what is looked up under a key is all
there is under it.  So nearly everything that is said of values from outside carries the hypothesis
that they are in order, and `inOrder_of_readGeneric` says that it is never in the way.

One kind of object is read in another way: its first member has a key that says that the string
under it is itself JSON, and the object stands for the value of that text.  The text is shorter than
the one that it stands in, so the lemmas go by induction on the fuel and then on the document.

* `Value.InOrder` — every object in the value is in the order of its keys.
* `inOrder_of_readGeneric` — every value that is read is in order.
* `Value.complete_toDoc`, `complete_of_readGeneric` — nothing is broken off on the way to a document
  and back.
-/

set_option autoImplicit false

namespace Tollbooth.Json

/-! ## Members by key

Members are put in one after the other, each in its place, and one that has the key of another
replaces it. -/

namespace Value

section Members

variable {α : Type} {key : String} {value : α} {members : List (String × α)}

theorem mem_keys_insertMember {k : String} :
    k ∈ (insertMember key value members).map (·.1) ↔ k = key ∨ k ∈ members.map (·.1) := by
  induction members with
  | nil => simp [insertMember]
  | cons m members ih =>
    obtain ⟨other, v⟩ := m
    rw [insertMember]
    split
    · simp
    · split
      · next heq => simp [heq]
      · rw [List.map_cons, List.mem_cons, ih, List.map_cons, List.mem_cons, or_left_comm]

/-- A member that is put in finds its place. -/
theorem pairwise_insertMember (h : (members.map (·.1)).Pairwise (· < ·)) :
    ((insertMember key value members).map (·.1)).Pairwise (· < ·) := by
  induction members with
  | nil => exact List.pairwise_singleton _ _
  | cons m members ih =>
    obtain ⟨other, v⟩ := m
    obtain ⟨hfirst, hrest⟩ := List.pairwise_cons.1 h
    rw [insertMember]
    split
    · next hlt =>
      refine List.pairwise_cons.2 ⟨fun k hk => ?_, h⟩
      obtain rfl | hk := List.mem_cons.1 hk
      · exact hlt
      · exact String.lt_trans hlt (hfirst k hk)
    · next hlt =>
      split
      · next heq => exact List.pairwise_cons.2 ⟨heq ▸ hfirst, hrest⟩
      · next hne =>
        refine List.pairwise_cons.2 ⟨fun k hk => ?_, ih hrest⟩
        obtain rfl | hk := mem_keys_insertMember.1 hk
        · exact Std.lt_of_le_of_ne (String.not_lt.1 hlt) (Ne.symm hne)
        · exact hfirst k hk

theorem mem_insertMember {m : String × α} (h : m ∈ insertMember key value members) :
    m = (key, value) ∨ m ∈ members := by
  induction members with
  | nil => exact .inl (List.mem_singleton.1 h)
  | cons m' members ih =>
    obtain ⟨other, v⟩ := m'
    rw [insertMember] at h
    split at h
    · exact List.mem_cons.1 h
    · split at h
      · exact (List.mem_cons.1 h).imp_right (List.mem_cons_of_mem _)
      · obtain rfl | h := List.mem_cons.1 h
        · exact .inr List.mem_cons_self
        · exact (ih h).imp_right (List.mem_cons_of_mem _)

/-- Where no key is there twice, the members of a key are the one that is looked up. -/
theorem filter_eq_lookupMember (h : (members.map (·.1)).Nodup) :
    (members.filter (·.1 == key)).map (·.2) = (lookupMember key members).toList := by
  rw [lookupMember]
  induction members with
  | nil => rfl
  | cons m members ih =>
    obtain ⟨hfirst, hrest⟩ := List.nodup_cons.1 h
    obtain ⟨other, v⟩ := m
    by_cases hkey : other = key
    · subst hkey
      have hnone : members.filter (·.1 == other) = [] :=
        List.filter_eq_nil_iff.2 fun m hm heq => hfirst (List.mem_map.2 ⟨m, hm, eq_of_beq heq⟩)
      simp [hnone]
    · simpa [hkey] using ih hrest

end Members

/-! ## Values in order

The three mutual lemmas follow the three readers.  For members the order is an invariant: it is
passed along with what was found so far. -/

/-- In every object of the value the members are in increasing order of their keys. -/
inductive InOrder : Value → Prop
  | null : InOrder .null
  | bool (b : Bool) : InOrder (.bool b)
  | number (n : Number) : InOrder (.number n)
  | string (s : String) : InOrder (.string s)
  | array {items : List Value} (values : ∀ v ∈ items, InOrder v) : InOrder (.array items)
  | object {members : List (String × Value)} (keys : (members.map (·.1)).Pairwise (· < ·))
      (values : ∀ m ∈ members, InOrder m.2) : InOrder (.object members)

/-- No key of an object in order is there twice. -/
theorem InOrder.nodup {members : List (String × Value)} (h : InOrder (.object members)) :
    (members.map (·.1)).Nodup := by
  cases h with
  | object keys =>
    refine List.Pairwise.imp (fun hlt heq => ?_) keys
    exact String.lt_irrefl _ (heq ▸ hlt)

/-- A member of a value in order is in order. -/
theorem InOrder.of_lookupMember {key : String} {v : Value} {members : List (String × Value)}
    (h : InOrder (.object members)) (hv : lookupMember key members = some v) : v.InOrder := by
  cases h with
  | object keys values =>
    obtain ⟨m, hm, rfl⟩ := Option.map_eq_some_iff.1 hv
    exact values m (List.mem_of_find?_eq_some hm)

theorem InOrder.insertMember {key : String} {v : Value} {members : List (String × Value)}
    (h : InOrder (.object members)) (hv : v.InOrder) :
    InOrder (.object (Value.insertMember key v members)) := by
  cases h with
  | object keys values =>
    refine .object (pairwise_insertMember keys) fun m hm => ?_
    obtain rfl | hm := mem_insertMember hm
    · exact hv
    · exact values m hm

end Value

/-- What is read of an embedded text is in order. -/
def Embedding.InOrder (embedding : Embedding) : Prop :=
  ∀ read ∈ embedding, ∀ s v, read s = .ok v → Value.InOrder v

/-- An embedded text that is read is a string, with nothing behind it, and read as the value. -/
theorem of_readEmbedded {site : Site} {read : String → Except Fault Value} {d : Doc} {closed : Bool}
    {v : Value} (h : readEmbedded site read d closed = .ok v) :
    ∃ s, readString site d = .ok s ∧ closed = true ∧ read s = .ok v := by
  obtain ⟨s, hs, h⟩ := bind_eq_ok.1 h
  obtain ⟨v', hv', h⟩ := bind_eq_ok.1 h
  split at h
  · next hclosed =>
    cases h
    exact ⟨s, hs, hclosed, hv'⟩
  · cases h

mutual

theorem inOrder_of_generic {embedding : Embedding} (he : embedding.InOrder) :
    ∀ {d : Doc} {site : Site} {v : Value}, generic embedding site d = .ok v → v.InOrder
  | .broken, _, _, h => by cases h
  | .null, _, _, h => by
    cases h
    exact .null
  | .bool b, _, _, h => by
    cases h
    exact .bool b
  | .number token, _, _, h => by
    obtain ⟨n, -, rfl⟩ := map_eq_ok.1 h
    exact .number n
  | .string body, _, _, h => by
    obtain ⟨s, -, rfl⟩ := map_eq_ok.1 h
    exact .string s
  | .array items, _, _, h => by
    obtain ⟨inner, -, h⟩ := bind_eq_ok.1 h
    obtain ⟨vs, hvs, rfl⟩ := map_eq_ok.1 h
    exact .array (inOrder_of_genericItems he hvs)
  | .object members, _, _, h => by
    obtain ⟨inner, -, h⟩ := bind_eq_ok.1 h
    split at h
    · obtain ⟨s, -, -, hread⟩ := of_readEmbedded h
      exact he _ rfl s _ hread
    · obtain ⟨all, hall, rfl⟩ := map_eq_ok.1 h
      exact inOrder_of_genericMembers he hall (.object .nil nofun)

theorem inOrder_of_genericItems {embedding : Embedding} (he : embedding.InOrder) :
    ∀ {items : Items} {site : Site} {vs : List Value},
      genericItems embedding site items = .ok vs → ∀ v ∈ vs, v.InOrder
  | .broken, _, _, h | .torn _, _, _, h => by cases h
  | .close _, _, _, h => by
    cases h
    exact nofun
  | .item before gap d rest, _, _, h => by
    obtain ⟨v, hv, h⟩ := bind_eq_ok.1 h
    obtain ⟨vs, hvs, h⟩ := bind_eq_ok.1 h
    cases h
    exact List.forall_mem_cons.2 ⟨inOrder_of_generic he hv, inOrder_of_genericItems he hvs⟩

theorem inOrder_of_genericMembers {embedding : Embedding} (he : embedding.InOrder) :
    ∀ {members : Members} {site : Site} {found all : List (String × Value)},
      genericMembers embedding site found members = .ok all → Value.InOrder (.object found) →
        Value.InOrder (.object all)
  | .broken, _, _, _, h, _ => by cases h
  | .close _, _, _, _, h, hfound => by
    cases h
    exact hfound
  | .member before gap key afterKey afterColon d rest, site, found, all, h, hfound => by
    rw [genericMembers] at h
    split at h
    · cases h
    · obtain ⟨v, hv, h⟩ := bind_eq_ok.1 h
      exact inOrder_of_genericMembers he h (hfound.insertMember (inOrder_of_generic he hv))

end

/-- A text in a text is read with less fuel, and so on. -/
theorem inOrder_genericText : ∀ fuel : Nat, Embedding.InOrder (some (genericText fuel))
  | 0, _, hread, _, _, h => by
    cases hread
    cases h
  | fuel + 1, _, hread, s, v, h => by
    cases hread
    rw [genericText] at h
    dsimp only at h
    split at h
    · next v' hv' =>
      split at h
      · cases h
        exact inOrder_of_generic (inOrder_genericText fuel) hv'
      · cases h
    · cases h
    · cases h

/-- **Every value that is read is in order.** -/
theorem inOrder_of_readGeneric {site : Site} {d : Doc} {v : Value}
    (h : readGeneric site d = .ok v) : v.InOrder := by
  refine inOrder_of_generic (fun read hread s v hv => ?_) h
  cases hread
  exact inOrder_genericText _ _ rfl s v hv

/-! ## Documents that are broken off nowhere

A document that is read to its end cannot be broken off, since every place would have been met.  The
converse is about what is written: a value has no such places to begin with. -/

theorem readString_eq_ok {site : Site} {d : Doc} {s : String} :
    readString site d = .ok s ↔ ∃ body, d = .string body ∧ unescape? body = some s := by
  cases d with
  | string body =>
    rw [readString]
    cases hs : unescape? body with
    | none => simp [hs]
    | some s' => simp [hs]
  | broken | null | bool | number | array | object =>
    constructor
    · intro h
      cases h
    · rintro ⟨body, ⟨⟩, -⟩

/-- A value that may be null is null or read. -/
theorem readOption_eq_ok {α : Type} {read : Reader α} {site : Site} {d : Doc} {a? : Option α} :
    readOption read site d = .ok a? ↔
      d = .null ∧ a? = none ∨ d ≠ .null ∧ ∃ a, read site d = .ok a ∧ a? = some a := by
  by_cases hnull : d = .null
  · subst hnull
    simp [readOption, eq_comm]
  · rw [readOption_of_ne_null read site hnull, map_eq_ok]
    simp only [hnull, false_and, false_or, ne_eq, not_false_eq_true, true_and, eq_comm]

theorem readSkipped_eq_ok {site : Site} {d : Doc} :
    readSkipped site d = .ok () ↔ d.complete = true := by
  rw [readSkipped]
  split
  · next h => exact iff_of_true rfl h
  · next h => exact iff_of_false nofun h

/-- An object with an embedded text and nothing else is broken off only in that text. -/
theorem Members.complete_of_embedded? {members : Members} {d : Doc}
    (h : members.embedded? = some (d, true)) (hd : d.complete = true) :
    members.complete = true := by
  cases members with
  | broken | close => cases h
  | member before gap body afterKey afterColon value rest =>
    simp only [embedded?] at h
    split at h
    · cases rest with
      | close =>
        cases h
        rw [complete, hd]
        rfl
      | broken | member => cases h
    · cases h

mutual

theorem complete_of_generic {embedding : Embedding} :
    ∀ {d : Doc} {site : Site} {v : Value}, generic embedding site d = .ok v → d.complete = true
  | .broken, _, _, h => by cases h
  | .null, _, _, _ | .bool _, _, _, _ | .number _, _, _, _ | .string _, _, _, _ => rfl
  | .array items, _, _, h => by
    obtain ⟨inner, -, h⟩ := bind_eq_ok.1 h
    obtain ⟨vs, hvs, -⟩ := map_eq_ok.1 h
    exact complete_of_genericItems hvs
  | .object members, _, _, h => by
    obtain ⟨inner, -, h⟩ := bind_eq_ok.1 h
    split at h
    · next hembedded _ =>
      obtain ⟨s, hs, rfl, -⟩ := of_readEmbedded h
      obtain ⟨body, rfl, -⟩ := readString_eq_ok.1 hs
      exact Members.complete_of_embedded? hembedded rfl
    · obtain ⟨all, hall, -⟩ := map_eq_ok.1 h
      exact complete_of_genericMembers hall

theorem complete_of_genericItems {embedding : Embedding} :
    ∀ {items : Items} {site : Site} {vs : List Value},
      genericItems embedding site items = .ok vs → items.complete = true
  | .broken, _, _, h | .torn _, _, _, h => by cases h
  | .close _, _, _, _ => rfl
  | .item before gap d rest, _, _, h => by
    obtain ⟨v, hv, h⟩ := bind_eq_ok.1 h
    obtain ⟨vs, hvs, -⟩ := bind_eq_ok.1 h
    rw [Items.complete, complete_of_generic hv, complete_of_genericItems hvs]
    rfl

theorem complete_of_genericMembers {embedding : Embedding} :
    ∀ {members : Members} {site : Site} {found all : List (String × Value)},
      genericMembers embedding site found members = .ok all → members.complete = true
  | .broken, _, _, _, h => by cases h
  | .close _, _, _, _, _ => rfl
  | .member before gap key afterKey afterColon d rest, _, _, _, h => by
    rw [genericMembers] at h
    split at h
    · cases h
    · obtain ⟨v, hv, h⟩ := bind_eq_ok.1 h
      rw [Members.complete, complete_of_generic hv, complete_of_genericMembers h]
      rfl

end

/-- **A document that is read as a value is broken off nowhere.** -/
theorem complete_of_readGeneric {site : Site} {d : Doc} {v : Value}
    (h : readGeneric site d = .ok v) : d.complete = true :=
  complete_of_generic h

/-- An array is broken off nowhere if it is closed and no value of it is broken off. -/
theorem Items.complete_iff : ∀ {items : Items},
    items.complete = true ↔ items.closed = true ∧ ∀ d ∈ items.values, d.complete = true
  | .broken | .torn _ => by simp [complete, closed]
  | .close _ => by simp [complete, closed, values]
  | .item _ _ d rest => by
    rw [complete, Bool.and_eq_true, complete_iff, closed, values, List.forall_mem_cons,
      and_left_comm]

/-- So is an object. -/
theorem Members.complete_iff : ∀ {members : Members},
    members.complete = true ↔ members.closed = true ∧ ∀ m ∈ members.entries, m.2.complete = true
  | .broken => by simp [complete, closed]
  | .close _ => by simp [complete, closed, entries]
  | .member _ _ _ _ _ d rest => by
    rw [complete, Bool.and_eq_true, complete_iff, closed, entries, List.forall_mem_cons,
      and_left_comm]

theorem Items.complete_ofList {ds : List Doc} :
    (Items.ofList ds).complete = true ↔ ∀ d ∈ ds, d.complete = true := by
  rw [complete_iff, closed_ofList, values_ofList, and_iff_right rfl]

theorem Members.complete_ofList {ms : List (Bytes × Doc)} :
    (Members.ofList ms).complete = true ↔ ∀ m ∈ ms, m.2.complete = true := by
  rw [complete_iff, closed_ofList, entries_ofList, and_iff_right rfl]

namespace Value

mutual

/-- **The document of a value is broken off nowhere.** -/
theorem complete_toDoc : ∀ v : Value, v.toDoc.complete = true
  | .null | .bool _ | .number _ | .string _ => rfl
  | .array items => Items.complete_ofList.2 (complete_toDocs items)
  | .object members => Members.complete_ofList.2 (complete_toMembers members)

theorem complete_toDocs : ∀ vs : List Value, ∀ d ∈ toDocs vs, d.complete = true
  | [] => nofun
  | v :: vs => List.forall_mem_cons.2 ⟨complete_toDoc v, complete_toDocs vs⟩

theorem complete_toMembers :
    ∀ ms : List (String × Value), ∀ m ∈ toMembers ms, m.2.complete = true
  | [] => nofun
  | (_, v) :: ms => List.forall_mem_cons.2 ⟨complete_toDoc v, complete_toMembers ms⟩

end

theorem toDocs_eq_map (vs : List Value) : toDocs vs = vs.map toDoc := by
  induction vs with
  | nil => rfl
  | cons v vs ih => rw [toDocs, ih, List.map_cons]

theorem toMembers_eq_map (ms : List (String × Value)) :
    toMembers ms = ms.map fun m => (escape m.1, m.2.toDoc) := by
  induction ms with
  | nil => rfl
  | cons m ms ih => rw [toMembers, ih, List.map_cons]

end Value

end Tollbooth.Json
