import Mathlib.Data.List.Pairwise
import Tollbooth.Payment.Candidate
/-!
# Which candidate is paid

Every scheme names its candidates in whatever order it likes.  They are put into the order of the
offers, and where that leaves several in the same place, nothing about their order changes: first
come those of the scheme that was registered first, each scheme's in its own order.

An order that only compares the places of offers leaves it open what becomes of candidates for the
same offer, and there may be many, of several schemes or of one.  That nothing is changed about them
is said by taking out the candidates for one offer: these are the same before and after, in the same
order.  Together with the order of the offers this determines the list, so the description is
complete (`eq_of_filter_eq`), and what comes first in it can be said without the list.

* `candidates_perm`, `pairwise_candidates`, `filter_candidates` — no candidate is lost or made up,
  they are in the order of the offers, and for each offer they are in the order of the schemes.
* `eq_of_filter_eq` — there is only one list of this kind.
* `Preferred` — the candidate that the earliest scheme has for the least offer.
* `candidates_in_order` — all of this together, and what the first candidate is.
-/

set_option autoImplicit false

namespace Tollbooth

variable {schemes : List Scheme} {demand : Demand} {c : Candidate}

/-- The candidates of all schemes, scheme by scheme. -/
def offered (schemes : List Scheme) (demand : Demand) : List Candidate :=
  schemes.flatMap fun s => s.accept demand

theorem mem_offered : c ∈ offered schemes demand ↔ ∃ s ∈ schemes, c ∈ s.accept demand :=
  List.mem_flatMap

/-! ## The order of the candidates

Sorting is stable, and for a sort by places this means that filtering by a place commutes with
it. -/

theorem candidates_perm (schemes : List Scheme) (demand : Demand) :
    (candidates schemes demand).Perm (offered schemes demand) :=
  List.mergeSort_perm ..

theorem mem_candidates : c ∈ candidates schemes demand ↔ ∃ s ∈ schemes, c ∈ s.accept demand :=
  (candidates_perm schemes demand).mem_iff.trans mem_offered

theorem offerIndex_le_trans (a b c : Candidate)
    (hab : decide (a.offerIndex ≤ b.offerIndex) = true)
    (hbc : decide (b.offerIndex ≤ c.offerIndex) = true) :
    decide (a.offerIndex ≤ c.offerIndex) = true :=
  decide_eq_true (Nat.le_trans (of_decide_eq_true hab) (of_decide_eq_true hbc))

theorem offerIndex_le_total (a b : Candidate) :
    (decide (a.offerIndex ≤ b.offerIndex) || decide (b.offerIndex ≤ a.offerIndex)) = true := by
  simpa using Nat.le_total a.offerIndex b.offerIndex

theorem pairwise_candidates (schemes : List Scheme) (demand : Demand) :
    (candidates schemes demand).Pairwise fun a b => a.offerIndex ≤ b.offerIndex :=
  (List.pairwise_mergeSort offerIndex_le_trans offerIndex_le_total _).imp of_decide_eq_true

/-- **The candidates for one offer keep their order.** -/
theorem filter_candidates (schemes : List Scheme) (demand : Demand) (i : Nat) :
    (candidates schemes demand).filter (·.offerIndex = i) =
      schemes.flatMap fun s => (s.accept demand).filter (·.offerIndex = i) := by
  rw [← List.filter_flatMap]
  -- They are in order as they are offered, so sorting all candidates keeps them as a sublist.
  have horder : ((offered schemes demand).filter (·.offerIndex = i)).Pairwise
      fun a b => decide (a.offerIndex ≤ b.offerIndex) = true := by
    refine List.pairwise_of_forall_mem_list fun a ha b hb => ?_
    have ha : a.offerIndex = i := of_decide_eq_true (List.mem_filter.1 ha).2
    have hb : b.offerIndex = i := of_decide_eq_true (List.mem_filter.1 hb).2
    exact decide_eq_true (Nat.le_of_eq (ha.trans hb.symm))
  have hsub : ((offered schemes demand).filter (·.offerIndex = i)).Sublist
      (candidates schemes demand) :=
    List.sublist_mergeSort offerIndex_le_trans offerIndex_le_total horder List.filter_sublist
  have hsub : ((offered schemes demand).filter (·.offerIndex = i)).Sublist
      ((candidates schemes demand).filter (·.offerIndex = i)) := by
    simpa [List.filter_filter] using hsub.filter (·.offerIndex = i)
  have hlength := ((candidates_perm schemes demand).filter (·.offerIndex = i)).length_eq
  exact (hsub.eq_of_length hlength.symm).symm

section Order

variable {α : Type} {place : α → Nat} {l l' : List α}

theorem mem_iff_of_filter_eq (h : ∀ i, l.filter (place · = i) = l'.filter (place · = i)) (a : α) :
    a ∈ l ↔ a ∈ l' := by
  simpa using iff_of_eq (congrArg (a ∈ ·) (h (place a)))

/-- A list that is in order is known by what it has for each place. -/
theorem eq_of_filter_eq (hl : l.Pairwise fun a b => place a ≤ place b)
    (hl' : l'.Pairwise fun a b => place a ≤ place b)
    (h : ∀ i, l.filter (place · = i) = l'.filter (place · = i)) : l = l' := by
  induction l generalizing l' with
  | nil =>
    exact (List.eq_nil_iff_forall_not_mem.2 fun x hx =>
      nomatch (mem_iff_of_filter_eq h x).2 hx).symm
  | cons a l ih =>
    cases l' with
    | nil => exact nomatch (mem_iff_of_filter_eq h a).1 List.mem_cons_self
    | cons b l' =>
      obtain ⟨ha, hrest⟩ := List.pairwise_cons.1 hl
      obtain ⟨hb, hrest'⟩ := List.pairwise_cons.1 hl'
      have hab : place a ≤ place b := by
        rcases List.mem_cons.1 ((mem_iff_of_filter_eq h b).2 List.mem_cons_self) with rfl | hmem
        · exact Nat.le_refl _
        · exact ha b hmem
      have hba : place b ≤ place a := by
        rcases List.mem_cons.1 ((mem_iff_of_filter_eq h a).1 List.mem_cons_self) with rfl | hmem
        · exact Nat.le_refl _
        · exact hb a hmem
      have hplace : place b = place a := Nat.le_antisymm hba hab
      -- Both first members are the first for their common place.
      have hhead := h (place a)
      simp only [List.filter_cons, hplace, decide_true, if_true] at hhead
      obtain ⟨rfl, -⟩ := List.cons.inj hhead
      refine congrArg (a :: ·) (ih hrest hrest' fun i => ?_)
      have hi := h i
      by_cases hai : place a = i
      · simpa [hai] using hi
      · simpa [hai] using hi

end Order

/-! ## The first candidate

The first candidate of a list in order is the first one for the least offer.  Schemes come one after
the other in front of the sort, so it is one of the first scheme that has any for this offer. -/

/-- The candidate is for an offer in front of which no scheme can pay any, it is one of the earliest
scheme that can pay this offer, and the first that this scheme has for it. -/
structure Preferred (schemes : List Scheme) (demand : Demand) (c : Candidate) : Prop where
  least : ∀ s ∈ schemes, ∀ other ∈ s.accept demand, c.offerIndex ≤ other.offerIndex
  earliest : ∃ before s after, schemes = before ++ s :: after ∧
    (∀ s' ∈ before, ∀ other ∈ s'.accept demand, other.offerIndex ≠ c.offerIndex) ∧
    (s.accept demand).find? (·.offerIndex = c.offerIndex) = some c

theorem find?_candidates (schemes : List Scheme) (demand : Demand) (i : Nat) :
    (candidates schemes demand).find? (·.offerIndex = i) =
      schemes.findSome? fun s => (s.accept demand).find? (·.offerIndex = i) := by
  rw [← List.head?_filter, filter_candidates, List.head?_flatMap]
  simp only [List.head?_filter]

theorem earliest_iff :
    (candidates schemes demand).find? (·.offerIndex = c.offerIndex) = some c ↔
      ∃ before s after, schemes = before ++ s :: after ∧
        (∀ s' ∈ before, ∀ other ∈ s'.accept demand, other.offerIndex ≠ c.offerIndex) ∧
        (s.accept demand).find? (·.offerIndex = c.offerIndex) = some c := by
  rw [find?_candidates, List.findSome?_eq_some_iff]
  refine exists_congr fun before => exists_congr fun s => exists_congr fun after =>
    and_congr_right fun _ => and_comm.trans (and_congr_left fun _ => ?_)
  simp only [List.find?_eq_none, decide_eq_true_eq, ne_eq]

/-- The first candidate is the preferred one. -/
theorem head?_candidates_eq_some_iff :
    (candidates schemes demand).head? = some c ↔ Preferred schemes demand c := by
  have hpairwise := pairwise_candidates schemes demand
  constructor
  · intro hc
    obtain ⟨cs, hcs⟩ := List.head?_eq_some_iff.1 hc
    rw [hcs] at hpairwise
    refine ⟨fun s hs other hother => ?_, earliest_iff.1 ?_⟩
    · have hmem : other ∈ candidates schemes demand := mem_candidates.2 ⟨s, hs, hother⟩
      rw [hcs] at hmem
      rcases List.mem_cons.1 hmem with rfl | hmem
      · exact Nat.le_refl _
      · exact List.rel_of_pairwise_cons hpairwise hmem
    · simp [hcs]
  · rintro ⟨hleast, hearliest⟩
    have hfind := earliest_iff.2 hearliest
    have hmem := List.mem_of_find?_eq_some hfind
    cases hcs : candidates schemes demand with
    | nil =>
      rw [hcs] at hmem
      cases hmem
    | cons a cs =>
      obtain ⟨s, hs, ha⟩ := mem_candidates.1 (hcs ▸ List.mem_cons_self : a ∈ candidates ..)
      rw [hcs] at hfind hmem hpairwise
      have hle : a.offerIndex ≤ c.offerIndex := by
        rcases List.mem_cons.1 hmem with rfl | hmem
        · exact Nat.le_refl _
        · exact List.rel_of_pairwise_cons hpairwise hmem
      have hplace : a.offerIndex = c.offerIndex := Nat.le_antisymm hle (hleast s hs a ha)
      simpa [hplace] using hfind

theorem candidates_eq_nil_iff :
    candidates schemes demand = [] ↔ ∀ s ∈ schemes, s.accept demand = [] := by
  rw [← List.flatMap_eq_nil_iff]
  constructor
  · intro h
    exact ((candidates_perm schemes demand).symm.trans (.of_eq h)).eq_nil
  · intro h
    exact ((candidates_perm schemes demand).trans (.of_eq h)).eq_nil

theorem Selector.map_first (cs : List Candidate) : (Selector.first cs).map (·.1) = cs.head? := by
  cases cs <;> rfl

/-- **The candidates are in the order of the offers, and the first of them is the one to pay.**
They are all that the schemes have, each as often as they have it; where the offer is the same, they
are in the order of the schemes, and those of one scheme in its own order.  No other list is so.
What is picked first is the preferred candidate, and nothing is picked just if no scheme has one. -/
theorem candidates_in_order (schemes : List Scheme) (demand : Demand) :
    (candidates schemes demand).Perm (schemes.flatMap fun s => s.accept demand) ∧
    ((candidates schemes demand).Pairwise fun a b => a.offerIndex ≤ b.offerIndex) ∧
    (∀ i, (candidates schemes demand).filter (·.offerIndex = i) =
      schemes.flatMap fun s => (s.accept demand).filter (·.offerIndex = i)) ∧
    (∀ cs : List Candidate, (cs.Pairwise fun a b => a.offerIndex ≤ b.offerIndex) →
      (∀ i, cs.filter (·.offerIndex = i) =
        schemes.flatMap fun s => (s.accept demand).filter (·.offerIndex = i)) →
      cs = candidates schemes demand) ∧
    (∀ c, (Selector.first (candidates schemes demand)).map (·.1) = some c ↔
      Preferred schemes demand c) ∧
    (Selector.first (candidates schemes demand) = none ↔
      ∀ s ∈ schemes, s.accept demand = []) := by
  refine ⟨candidates_perm schemes demand, pairwise_candidates schemes demand,
    filter_candidates schemes demand, fun cs hcs hfilter => ?_, fun c => ?_, ?_⟩
  · exact eq_of_filter_eq hcs (pairwise_candidates schemes demand) fun i =>
      (hfilter i).trans (filter_candidates schemes demand i).symm
  · rw [Selector.map_first, head?_candidates_eq_some_iff]
  · rw [← Option.map_eq_none_iff (f := (·.1)), Selector.map_first, List.head?_eq_none_iff,
      candidates_eq_nil_iff]

/-- A candidate for an offer, told from others by its asset. -/
def bareCandidate (index : Nat) (asset : String) : Candidate where
  offerIndex := index
  chain := default
  asset
  amount := ""
  scheme := ""
  version := 2
  payTo := ""
  sign _ := .done (.error .noSchemeRegistered)

/-- Two schemes that name candidates for the same offers, the first one in no order. -/
def crossedSchemes : List Scheme :=
  [⟨fun _ => [bareCandidate 1 "a", bareCandidate 0 "b", bareCandidate 1 "c"]⟩,
    ⟨fun _ => [bareCandidate 0 "d", bareCandidate 1 "e"]⟩]

/-- The candidates of both schemes take turns, and for the same offer they keep their order. -/
theorem candidates_in_order_crossed :
    candidates crossedSchemes (.v2 ⟨none, none, []⟩) =
      [bareCandidate 0 "b", bareCandidate 0 "d", bareCandidate 1 "a", bareCandidate 1 "c",
        bareCandidate 1 "e"] := by
  obtain ⟨-, -, -, hunique, -⟩ := candidates_in_order crossedSchemes (.v2 ⟨none, none, []⟩)
  refine (hunique _ ?_ fun i => ?_).symm
  · simp [bareCandidate]
  · rcases i with _ | _ | i <;> simp [bareCandidate, crossedSchemes]

end Tollbooth
