import Mathlib.Algebra.BigOperators.Group.List.Basic
import Mathlib.Algebra.Ring.Nat
import Tollbooth.Timestamp
/-!
# Additions that stop at the end of time

An addition that would pass the greatest timestamp stops there.  A run of additions may meet the end
of time anywhere, and it is cut at every step from there on; what it comes to is nevertheless the
sum of all its seconds, cut once.  So no step leads back, and the order of the steps is of no
account.

Cutting commutes with adding: to cut, add and cut again is to add and cut once.  So in a run the sum
of all seconds can be carried along as if nothing were ever cut, and is cut in the end.  The other
statements about runs are read off the formula, since a sum that is cut grows with its terms and
does not depend on their order.

* `Addition` — what is added in one step, and the whole seconds that count of it.
* `Timestamp.seconds_plus`, `Timestamp.lt_plus_iff` — what one step does, and when it leads on.
* `Timestamp.seconds_sum` — a run of steps comes to its sum, cut once.
* `additions_saturate_once` — all of this, for each step of a run.
-/

set_option autoImplicit false

namespace Tollbooth

/-- What is added to a timestamp: a number of seconds, or a length of time. -/
inductive Addition where
  | seconds (n : Nat)
  | duration (d : Duration)
deriving DecidableEq

namespace Addition

/-- The whole seconds of an addition. -/
def wholeSeconds : Addition → Nat
  | seconds n => n
  | duration d => d.seconds

/-- The whole seconds of several additions together. -/
def total (steps : List Addition) : Nat := (steps.map wholeSeconds).sum

@[simp] theorem total_nil : total [] = 0 := rfl

@[simp] theorem total_cons (a : Addition) (steps : List Addition) :
    total (a :: steps) = a.wholeSeconds + total steps :=
  List.sum_cons

theorem total_eq_of_perm {steps steps' : List Addition} (h : steps.Perm steps') :
    total steps = total steps' :=
  (h.map wholeSeconds).sum_eq

end Addition

namespace Timestamp

variable {t u v : Timestamp} {a : Addition} {steps steps' : List Addition} {n i : Nat}

/-! ## One addition

Seconds can be added as a number or as a length of time, of which the part below a second does not
count. -/

theorem limit_eq : limit = 2 ^ 64 - 1 := rfl

theorem seconds_le_limit (t : Timestamp) : t.seconds ≤ limit := Nat.le_pred_of_lt t.isWord

theorem seconds_addSeconds : (t.addSeconds n).seconds = min (t.seconds + n) limit := rfl

/-- Seconds lead on, unless there are none or the clock stands at its end. -/
theorem lt_addSeconds_iff :
    t.seconds < (t.addSeconds n).seconds ↔ 1 ≤ n ∧ t.seconds < limit := by
  rw [seconds_addSeconds]
  omega

/-- The timestamp after an addition. -/
def plus (t : Timestamp) : Addition → Timestamp
  | .seconds n => t.addSeconds n
  | .duration d => t.add d

/-- Only its whole seconds count of an addition. -/
theorem plus_eq_addSeconds : t.plus a = t.addSeconds a.wholeSeconds := by
  cases a with
  | seconds => rfl
  | duration => rfl

theorem seconds_plus : (t.plus a).seconds = min (t.seconds + a.wholeSeconds) limit := by
  rw [plus_eq_addSeconds, seconds_addSeconds]

theorem le_plus : t.seconds ≤ (t.plus a).seconds := by
  have hlimit := t.seconds_le_limit
  rw [seconds_plus]
  omega

theorem lt_plus_iff : t.seconds < (t.plus a).seconds ↔ 1 ≤ a.wholeSeconds ∧ t.seconds < limit := by
  rw [plus_eq_addSeconds, lt_addSeconds_iff]

/-! ## Runs of additions

A run is the list of all timestamps on the way.  Each of them is the sum of a beginning of the
additions (`getElem?_run`), and from there on only sums are compared. -/

/-- The timestamp after all of the additions. -/
def sum (t : Timestamp) (steps : List Addition) : Timestamp := steps.foldl plus t

/-- The timestamps of a run: the one that it starts from, and the one after each addition. -/
def run (t : Timestamp) (steps : List Addition) : List Timestamp := steps.scanl plus t

theorem run_nil : t.run [] = [t] := List.scanl_nil

theorem run_cons : t.run (a :: steps) = t :: (t.plus a).run steps := List.scanl_cons

theorem length_run : (t.run steps).length = steps.length + 1 := List.length_scanl

theorem getLast?_run : (t.run steps).getLast? = some (t.sum steps) := List.getLast?_scanl

/-- What stands in a run are the sums of its beginnings. -/
theorem getElem?_run : (t.run steps)[i]? =
    if i ≤ steps.length then some (t.sum (steps.take i)) else none :=
  List.getElem?_scanl

/-- **What is cut at every step comes to the sum, cut once.** -/
theorem seconds_sum :
    (t.sum steps).seconds = min (t.seconds + Addition.total steps) limit := by
  induction steps generalizing t with
  | nil =>
    rw [Addition.total_nil, Nat.add_zero, Nat.min_eq_left t.seconds_le_limit]
    rfl
  | cons a steps ih =>
    -- Once the end is met, the rest of the run adds to it and is cut to it again.
    calc ((t.plus a).sum steps).seconds
      _ = min (min (t.seconds + a.wholeSeconds) limit + Addition.total steps) limit := by
        rw [ih, seconds_plus]
      _ = min (t.seconds + Addition.total (a :: steps)) limit := by
        rw [Addition.total_cons]
        omega

/-- Each addition of a run leads from the timestamp before it to the one after it. -/
theorem eq_plus_of_getElem?_run (ha : steps[i]? = some a) (hu : (t.run steps)[i]? = some u)
    (hv : (t.run steps)[i + 1]? = some v) : v = u.plus a := by
  have hnext : (t.run steps)[i + 1]? = (t.run steps)[i]?.bind fun x => steps[i]?.map x.plus :=
    List.getElem?_succ_scanl
  rw [hv, hu, ha] at hnext
  exact Option.some.inj hnext

/-- No timestamp of a run is before its start. -/
theorem le_of_mem_run (h : u ∈ t.run steps) : t.seconds ≤ u.seconds := by
  induction steps generalizing t with
  | nil =>
    rw [run_nil, List.mem_singleton] at h
    exact Nat.le_of_eq (congrArg _ h.symm)
  | cons a steps ih =>
    rw [run_cons, List.mem_cons] at h
    obtain rfl | h := h
    · exact Nat.le_refl _
    · exact Nat.le_trans le_plus (ih h)

/-- **A run never leads back.** -/
theorem pairwise_run : (t.run steps).Pairwise (·.seconds ≤ ·.seconds) := by
  induction steps generalizing t with
  | nil => exact List.pairwise_singleton _ _
  | cons a steps ih =>
    rw [run_cons, List.pairwise_cons]
    exact ⟨fun u hu => Nat.le_trans le_plus (le_of_mem_run hu), ih⟩

/-- **The order of the additions is of no account.** -/
theorem sum_eq_of_perm (h : steps.Perm steps') : t.sum steps = t.sum steps' := by
  apply ext
  rw [seconds_sum, seconds_sum, Addition.total_eq_of_perm h]

end Timestamp

/-- **A run that is cut at every step is its sum, cut once**, wherever it meets the end of time.
After each step it stands at the start and the whole seconds added so far, or at the greatest
timestamp.  It never leads back; a step leads on just if it adds a whole second and the end is not
yet met; and additions in another order come to the same timestamp. -/
theorem additions_saturate_once :
    (∀ (t : Timestamp) (steps : List Addition), (t.run steps).length = steps.length + 1 ∧
      ∀ i ≤ steps.length, ∃ u, (t.run steps)[i]? = some u ∧
        u.seconds = min (t.seconds + Addition.total (steps.take i)) (2 ^ 64 - 1)) ∧
    (∀ (t : Timestamp) (steps : List Addition),
      (t.run steps).Pairwise (·.seconds ≤ ·.seconds)) ∧
    (∀ (t u v : Timestamp) (steps : List Addition) (i : Nat) (a : Addition),
      steps[i]? = some a → (t.run steps)[i]? = some u → (t.run steps)[i + 1]? = some v →
        (u.seconds < v.seconds ↔ 1 ≤ a.wholeSeconds ∧ u.seconds < 2 ^ 64 - 1)) ∧
    ∀ (t : Timestamp) (steps steps' : List Addition), steps.Perm steps' →
      (t.run steps).getLast? = (t.run steps').getLast? := by
  refine ⟨fun t steps => ⟨Timestamp.length_run, fun i hi => ?_⟩,
    fun t steps => Timestamp.pairwise_run, fun t u v steps i a ha hu hv => ?_,
    fun t steps steps' h => ?_⟩
  · exact ⟨t.sum (steps.take i), Timestamp.getElem?_run.trans (if_pos hi), Timestamp.seconds_sum⟩
  · rw [Timestamp.eq_plus_of_getElem?_run ha hu hv, Timestamp.lt_plus_iff, Timestamp.limit_eq]
  · rw [Timestamp.getLast?_run, Timestamp.getLast?_run, Timestamp.sum_eq_of_perm h]

/-- A run that meets the end of time in its second step, and the same steps in the other order. -/
theorem additions_saturate_once_late : ∃ (t u v : Timestamp) (steps steps' : List Addition),
    t = .ofSeconds (2 ^ 64 - 8) ∧
      steps = [.duration ⟨3, 999999999⟩, .seconds (2 ^ 64 - 1), .seconds 0] ∧
      steps' = [.seconds 0, .seconds (2 ^ 64 - 1), .duration ⟨3, 999999999⟩] ∧
      (t.run steps)[1]? = some u ∧ u.seconds = 2 ^ 64 - 5 ∧
      (t.run steps)[2]? = some v ∧ v.seconds = 2 ^ 64 - 1 ∧ u.seconds < v.seconds ∧
      steps.Perm steps' ∧ (t.run steps).getLast? = (t.run steps').getLast? := by
  obtain ⟨hrun, -, hleads, horder⟩ := additions_saturate_once
  obtain ⟨u, hu, hbefore⟩ := (hrun (.ofSeconds (2 ^ 64 - 8))
    [.duration ⟨3, 999999999⟩, .seconds (2 ^ 64 - 1), .seconds 0]).2 1 (by decide)
  obtain ⟨v, hv, hafter⟩ := (hrun (.ofSeconds (2 ^ 64 - 8))
    [.duration ⟨3, 999999999⟩, .seconds (2 ^ 64 - 1), .seconds 0]).2 2 (by decide)
  have hsecondsu : u.seconds = 2 ^ 64 - 5 := hbefore.trans (by decide +kernel)
  have hsecondsv : v.seconds = 2 ^ 64 - 1 := hafter.trans (by decide +kernel)
  have hstep : u.seconds < v.seconds :=
    (hleads _ u v _ 1 (.seconds (2 ^ 64 - 1)) rfl hu hv).2 ⟨by decide, by omega⟩
  have hperm := (List.reverse_perm [Addition.duration ⟨3, 999999999⟩, .seconds (2 ^ 64 - 1),
    .seconds 0]).symm
  exact ⟨_, u, v, _, _, rfl, rfl, rfl, hu, hsecondsu, hv, hsecondsv, hstep, hperm,
    horder _ _ _ hperm⟩

end Tollbooth
