import Tollbooth.Http.Message
/-!
# Header lists

What a header list has under each name after a field has been put in.

Header lists are compared by what they have under each name, and not as lists; the order of fields
with different names has no meaning.  Putting a field in is filtering and appending, and the lemmas
say what each of the two does to a name.
-/

set_option autoImplicit false

namespace Tollbooth.Http.Headers

theorem getAll_append (headers more : Headers) (name : String) :
    getAll (headers ++ more) name = getAll headers name ++ getAll more name := by
  rw [getAll, List.filter_append, List.map_append, getAll, getAll]

theorem getAll_filter_self (headers : Headers) (name : String) :
    getAll (headers.filter fun h => !(h.1 == name)) name = [] := by
  rw [getAll, List.filter_filter, List.filter_eq_nil_iff.2, List.map_nil]
  intro h _
  cases h.1 == name <;> simp

theorem getAll_filter_of_ne (headers : Headers) {name other : String} (h : other ≠ name) :
    getAll (headers.filter fun h => !(h.1 == name)) other = getAll headers other := by
  rw [getAll, getAll, List.filter_filter]
  refine congrArg _ (List.filter_congr fun field _ => ?_)
  by_cases hother : field.1 = other
  · simp [hother, h]
  · simp [hother]

/-- **A field that is put in is the only one of its name**, and no other name is touched. -/
theorem getAll_insert (headers : Headers) (name : String) (value : Bytes) (other : String) :
    getAll (headers.insert name value) other =
      if other = name then [value] else getAll headers other := by
  rw [insert, getAll_append]
  split
  · next h =>
    rw [h, getAll_filter_self, List.nil_append]
    simp [getAll]
  · next h =>
    have hnone : getAll [(name, value)] other = [] := by simp [getAll, Ne.symm h]
    rw [getAll_filter_of_ne headers h, hnone, List.append_nil]

end Tollbooth.Http.Headers
