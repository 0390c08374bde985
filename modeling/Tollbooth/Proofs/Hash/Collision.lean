import Tollbooth.Octets
/-!
# Collisions of a hash function

A hash binds what is hashed as far as the hash function tells strings apart.  That it does is never
assumed: what is said is that two strings are equal, or that the function takes the same value on
two different strings which are named.

A hash to 32 bytes takes some value on infinitely many strings, so that no collision exists can
never be a hypothesis: nothing satisfies it.  Nor would it help to say that collisions are hard to
find, for that is no statement about strings.  To name two strings for which something must have
gone wrong is all that can be claimed, and it is worth something because the strings are at hand:
whoever finds two contents with one digest has found a collision by computing what was hashed.

A hash is often made of several.  The list of strings is there so that each of them can be undone in
turn, with a collision at any of them as the way out.

* `Collides` — the hash function takes the same value on two different strings of a list.
* `eq_or_collides` — a hash binds what is hashed, or there is a collision.
-/

set_option autoImplicit false

namespace Tollbooth

variable {hash : HashFunction}

/-- The hash function takes the same value on two different strings of the list. -/
def Collides (hash : HashFunction) (strings : List Bytes) : Prop :=
  ∃ m ∈ strings, ∃ n ∈ strings, m ≠ n ∧ hash m = hash n

theorem Collides.mono {strings more : List Bytes} (h : Collides hash strings)
    (hsub : strings ⊆ more) : Collides hash more := by
  obtain ⟨m, hm, n, hn, hne, heq⟩ := h
  exact ⟨m, hsub hm, n, hsub hn, hne, heq⟩

/-- A hash binds what is hashed, unless there is a collision. -/
theorem eq_or_collides (strings : List Bytes) {m n : Bytes} (hm : m ∈ strings) (hn : n ∈ strings)
    (h : hash m = hash n) : m = n ∨ Collides hash strings := by
  by_cases hne : m = n
  · exact .inl hne
  · exact .inr ⟨m, hm, n, hn, hne, h⟩

end Tollbooth
