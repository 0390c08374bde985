import Tollbooth.Exact.Resolver
import Tollbooth.Proofs.Dialogue.Run
/-!
# Pinned domains

A pin is found under its key and changes nothing under any other, and neither does its removal.
Where a separator is pinned, nobody is asked for it.  The reader of a chain is found as a pin is.

Entries are kept in a list, in which a new entry takes the place of those with its key.  The facts
that are needed about such lists do not depend on what the entries are, so pins and readers share
them.
-/

set_option autoImplicit false

namespace Tollbooth

/-! ## Entries by key -/

section Entries

variable {κ α : Type} [DecidableEq κ]

/-- Leaving out the entries of a key leaves nothing under it, and what is under other keys. -/
theorem find?_filter_key (entries : List (κ × α)) (key other : κ) :
    ((entries.filter fun e => !(e.1 == key)).find? (·.1 == other)).map (·.2) =
      if other = key then none else (entries.find? (·.1 == other)).map (·.2) := by
  rw [List.find?_filter]
  by_cases h : other = key
  · subst h
    simp
  · rw [if_neg h]
    refine congrArg (fun p => (List.find? p entries).map (·.2)) (funext fun e => ?_)
    by_cases he : e.1 = other
    · simp [he, h]
    · simp [he]

/-- What takes the place of the entries of a key is under it, and nothing else is changed. -/
theorem find?_replace_key (entries : List (κ × α)) (key other : κ) (a : α) :
    (((key, a) :: entries.filter fun e => !(e.1 == key)).find? (·.1 == other)).map (·.2) =
      if other = key then some a else (entries.find? (·.1 == other)).map (·.2) := by
  by_cases h : other = key
  · subst h
    simp
  · have hkey : ((key, a).1 == other) = false := beq_false_of_ne fun he => h he.symm
    rw [List.find?_cons, hkey, find?_filter_key, if_neg h, if_neg h]

end Entries

namespace Pins

theorem get?_pin (pins : Pins) (key other : PinKey) (s : Separator) :
    (pins.pin key s).get? other = if other = key then some s else pins.get? other :=
  find?_replace_key pins.entries key other s

theorem fst_invalidate (pins : Pins) (key : PinKey) : (pins.invalidate key).1 = pins.get? key := by
  rw [invalidate, List.partition_eq_filter_filter, get?, ← List.head?_filter]

theorem get?_invalidate (pins : Pins) (key other : PinKey) :
    (pins.invalidate key).2.get? other = if other = key then none else pins.get? other := by
  rw [invalidate, List.partition_eq_filter_filter]
  exact find?_filter_key pins.entries key other

end Pins

theorem ChainReaders.get?_insert (readers : ChainReaders) (chain other : ChainNumber)
    (reader : ChainReader) : (readers.insert chain reader).get? other =
      if other = chain then some reader else readers.get? other :=
  find?_replace_key readers.entries chain other reader

/-- A pinned separator is the answer, and nothing is asked. -/
theorem DomainResolver.resolve_of_pin {r : DomainResolver} {q : DomainQuery} {s : Separator}
    (h : r.pins.get? ⟨q.chain, q.asset⟩ = some s) :
    r.resolve q = pure (.ok ⟨s, .pinned⟩) := by
  rw [resolve, h]

end Tollbooth
