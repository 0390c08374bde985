import Tollbooth.Protocol.Supported
/-!
# Keeping what a facilitator supports

The list of what is supported changes rarely, so an answer is kept for some time.  Times are in
milliseconds on some clock that does not go back.

The clock counts seconds in 64 bits with a sign, so there is a last time that it can show.  An
answer that would expire after it cannot be kept: the sum of the time and the lifetime overflows,
and `SupportedCache.set?` has no result.  This takes a lifetime of ages; no other bound is set on a
lifetime.
-/

set_option autoImplicit false

namespace Tollbooth

/-- A cache for one answer. -/
structure SupportedCache where
  /-- How long an answer is kept. -/
  lifetime : Nat
  /-- The answer and when it expires. -/
  entry : Option (Supported × Nat)

namespace SupportedCache

/-- The clock shows times before this one only. -/
def clockEnd : Nat := 0x8000000000000000 * 1000

/-- The cache without an answer. -/
def empty (lifetime : Nat) : SupportedCache := ⟨lifetime, none⟩

/-- The answer, if it has not expired. -/
def get? (c : SupportedCache) (now : Nat) : Option Supported :=
  (c.entry.filter fun e => now < e.2).map (·.1)

/-- The cache with a new answer, if the clock can show when it expires. -/
def set? (c : SupportedCache) (now : Nat) (answer : Supported) : Option SupportedCache :=
  if now + c.lifetime < clockEnd then some { c with entry := some (answer, now + c.lifetime) }
  else none

/-- The cache without its answer. -/
def clear (c : SupportedCache) : SupportedCache := empty c.lifetime

end SupportedCache

end Tollbooth
