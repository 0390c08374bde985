/-!
# Sizes of words

Counters and chain numbers have 64 bits, amounts have 256.
-/

set_option autoImplicit false

namespace Tollbooth.Word

/-- The least number that does not fit 64 bits. -/
abbrev bound64 : Nat := 0x10000000000000000

/-- The least number that does not fit 256 bits. -/
abbrev bound256 : Nat := 0x10000000000000000000000000000000000000000000000000000000000000000

end Tollbooth.Word
