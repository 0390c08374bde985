/-!
# Lengths of time

A length of time counts whole seconds and the nanoseconds beyond them.  `Duration.text` shows it in
the greatest unit that it has a whole one of, with as many decimals as it needs.
-/

set_option autoImplicit false

namespace Tollbooth

/-- A length of time: whole seconds and the nanoseconds beyond them. -/
structure Duration where
  seconds : Nat
  nanoseconds : Nat
deriving DecidableEq, Inhabited

namespace Duration

/-- A number of seconds. -/
def ofSeconds (n : Nat) : Duration := ⟨n, 0⟩

/-- A number of milliseconds. -/
def ofMilliseconds (n : Nat) : Duration := ⟨n / 1000, n % 1000 * 1000000⟩

/-- The whole milliseconds of a length of time. -/
def milliseconds (d : Duration) : Nat := d.seconds * 1000 + d.nanoseconds / 1000000

/-- The decimals of a fraction below `10 ^ places`, without zeros at the end. -/
def decimals (places fraction : Nat) : List Char :=
  let digits := Nat.toDigits 10 fraction
  let padded := List.replicate (places - digits.length) '0' ++ digits
  (padded.reverse.dropWhile (· == '0')).reverse

/-- A whole number with a fraction below `10 ^ places`, and a unit. -/
def inUnit (whole fraction places : Nat) (unit : String) : String :=
  let point := if fraction = 0 then [] else '.' :: decimals places fraction
  toString whole ++ .ofList point ++ unit

/-- The length of time as it is shown. -/
def text (d : Duration) : String :=
  if 0 < d.seconds then inUnit d.seconds d.nanoseconds 9 "s"
  else if 1000000 ≤ d.nanoseconds then
    inUnit (d.nanoseconds / 1000000) (d.nanoseconds % 1000000) 6 "ms"
  else if 1000 ≤ d.nanoseconds then inUnit (d.nanoseconds / 1000) (d.nanoseconds % 1000) 3 "µs"
  else inUnit d.nanoseconds 0 0 "ns"

end Duration

end Tollbooth
