import Tollbooth.Duration
import Tollbooth.Json.Reader
import Tollbooth.Json.Write
import Tollbooth.Text.Decimal
/-!
# Points in time

A timestamp counts seconds since the epoch in 64 bits.  Addition stops at the greatest value
instead of wrapping, so a time window never ends before it starts.  Documents carry a timestamp as
a decimal string.
-/

set_option autoImplicit false

namespace Tollbooth

/-- Seconds since the epoch. -/
structure Timestamp where
  seconds : Nat
  isWord : seconds < Word.bound64

namespace Timestamp

theorem ext {a b : Timestamp} (h : a.seconds = b.seconds) : a = b := by
  cases a
  cases b
  cases h
  rfl

instance : DecidableEq Timestamp := fun a b =>
  if h : a.seconds = b.seconds then .isTrue (ext h) else .isFalse fun e => h (e ▸ rfl)

/-- The greatest count of seconds. -/
def limit : Nat := Word.bound64 - 1

/-- The timestamp of a count of seconds, or the last one. -/
def ofSeconds (n : Nat) : Timestamp :=
  ⟨min n limit, Nat.lt_of_le_of_lt (Nat.min_le_right ..) (by decide)⟩

instance : Inhabited Timestamp := ⟨ofSeconds 0⟩

/-- A number of seconds later, or the last timestamp. -/
def addSeconds (t : Timestamp) (n : Nat) : Timestamp := ofSeconds (t.seconds + n)

/-- A length of time later; only its whole seconds count. -/
def add (t : Timestamp) (d : Duration) : Timestamp := t.addSeconds d.seconds

/-- The seconds in decimal. -/
def text (t : Timestamp) : String := toString t.seconds

/-- The timestamp that a decimal text denotes. -/
def parse? (s : String) : Option Timestamp := do
  let n ← Decimal.word64? s
  if h : n < Word.bound64 then some ⟨n, h⟩ else none

/-- Reads a timestamp from a string. -/
def read : Json.Reader Timestamp := Json.readText fun s =>
  match parse? s with
  | some t => .ok t
  | none => .error (.refused "timestamp must be a non-negative integer")

/-- Writes a timestamp as a string. -/
def toDoc (t : Timestamp) : Json.Doc := .ofString t.text

end Timestamp

end Tollbooth
