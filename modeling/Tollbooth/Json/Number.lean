import Tollbooth.Json.Scan
import Tollbooth.Number.Shortest
import Tollbooth.Number.Word
/-!
# What a number token means

Integers that fit 64 bits, with or without a sign, stay integers; every other token is a float.
A float is computed from the digits that fit 64 bits and one scaling by a power of ten, each step
rounded; the digits beyond only move the exponent.  A token whose magnitude is beyond the largest
float has no value.
-/

set_option autoImplicit false

namespace Tollbooth.Json

/-- A number: an integer of 64 bits or a float. -/
inductive Number where
  | natural (n : Nat)
  /-- The negative of a positive number. -/
  | negative (n : Nat)
  | float (x : Binary64)
deriving DecidableEq, Inhabited

namespace Number

/-- One below the least number that does not fit 64 bits. -/
def wordMax : Nat := Word.bound64 - 1

/-- The digits of a token as they are taken in: the significand so far, and how many places the
decimal point is to be moved. -/
structure Digits where
  significand : Nat
  shift : Int
  /-- A digit no longer fitted the significand. -/
  full : Bool

/-- A digit before the point: one that does not fit only moves the point. -/
def Digits.pushWhole (d : Digits) (b : UInt8) : Digits :=
  let next := d.significand * 10 + (b.toNat - 0x30)
  if d.full || next > wordMax then { d with shift := d.shift + 1, full := true }
  else { d with significand := next }

/-- A digit after the point: from the first that does not fit on, they are dropped. -/
def Digits.pushFraction (d : Digits) (b : UInt8) : Digits :=
  let next := d.significand * 10 + (b.toNat - 0x30)
  if d.full || next > wordMax then { d with full := true }
  else { d with significand := next, shift := d.shift - 1 }

/-- The greatest exponent that is taken from a token. -/
def exponentMax : Nat := 0x7fffffff

/-- The value of exponent digits, unless it is beyond the greatest exponent. -/
def exponentValue? (digits : Bytes) : Option Nat :=
  let n := digits.foldl (fun acc b => acc * 10 + (b.toNat - 0x30)) 0
  if n ≤ exponentMax then some n else none

/-- A magnitude scaled by a power of ten: one multiplication, or divisions by `10 ^ 308` until one
more is enough.  It is `none` beyond the largest float. -/
def scale : Nat → Nat × Int → Int → Option (Nat × Int)
  | 0, x, _ => some x
  | fuel + 1, x, p =>
    if x.1 = 0 then some x
    else if p.natAbs ≤ 308 then do
      let power ← Binary64.ofNat? (Nat.pow 10 p.natAbs)
      if 0 ≤ p then Binary64.mul? x power else Binary64.div? x power
    else if 0 ≤ p then none
    else do
      let power ← Binary64.ofNat? (Nat.pow 10 308)
      let y ← Binary64.div? x power
      scale fuel y (p + 308)

/-- The float with this significand and decimal exponent. -/
def ofScientific? (negative : Bool) (significand : Nat) (p : Int) : Option Number := do
  let x ← Binary64.ofNat? significand
  -- after three divisions by the largest power nothing is left of 64 bits
  let (m, e) ← scale 4 x p
  return .float ⟨negative, m, e⟩

/-- The digits at the front and what follows them. -/
def spanDigits (s : Bytes) : Bytes × Bytes := (s.takeWhile isDigit, s.dropWhile isDigit)

/-- The value of a number token without its sign. -/
def ofMagnitude? (negative : Bool) (token : Bytes) : Option Number :=
  let (whole, rest) := spanDigits token
  let digits := whole.foldl Digits.pushWhole ⟨0, 0, false⟩
  let (digits, isFloat, rest) :=
    match rest with
    | 0x2e :: s =>
      let (fraction, rest) := spanDigits s
      (fraction.foldl Digits.pushFraction { digits with full := false }, true, rest)
    | rest => (digits, digits.full, rest)
  match rest with
  | [] =>
    if isFloat then ofScientific? negative digits.significand digits.shift
    else if !negative then some (.natural digits.significand)
    else if digits.significand = 0 then some (.float ⟨true, 0, Binary64.minExponent⟩)
    else if digits.significand ≤ 0x8000000000000000 then some (.negative digits.significand)
    else ofScientific? true digits.significand 0
  | _ :: s =>
    let (down, s) :=
      match s with
      | 0x2d :: s => (true, s)
      | 0x2b :: s => (false, s)
      | s => (false, s)
    match exponentValue? s with
    | some n =>
      let n : Int := if down then -n else n
      ofScientific? negative digits.significand (digits.shift + n)
    | none =>
      if digits.significand = 0 || down then some (.float ⟨negative, 0, Binary64.minExponent⟩)
      else none

/-- The value of a number token, unless it is beyond the largest float. -/
def ofToken? : Bytes → Option Number
  | 0x2d :: s => ofMagnitude? true s
  | s => ofMagnitude? false s

/-- The float nearest to a decimal `significand · 10 ^ p`. -/
def nearestFloat? (negative : Bool) (significand : Nat) (p : Int) : Option Number := do
  let (m, e) ←
    if 0 ≤ p then Binary64.nearest? (significand * Nat.pow 10 p.toNat) 1
    else Binary64.nearest? significand (Nat.pow 10 (-p).toNat)
  return .float ⟨negative, m, e⟩

/-- The value of a number text that was written for a value: an integer, or the float nearest to
the decimal, which is the one whose shortest text this is. -/
def ofShortest? (token : Bytes) : Option Number :=
  let (isNegative, magnitude) :=
    match token with
    | 0x2d :: s => (true, s)
    | s => (false, s)
  let (whole, rest) := spanDigits magnitude
  let (fraction, rest) :=
    match rest with
    | 0x2e :: s => spanDigits s
    | s => ([], s)
  let exponent? : Option Int :=
    match rest with
    | _ :: 0x2d :: s => (exponentValue? s).map fun n => -(n : Int)
    | _ :: 0x2b :: s => (exponentValue? s).map fun n => (n : Int)
    | _ :: s => (exponentValue? s).map fun n => (n : Int)
    | [] => none
  match fraction, exponent? with
  | [], none => ofToken? token
  | fraction, exponent? =>
    let significand := (whole ++ fraction).foldl (fun acc b => acc * 10 + (b.toNat - 0x30)) 0
    nearestFloat? isNegative significand (exponent?.getD 0 - fraction.length)

/-- The text of a number. -/
def text : Number → String
  | .natural n => toString n
  | .negative n => "-" ++ toString n
  | .float x => x.text .document

end Number

end Tollbooth.Json
