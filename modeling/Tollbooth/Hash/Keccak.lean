import Tollbooth.Octets
/-!
# Keccak-256

The sponge: the permutation on twenty-five words of 64 bits, a rate of 136 bytes, and a padding that
starts with a single one bit.
-/

set_option autoImplicit false

namespace Tollbooth.Keccak

open Tollbooth (Bytes Hash256)

/-- The state: the word of column `x` and row `y` is at index `x + 5 * y`. -/
abbrev State := Vector UInt64 25

/-- The word at a column and row, both taken modulo five. -/
def State.lane (a : State) (x y : Nat) : UInt64 :=
  a.get ⟨x % 5 + 5 * (y % 5), by omega⟩

/-- The state with this word at each column and row. -/
def State.ofLanes (f : Nat → Nat → UInt64) : State :=
  Vector.ofFn fun i => f (i.val % 5) (i.val / 5)

/-- Rotation towards the most significant bit. -/
def rotate (w : UInt64) (n : Nat) : UInt64 :=
  (w <<< UInt64.ofNat n) ||| (w >>> UInt64.ofNat (64 - n))

/-- The rotation distances, column by column within each row. -/
def distances : Vector Nat 25 :=
  #v[0, 1, 62, 28, 27, 36, 44, 6, 55, 20, 3, 10, 43, 25, 39, 41, 45, 15, 21, 8, 18, 2, 61, 56, 14]

/-- The rotation distance of a column and row. -/
def distance (x y : Nat) : Nat := distances.get ⟨x % 5 + 5 * (y % 5), by omega⟩

/-- The constants added in each round. -/
def roundConstants : List UInt64 :=
  [0x0000000000000001, 0x0000000000008082, 0x800000000000808a, 0x8000000080008000,
   0x000000000000808b, 0x0000000080000001, 0x8000000080008081, 0x8000000000008009,
   0x000000000000008a, 0x0000000000000088, 0x0000000080008009, 0x000000008000000a,
   0x000000008000808b, 0x800000000000008b, 0x8000000000008089, 0x8000000000008003,
   0x8000000000008002, 0x8000000000000080, 0x000000000000800a, 0x800000008000000a,
   0x8000000080008081, 0x8000000000008080, 0x0000000080000001, 0x8000000080008008]

/-- The parity of a column. -/
def State.parity (a : State) (x : Nat) : UInt64 :=
  a.lane x 0 ^^^ a.lane x 1 ^^^ a.lane x 2 ^^^ a.lane x 3 ^^^ a.lane x 4

/-- Each column takes in the parities of its neighbours. -/
def theta (a : State) : State :=
  let parities : Vector UInt64 5 := Vector.ofFn fun x => a.parity x.val
  let d : Vector UInt64 5 := Vector.ofFn fun x =>
    parities.get ⟨(x.val + 4) % 5, by omega⟩ ^^^
      rotate (parities.get ⟨(x.val + 1) % 5, by omega⟩) 1
  .ofLanes fun x y => a.lane x y ^^^ d.get ⟨x % 5, by omega⟩

/-- The words are rotated and change places. -/
def rhoPi (a : State) : State :=
  .ofLanes fun x y => rotate (a.lane (x + 3 * y) x) (distance (x + 3 * y) x)

/-- Each word takes in the next two of its row. -/
def chi (a : State) : State :=
  .ofLanes fun x y => a.lane x y ^^^ (~~~(a.lane (x + 1) y) &&& a.lane (x + 2) y)

/-- One round with its constant. -/
def round (a : State) (constant : UInt64) : State :=
  let a := chi (rhoPi (theta a))
  a.set 0 (a[0] ^^^ constant)

/-- The permutation. -/
def permute (a : State) : State := roundConstants.foldl round a

/-- Bytes taken in at a time. -/
def rate : Nat := 136

/-- The message with its padding: a one bit, zeros, and a one bit at the end of the block. -/
def pad (message : Bytes) : Bytes :=
  let missing := rate - message.length % rate
  if missing = 1 then message ++ [0x81]
  else message ++ [0x01] ++ List.replicate (missing - 2) 0 ++ [0x80]

/-- The word of eight bytes, least significant first. -/
def wordOfBytes (b : Bytes) : UInt64 :=
  b.foldr (fun x acc => acc * 256 + x.toUInt64) 0

/-- The eight bytes of a word, least significant first. -/
def bytesOfWord (w : UInt64) : Bytes :=
  (List.range 8).map fun i => (w >>> UInt64.ofNat (8 * i)).toUInt8

/-- The state after one more block. -/
def absorb (a : State) (block : Bytes) : State :=
  permute (Vector.ofFn fun i =>
    if i.val < 17 then a[i] ^^^ wordOfBytes ((block.drop (8 * i.val)).take 8) else a[i])

/-- The state after some blocks. -/
def absorbAll : Nat → State → Bytes → State
  | 0, a, _ => a
  | blocks + 1, a, s => absorbAll blocks (absorb a (s.take rate)) (s.drop rate)

/-- The Keccak-256 hash of a message. -/
def hash (message : Bytes) : Hash256 :=
  let a := absorbAll (message.length / rate + 1) (Vector.replicate 25 0) (pad message)
  let digest := ((List.range 4).flatMap fun i => bytesOfWord (a.lane i 0)).take 32
  (Octets.ofBytes? 32 digest).getD (Vector.replicate 32 0)

end Tollbooth.Keccak
