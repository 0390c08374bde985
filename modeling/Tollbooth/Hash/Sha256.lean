import Tollbooth.Octets
/-!
# SHA-256 and its keyed form

The hash over 64-byte blocks with eight words of 32 bits as state, and the message authentication
code that is built from it.
-/

set_option autoImplicit false

namespace Tollbooth.Sha256

open Tollbooth (Bytes Hash256)

/-- The words between blocks. -/
abbrev State := Vector UInt32 8

/-- The state before the first block. -/
def initial : State :=
  #v[0x6a09e667, 0xbb67ae85, 0x3c6ef372, 0xa54ff53a, 0x510e527f, 0x9b05688c, 0x1f83d9ab,
    0x5be0cd19]

/-- The constants added in each round. -/
def constants : List UInt32 :=
  [0x428a2f98, 0x71374491, 0xb5c0fbcf, 0xe9b5dba5, 0x3956c25b, 0x59f111f1, 0x923f82a4, 0xab1c5ed5,
   0xd807aa98, 0x12835b01, 0x243185be, 0x550c7dc3, 0x72be5d74, 0x80deb1fe, 0x9bdc06a7, 0xc19bf174,
   0xe49b69c1, 0xefbe4786, 0x0fc19dc6, 0x240ca1cc, 0x2de92c6f, 0x4a7484aa, 0x5cb0a9dc, 0x76f988da,
   0x983e5152, 0xa831c66d, 0xb00327c8, 0xbf597fc7, 0xc6e00bf3, 0xd5a79147, 0x06ca6351, 0x14292967,
   0x27b70a85, 0x2e1b2138, 0x4d2c6dfc, 0x53380d13, 0x650a7354, 0x766a0abb, 0x81c2c92e, 0x92722c85,
   0xa2bfe8a1, 0xa81a664b, 0xc24b8b70, 0xc76c51a3, 0xd192e819, 0xd6990624, 0xf40e3585, 0x106aa070,
   0x19a4c116, 0x1e376c08, 0x2748774c, 0x34b0bcb5, 0x391c0cb3, 0x4ed8aa4a, 0x5b9cca4f, 0x682e6ff3,
   0x748f82ee, 0x78a5636f, 0x84c87814, 0x8cc70208, 0x90befffa, 0xa4506ceb, 0xbef9a3f7, 0xc67178f2]

/-- Rotation towards the least significant bit, by one to 31 places. -/
def rotate (w : UInt32) (n : UInt32) : UInt32 := (w >>> n) ||| (w <<< (32 - n))

/-- The next word of the schedule from the sixteen before it, oldest first. -/
def nextWord (window : List UInt32) : UInt32 :=
  let w (i : Nat) : UInt32 := window.getD i 0
  let s0 := rotate (w 1) 7 ^^^ rotate (w 1) 18 ^^^ (w 1 >>> 3)
  let s1 := rotate (w 14) 17 ^^^ rotate (w 14) 19 ^^^ (w 14 >>> 10)
  w 0 + s0 + w 9 + s1

/-- One round with its constant and the oldest word of the window. -/
def round (s : State) (constant word : UInt32) : State :=
  let s1 := rotate s[4] 6 ^^^ rotate s[4] 11 ^^^ rotate s[4] 25
  let choice := (s[4] &&& s[5]) ^^^ (~~~s[4] &&& s[6])
  let t1 := s[7] + s1 + choice + constant + word
  let s0 := rotate s[0] 2 ^^^ rotate s[0] 13 ^^^ rotate s[0] 22
  let majority := (s[0] &&& s[1]) ^^^ (s[0] &&& s[2]) ^^^ (s[1] &&& s[2])
  #v[t1 + s0 + majority, s[0], s[1], s[2], s[3] + t1, s[4], s[5], s[6]]

/-- All rounds of a block whose first sixteen words are given. -/
def rounds : List UInt32 → State → List UInt32 → State
  | [], s, _ => s
  | k :: ks, s, window =>
    rounds ks (round s k (window.getD 0 0)) (window.drop 1 ++ [nextWord window])

/-- The word of four bytes, most significant first. -/
def wordOfBytes (b : Bytes) : UInt32 := b.foldl (fun acc x => acc * 256 + x.toUInt32) 0

/-- The four bytes of a word, most significant first. -/
def bytesOfWord (w : UInt32) : Bytes :=
  [(w >>> 24).toUInt8, (w >>> 16).toUInt8, (w >>> 8).toUInt8, w.toUInt8]

/-- The state after one more block. -/
def absorb (s : State) (block : Bytes) : State :=
  let window := (List.range 16).map fun i => wordOfBytes ((block.drop (4 * i)).take 4)
  Vector.zipWith (· + ·) s (rounds constants s window)

/-- The state after some blocks. -/
def absorbAll : Nat → State → Bytes → State
  | 0, s, _ => s
  | blocks + 1, s, b => absorbAll blocks (absorb s (b.take 64)) (b.drop 64)

/-- The message with its padding: a one bit, zeros, and the length in bits. -/
def pad (message : Bytes) : Bytes :=
  let zeros := (119 - message.length % 64) % 64
  message ++ [0x80] ++ List.replicate zeros 0 ++ Bytes.ofNat 8 (8 * message.length)

/-- The SHA-256 hash of a message. -/
def hash (message : Bytes) : Hash256 :=
  let s := absorbAll ((message.length + 8) / 64 + 1) initial (pad message)
  (Octets.ofBytes? 32 (s.toList.flatMap bytesOfWord)).getD (Vector.replicate 32 0)

/-! ## Message authentication

The key enters at the front of two hashes, one within the other. -/

/-- The key of a block's length: a longer one is hashed, and a shorter one filled with zeros. -/
def blockKey (key : Bytes) : Bytes :=
  let k := if key.length > 64 then (hash key).toBytes else key
  k ++ List.replicate (64 - k.length) 0

/-- The authentication code of a message under a key. -/
def hmac (key message : Bytes) : Hash256 :=
  let k := blockKey key
  let inner := hash (k.map (· ^^^ 0x36) ++ message)
  hash (k.map (· ^^^ 0x5c) ++ inner.toBytes)

end Tollbooth.Sha256
