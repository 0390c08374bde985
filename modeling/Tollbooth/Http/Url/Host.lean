import Tollbooth.Http.Url.Domain
import Tollbooth.Http.Url.Percent
import Tollbooth.Text.Decimal
import Tollbooth.Text.Hex
import Tollbooth.Text.Split
/-!
# Hosts of URLs

A host is a domain name, an address of four numbers or one of eight groups in brackets; a URL of
another kind may have any text for a host.  Each has one normal form: domains are in lower case and
ASCII, addresses in their shortest spelling.

* `Host.web?` reads the host of a web address.
* `Host.other?` reads the host of any other URL.
-/

set_option autoImplicit false

namespace Tollbooth.Http.Host

open Tollbooth (Bytes)

/-! ## Addresses of four numbers -/

/-- The value of digits of a base. -/
def digits? (base : Nat) (cs : List Char) : Option Nat :=
  cs.foldlM (fun acc c => do
    let v ← Hex.value? c
    if v < base then some (acc * base + v) else none) 0

/-- One number of an address: hexadecimal after `0x`, octal after `0`, else decimal. -/
def number? : List Char → Option Nat
  | [] => none
  | '0' :: 'x' :: cs => digits? 16 cs
  | '0' :: 'X' :: cs => digits? 16 cs
  | '0' :: c :: cs => digits? 8 (c :: cs)
  | cs => digits? 10 cs

/-- The labels of a domain without an empty one at the end. -/
def labels (cs : List Char) : List (List Char) :=
  let parts := Text.splitAll (· == '.') cs
  if parts.length > 1 && parts.getLast? == some [] then parts.dropLast else parts

/-- The last label is a number, so that the whole has to be an address. -/
def endsInNumber (cs : List Char) : Bool :=
  match (labels cs).getLast? with
  | some [] => false
  | some label => label.all Char.isDigit || (number? label).isSome
  | none => false

/-- The address of numbers: the last one fills all places that are left. -/
def address? (cs : List Char) : Option Nat := do
  let numbers ← (labels cs).mapM number?
  let last ← numbers.getLast?
  let front := numbers.dropLast
  guard (numbers.length ≤ 4 ∧ front.all (· ≤ 255) ∧ last < Nat.pow 256 (5 - numbers.length))
  return front.zipIdx.foldl (fun sum (n, i) => sum + n * Nat.pow 256 (3 - i)) last

/-- Four decimal numbers with points. -/
def addressText (n : Nat) : List Char :=
  let part (i : Nat) := Nat.toDigits 10 (n / Nat.pow 256 i % 256)
  part 3 ++ '.' :: part 2 ++ '.' :: part 1 ++ '.' :: part 0

/-! ## Addresses of eight groups -/

/-- A group of one to four hexadecimal digits. -/
def group? (cs : List Char) : Option Nat :=
  if 1 ≤ cs.length ∧ cs.length ≤ 4 then digits? 16 cs else none

/-- Two groups from four decimal numbers without leading zeros. -/
def embedded? (cs : List Char) : Option (List Nat) := do
  let parts := Text.splitAll (· == '.') cs
  guard (parts.length = 4)
  let numbers ← parts.mapM fun p => do
    guard (p ≠ [] ∧ p.length ≤ 3 ∧ p.all Char.isDigit ∧ (p.length = 1 ∨ p.head? ≠ some '0'))
    digits? 10 p
  guard (numbers.all (· ≤ 255))
  match numbers with
  | [a, b, c, d] => some [a * 256 + b, c * 256 + d]
  | _ => none

/-- Groups with colons between them; the last may be spelled as four decimal numbers. -/
def groups? : List (List Char) → Option (List Nat)
  | [] => some []
  | [last] => if last.contains '.' then embedded? last else (group? last).map ([·])
  | g :: rest => do
    let n ← group? g
    let ns ← groups? rest
    return n :: ns

/-- The groups of a text, none for an empty one. -/
def groupsOf? (cs : List Char) : Option (List Nat) :=
  if cs = [] then some [] else groups? (Text.splitAll (· == ':') cs)

/-- What stands in front of the first double colon, and behind it. -/
def splitDouble : List Char → Option (List Char × List Char)
  | ':' :: ':' :: cs => some ([], cs)
  | c :: cs => (splitDouble cs).map fun (front, back) => (c :: front, back)
  | [] => none

/-- The eight groups of an address; a double colon stands for as many zeros as are missing. -/
def eightGroups? (cs : List Char) : Option (List Nat) :=
  match splitDouble cs with
  | none => (groupsOf? cs).filter (·.length = 8)
  | some (front, back) => do
    guard (!front.contains '.')
    let before ← groupsOf? front
    let behind ← groupsOf? back
    guard (before.length + behind.length ≤ 7)
    return before ++ List.replicate (8 - before.length - behind.length) 0 ++ behind

/-- How many zeros the groups start with. -/
def zeros (gs : List Nat) : Nat := (gs.takeWhile (· = 0)).length

/-- The place and the length of the first longest run of zeros. -/
def longestRun (gs : List Nat) : Nat × Nat :=
  (List.range gs.length).foldl
    (fun best i => if zeros (gs.drop i) > best.2 then (i, zeros (gs.drop i)) else best) (0, 0)

/-- Groups in hexadecimal with colons between them. -/
def groupsText (gs : List Nat) : List Char :=
  [':'].intercalate (gs.map fun g => Nat.toDigits 16 g)

/-- The shortest spelling of eight groups, in brackets. -/
def eightGroupsText (gs : List Nat) : List Char :=
  let (i, n) := longestRun gs
  let inner :=
    if n < 2 then groupsText gs
    else groupsText (gs.take i) ++ [':', ':'] ++ groupsText (gs.drop (i + n))
  '[' :: inner ++ [']']

/-! ## Whole hosts -/

/-- A character that no host may have. -/
def isForbidden (c : Char) : Bool :=
  ['\x00', '\t', '\n', '\r', ' ', '#', '/', ':', '<', '>', '?', '@', '[', '\\', ']', '^',
    '|'].contains c

/-- A character that no domain may have. -/
def isForbiddenInDomain (c : Char) : Bool :=
  isForbidden c || c.toNat < 0x20 || c == '%' || c == '\x7f'

/-- An address in brackets. -/
def bracketed? (cs : List Char) : Option (List Char) :=
  if cs.getLast? = some ']' then (eightGroups? cs.dropLast).map eightGroupsText else none

/-- The host of a web address. -/
def web? : List Char → Option (List Char)
  | '[' :: cs => bracketed? cs
  | cs => do
    let decoded ← Bytes.toString? (Percent.decode cs)
    let domain ← Domain.ascii? decoded.toList
    guard (domain ≠ [] ∧ !domain.any isForbiddenInDomain)
    if endsInNumber domain then (address? domain).map addressText else some domain

/-- The host of any other URL. -/
def other? : List Char → Option (List Char)
  | '[' :: cs => bracketed? cs
  | cs => if cs.any isForbidden then none else some (Percent.encode Percent.controls cs)

end Tollbooth.Http.Host
