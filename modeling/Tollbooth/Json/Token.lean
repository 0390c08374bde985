import Tollbooth.Json.StringBody
/-!
# Tokens of JSON

A text is cut into blanks, words, numbers and strings.  Each scanner takes one token from the front
of a text and gives what follows it, or nothing if there is no such token.

`stumble` says how far a reader of a number gets in a text that has no number there, which matters
where such a fault is overlooked: `overlook?` takes a faulty last item off an array.
-/

set_option autoImplicit false

namespace Tollbooth.Json

open Tollbooth (Bytes)

/-- Space, tab, line feed and carriage return may stand between tokens. -/
def isBlank (b : UInt8) : Bool := b == 0x20 || b == 0x09 || b == 0x0a || b == 0x0d

/-- The blanks at the front, and the rest. -/
def splitBlanks (s : Bytes) : Bytes × Bytes := (s.takeWhile isBlank, s.dropWhile isBlank)

/-! ## Tokens

A token is kept as it was spelled; what a number or a string stands for is asked by whoever reads
it. -/

/-- An ASCII digit. -/
def isDigit (b : UInt8) : Bool := 0x30 ≤ b && b ≤ 0x39

/-- An ASCII hexadecimal digit. -/
def isHexDigit (b : UInt8) : Bool :=
  isDigit b || (0x41 ≤ b && b ≤ 0x46) || (0x61 ≤ b && b ≤ 0x66)

/-- The body of a string whose opening quote was read, and what follows its closing quote.
A control character, an unknown escape or a missing quote spoils it. -/
def scanBody : Bytes → Option (Bytes × Bytes)
  | [] => none
  | 0x22 :: rest => some ([], rest)
  | 0x5c :: 0x75 :: a :: b :: c :: d :: rest =>
    if isHexDigit a && isHexDigit b && isHexDigit c && isHexDigit d then
      (scanBody rest).map fun (body, rest) => (0x5c :: 0x75 :: a :: b :: c :: d :: body, rest)
    else none
  | 0x5c :: e :: rest =>
    if e ∈ [0x22, 0x5c, 0x2f, 0x62, 0x66, 0x6e, 0x72, 0x74] then
      (scanBody rest).map fun (body, rest) => (0x5c :: e :: body, rest)
    else none
  | c :: rest =>
    if c < 0x20 || c == 0x5c then none
    else (scanBody rest).map fun (body, rest) => (c :: body, rest)

/-- At least one digit, as many as there are. -/
def scanDigits (s : Bytes) : Option (Bytes × Bytes) :=
  match s.takeWhile isDigit with
  | [] => none
  | digits => some (digits, s.dropWhile isDigit)

/-- The integer part of a number: a zero alone, or digits that start with another one. -/
def scanInteger (s : Bytes) : Option (Bytes × Bytes) :=
  match scanDigits s with
  | some (0x30 :: _ :: _, _) => none
  | r => r

/-- The fraction of a number, which may be absent but has digits if there is a point. -/
def scanFraction : Bytes → Option (Bytes × Bytes)
  | 0x2e :: s => (scanDigits s).map fun (digits, rest) => (0x2e :: digits, rest)
  | s => some ([], s)

/-- The exponent of a number, which may be absent but has digits if there is an `e`. -/
def scanExponent : Bytes → Option (Bytes × Bytes)
  | [] => some ([], [])
  | e :: s =>
    if e == 0x65 || e == 0x45 then
      match s with
      | [] => none
      | c :: s' =>
        if c == 0x2b || c == 0x2d then
          (scanDigits s').map fun (digits, rest) => (e :: c :: digits, rest)
        else (scanDigits s).map fun (digits, rest) => (e :: digits, rest)
    else some ([], e :: s)

/-- A number without its sign. -/
def scanMagnitude (s : Bytes) : Option (Bytes × Bytes) := do
  let (whole, s) ← scanInteger s
  let (fraction, s) ← scanFraction s
  let (exponent, s) ← scanExponent s
  return (whole ++ fraction ++ exponent, s)

/-- A number token and what follows it. -/
def scanNumber : Bytes → Option (Bytes × Bytes)
  | 0x2d :: s => (scanMagnitude s).map fun (token, rest) => (0x2d :: token, rest)
  | s => scanMagnitude s

/-- What follows an expected word, if it stands here. -/
def scanWord : Bytes → Bytes → Option Bytes
  | [], s => some s
  | _ :: _, [] => none
  | w :: word, c :: s => if w == c then scanWord word s else none

/-! ## Where reading a number goes wrong

A reader that wants a number takes one token to find out that it has none, and stops where that ends
or goes wrong.  Whether the array closes right behind that place is all that matters, so nothing but
the place is computed. -/

/-- What is left behind the place where reading four hexadecimal digits ends. -/
def afterHex (s : Bytes) : Bytes := if s.length < 4 then [] else s.drop 4

/-- What is left behind the place where reading the inside of a string ends: behind its quote, or
where it goes wrong.  A fault is seen with the character that shows it, and of a surrogate that is
not paired with the character that follows its escape. -/
def stumbleBody : Bytes → Bytes
  | [] => []
  | 0x22 :: rest => rest
  | 0x5c :: 0x75 :: a :: b :: c :: d :: rest =>
    let unit := codeUnit a b c d
    if !(isHexDigit a && isHexDigit b && isHexDigit c && isHexDigit d) then rest
    else if 0xdc00 ≤ unit && unit < 0xe000 then rest
    else if 0xd800 ≤ unit && unit < 0xdc00 then
      match rest with
      | 0x5c :: 0x75 :: a' :: b' :: c' :: d' :: rest' =>
        let low := codeUnit a' b' c' d'
        let isLow := isHexDigit a' && isHexDigit b' && isHexDigit c' && isHexDigit d' &&
          0xdc00 ≤ low && low < 0xe000
        if isLow then stumbleBody rest' else rest'
      | 0x5c :: 0x75 :: rest' => afterHex rest'
      | 0x5c :: rest' => rest'.drop 1
      | rest' => rest'.drop 1
    else stumbleBody rest
  | 0x5c :: 0x75 :: rest => afterHex rest
  | 0x5c :: e :: rest =>
    if e ∈ [0x22, 0x5c, 0x2f, 0x62, 0x66, 0x6e, 0x72, 0x74] then stumbleBody rest else rest
  | c :: rest => if c < 0x20 || c == 0x5c then rest else stumbleBody rest

/-- What is left of a text behind a word, or behind the first character that differs from it. -/
def stumbleWord : Bytes → Bytes → Bytes
  | [], s => s
  | _ :: _, [] => []
  | w :: word, c :: s => if w == c then stumbleWord word s else s

/-- What is left where the exponent of a number goes wrong, behind its letter. -/
def stumbleExponent : Bytes → Bytes
  | [] => []
  | c :: s =>
    let digits := if c == 0x2b || c == 0x2d then s else c :: s
    match digits with
    | [] => []
    | d :: rest => if isDigit d then rest.dropWhile isDigit else rest

/-- What is left where a number without its sign goes wrong. -/
def stumbleMagnitude : Bytes → Bytes
  | [] => []
  | c :: s =>
    if !isDigit c then s
    else
      let whole := if c == 0x30 then s else s.dropWhile isDigit
      let behind : Bytes :=
        match whole with
        | 0x2e :: fraction => fraction.dropWhile isDigit
        | rest => rest
      let isFraction : Bool :=
        match whole with
        | 0x2e :: d :: _ => isDigit d
        | 0x2e :: [] => false
        | _ => true
      match behind with
      | e :: rest =>
        if isFraction && (e == 0x65 || e == 0x45) then stumbleExponent rest else e :: rest
      | [] => []

/-- What is left of a text behind the place where reading a number from its front ends, if there is
something else in front: a string or a word is read through as far as it is one, and in front of
anything else the reading stays. -/
def stumble : Bytes → Bytes
  | [] => []
  | c :: s =>
    if c == 0x22 then stumbleBody s
    else if c == 0x6e then stumbleWord [0x75, 0x6c, 0x6c] s
    else if c == 0x74 then stumbleWord [0x72, 0x75, 0x65] s
    else if c == 0x66 then stumbleWord [0x61, 0x6c, 0x73, 0x65] s
    else if c == 0x2d then stumbleMagnitude s
    else if isDigit c then stumbleMagnitude (c :: s)
    else c :: s

/-- What is left of a text behind the bracket of an array if reading a number from the front goes
wrong, and the array closes right behind that place. -/
def overlook? (s : Bytes) : Option Bytes :=
  match (splitBlanks (stumble s)).2 with
  | 0x5d :: rest => some rest
  | _ => none

/-- Only blanks. -/
def allBlank (s : Bytes) : Bool := s.all isBlank

end Tollbooth.Json
