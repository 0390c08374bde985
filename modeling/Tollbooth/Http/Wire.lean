import Tollbooth.Http.Message
import Tollbooth.Text.Decimal
import Tollbooth.Text.Hex
import Tollbooth.Text.Split
/-!
# Messages on a connection

`Request.wire` is what is sent for a request over a connection of its own, and `Response.ofWire?`
reads all that was received until the other side closed it.
-/

set_option autoImplicit false

namespace Tollbooth.Http

open Tollbooth (Bytes)

namespace Wire

/-- The end of a line. -/
def lineEnd : Bytes := [0x0d, 0x0a]

/-- A header line. -/
def headerLine (name : String) (value : Bytes) : Bytes :=
  Bytes.ofString (name ++ ": ") ++ value ++ lineEnd

/-- The host and the port of a URL, as a request names them. -/
def hostText (u : Url) : String :=
  .ofList (u.host.getD [] ++
    match u.port with
    | some port => ':' :: Nat.toDigits 10 port
    | none => [])

/-- What stands in front of an empty line, and what stands behind it. -/
def splitHead : Bytes → Option (Bytes × Bytes)
  | 0x0d :: 0x0a :: 0x0d :: 0x0a :: rest => some ([], rest)
  | b :: rest => (splitHead rest).map fun (head, body) => (b :: head, body)
  | [] => none

/-- The first line without its end, and what stands behind it. -/
def splitLine : Bytes → Bytes × Bytes
  | 0x0d :: 0x0a :: rest => ([], rest)
  | b :: rest => ((splitLine rest).1.cons b, (splitLine rest).2)
  | [] => ([], [])

/-- All lines without their ends. -/
def lines (fuel : Nat) (s : Bytes) : List Bytes :=
  match fuel, s with
  | _, [] => []
  | 0, _ => []
  | fuel + 1, s => (splitLine s).1 :: lines fuel (splitLine s).2

/-- The bytes are blank. -/
def isBlank (b : UInt8) : Bool := b == 0x20 || b == 0x09

/-- The value of a header without blanks around it. -/
def trim (s : Bytes) : Bytes := ((s.dropWhile isBlank).reverse.dropWhile isBlank).reverse

/-- A header of a line. -/
def header? (line : Bytes) : Option (String × Bytes) :=
  match line.dropWhile (· != 0x3a) with
  | _ :: value =>
    (Bytes.toString? (line.takeWhile (· != 0x3a))).map fun name => (name.toLower, trim value)
  | [] => none

/-- The status of a status line. -/
def status? (line : Bytes) : Option Nat := do
  let text ← Bytes.toString? (line.take 12)
  let (version, rest) := Text.splitFirst ' ' text.toList
  guard ("HTTP/1.".toList.isPrefixOf version)
  Decimal.word64? (.ofList (← rest))

/-- The content that chunks hold, if they are whole. -/
def chunks? (fuel : Nat) (s : Bytes) : Option Bytes :=
  match fuel with
  | 0 => none
  | fuel + 1 => do
    let (line, rest) := splitLine s
    let digits ← Bytes.toString? (line.takeWhile (· != 0x3b))
    let digits := digits.toList.filter (· != ' ')
    let size ← digits.foldlM (fun n c => (Hex.value? c).map (16 * n + ·)) 0
    if size = 0 then return []
    else
      guard (size + 2 ≤ rest.length)
      return rest.take size ++ (← chunks? fuel (rest.drop (size + 2)))

/-- The content of a response, unless it broke off. -/
def content? (status : Nat) (headers : Headers) (rest : Bytes) : Option Bytes :=
  if status = 204 ∨ status = 304 then some []
  else if headers.get? "transfer-encoding" = some (Bytes.ofString "chunked") then
    chunks? (rest.length + 1) rest
  else
    match ((headers.get? "content-length").bind Bytes.toString?).bind Decimal.word64? with
    | some n => if n ≤ rest.length then some (rest.take n) else none
    | none => some rest

end Wire

/-- The bytes that are sent for a request. -/
def Request.wire (r : Request) : Bytes :=
  let body := match r.body with
    | .bytes b => b
    | _ => []
  Bytes.ofString (r.method ++ " " ++ r.target ++ " HTTP/1.1") ++ Wire.lineEnd ++
    Wire.headerLine "host" (Bytes.ofString (Wire.hostText r.url)) ++
    Wire.headerLine "accept" (Bytes.ofString "*/*") ++
    Wire.headerLine "connection" (Bytes.ofString "close") ++
    (r.headers.flatMap fun h => Wire.headerLine h.1 h.2) ++
    (match r.body with
      | .none => []
      | _ => Wire.headerLine "content-length" (Bytes.ofString (toString body.length))) ++
    Wire.lineEnd ++ body

/-- The response that received bytes spell.  Interim responses are passed over. -/
def Response.ofWire? (fuel : Nat) (s : Bytes) : Option Response :=
  match fuel with
  | 0 => none
  | fuel + 1 => do
    let (head, rest) ← Wire.splitHead s
    let statusLine :: headerLines := Wire.lines head.length head | none
    let status ← Wire.status? statusLine
    if status < 200 then ofWire? fuel rest
    else
      let headers := headerLines.filterMap Wire.header?
      return ⟨status, headers, Wire.content? status headers rest⟩

end Tollbooth.Http
