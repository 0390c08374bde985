import Tollbooth.Exact.Resolver
import Tollbooth.Json.Octets
import Tollbooth.Json.Record
import Tollbooth.Json.Verbatim
/-!
# Asking a chain over JSON-RPC

A chain has an endpoint that executes calls without a transaction.  `Rpc.reader` posts a call of
the token's function `DOMAIN_SEPARATOR()` and takes the first word of what is returned.  An error,
a result of less than a word and an answer that is none all mean that the reading failed; of an
endpoint that never answers nothing is ever known.
-/

set_option autoImplicit false

namespace Tollbooth.Rpc

open Json

/-- The four bytes that select the function in a call. -/
def selector : Bytes := (Keccak.hash (Bytes.ofString "DOMAIN_SEPARATOR()")).toBytes.take 4

/-- The body of the call of a contract. -/
def callDoc (contract : Address) : Doc :=
  .ofMembers [
    ("method", .ofString "eth_call"),
    ("params", .ofList [
      .ofMembers [("to", .ofString contract.lower), ("input", .ofBytes selector)],
      .ofString "latest"]),
    ("id", .ofNat 0),
    ("jsonrpc", .ofString "2.0")]

/-- The request that calls a contract. -/
def request (url : Http.Url) (contract : Address) : Http.Request :=
  .make "POST" url [("content-type", Bytes.ofString "application/json")]
    (.bytes (callDoc contract).text)

/-- Reads over the number or text by which an answer names its request. -/
def readTag : Reader Unit := fun site d =>
  match d with
  | .null => .ok ()
  | .string _ => (fun _ => ()) <$> readString site d
  | d => (fun _ => ()) <$> readNat Word.bound64 site d

def resultSlot : Slot (Option Verbatim) :=
  .defaulted "result" (fun site d => some <$> Verbatim.read site d) none
def errorSlot : Slot (Option Verbatim) :=
  .defaulted "error" (fun site d => some <$> Verbatim.read site d) none
def tagSlot : Slot Unit := .defaulted "id" readTag ()

/-- Reads an answer as the result of the call; it has none if it reports an error. -/
def readResult : Reader (Option Verbatim) := fun site d =>
  match d with
  | .object _ =>
    readRecord [resultSlot.field, errorSlot.field, tagSlot.field]
      (fun r => do
        match ← r.get resultSlot, ← r.get errorSlot with
        | some result, none => return some result
        | _, _ => return none)
      site d
  | d => .error (mistake site d)

/-- The first word of what a call returned. -/
def word? (body : Bytes) : Option Hash256 := do
  let result ← (← (readResult.ofText body).toOption)
  let returned ← (result.readAs readBytes).toOption
  Octets.ofBytes? 32 (returned.take 32)

/-- What an endpoint's answer tells. -/
def reading (response : Http.Response) : Reading :=
  if 200 ≤ response.status ∧ response.status < 300 then
    match response.body.bind word? with
    | some hash => .answered hash
    | none => .failed
  else .failed

/-- Asks the endpoint of a chain. -/
def reader (url : Http.Url) : ChainReader := fun contract => do
  match ← Dialogue.exchange (request url contract) with
  | .ok response => return reading response
  | .error _ => return .failed

end Tollbooth.Rpc
