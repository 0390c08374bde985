import Tollbooth.Json.Reader
import Tollbooth.Json.Write
import Tollbooth.Text.Decimal
import Tollbooth.Text.Split
/-!
# Chain identifiers

A chain is identified by a namespace and a reference within it, written with a colon between them.
Some chains also have a name; the table of known networks gives it.  `ChainId.resolve?` takes a
chain in either form.

Nothing keeps an identifier from having a colon in its namespace, though its text would then be read
as another one.  Whatever is read from a text is free of this.
-/

set_option autoImplicit false

namespace Tollbooth

/-- The identifier of a chain. -/
structure ChainId where
  ns : String
  reference : String
deriving DecidableEq, Inhabited

/-- A network that has a name. -/
structure KnownNetwork where
  name : String
  chain : ChainId
deriving DecidableEq

namespace ChainId

/-- The written form. -/
def text (c : ChainId) : String := c.ns ++ ":" ++ c.reference

/-- The identifier that a text spells: neither side of its first colon may be empty. -/
def parse? (s : String) : Option ChainId :=
  match Text.splitFirst ':' s.toList with
  | (c :: front, some (d :: back)) => some ⟨.ofList (c :: front), .ofList (d :: back)⟩
  | _ => none

/-- What is said of a text that is no chain identifier. -/
def formatMessage (s : String) : String := "Invalid chain id format " ++ s

/-- Reads an identifier from a string. -/
def read : Json.Reader ChainId := Json.readText fun s =>
  match parse? s with
  | some c => .ok c
  | none => .error (.refused (formatMessage s))

/-- Writes an identifier as a string. -/
def toDoc (c : ChainId) : Json.Doc := .ofString c.text

end ChainId

/-! ## Chains numbered in the namespace eip155

Payments are made on chains of this namespace, whose references are numbers.  Such a chain is known
by the number and not by the reference, which may spell it in several ways. -/

/-- The number of a chain in the namespace `eip155`. -/
structure ChainNumber where
  number : Nat
  isWord : number < Word.bound64
deriving DecidableEq

/-- Why a chain has no number. -/
inductive ChainNumberError where
  | foreignNamespace (ns : String)
  | notANumber (reference : String)
deriving DecidableEq

/-- What is said of a chain that has no number. -/
def ChainNumberError.message : ChainNumberError → String
  | .foreignNamespace ns => "Invalid namespace " ++ ns ++ ", expected eip155"
  | .notANumber reference => "Invalid eip155 chain reference " ++ reference

namespace ChainNumber

instance : Inhabited ChainNumber := ⟨⟨0, by decide⟩⟩

/-- The number, if it fits 64 bits. -/
def ofNat? (n : Nat) : Option ChainNumber := if h : n < Word.bound64 then some ⟨n, h⟩ else none

/-- The number in decimal. -/
def text (c : ChainNumber) : String := toString c.number

/-- The namespace of numbered chains. -/
def ns : String := "eip155"

/-- The identifier of the chain with this number. -/
def chainId (c : ChainNumber) : ChainId := ⟨ns, c.text⟩

/-- The number of a chain. -/
def ofChainId (c : ChainId) : Except ChainNumberError ChainNumber :=
  if c.ns ≠ ns then .error (.foreignNamespace c.ns)
  else
    match (Decimal.word64? c.reference).bind ofNat? with
    | some n => .ok n
    | none => .error (.notANumber c.reference)

end ChainNumber

end Tollbooth
