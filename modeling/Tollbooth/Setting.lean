import Tollbooth.Chain.Id
import Tollbooth.Environment
import Tollbooth.Json.Reader
/-!
# Settings that may be taken from the environment

A setting is written either as its value or as a reference to an environment variable, `$NAME` or
`${NAME}`.  A name consists of ASCII letters, digits and underscores.  The value of a variable is
not looked through again.

Only a bare name is checked for its characters.  Between braces `reference?` takes whatever stands
there for a name, unless nothing does: this is how settings are in fact read, and not a second form
that references are meant to have.
-/

set_option autoImplicit false

namespace Tollbooth

namespace Setting

open Json

/-- A character of a bare variable name. -/
def isNameChar (c : Char) : Bool := c.isAlphanum || c == '_'

/-- The variable that a text refers to. -/
def reference? (s : String) : Option String :=
  match s.toList with
  | '$' :: '\x7b' :: rest =>
    match rest.reverse with
    | '\x7d' :: c :: name => some (.ofList (c :: name).reverse)
    | _ => none
  | '$' :: c :: name =>
    if (c :: name).all isNameChar then some (.ofList (c :: name)) else none
  | _ => none

/-- What a text stands for: itself, or the value of the variable that it refers to. -/
def expand (env : Environment) (s : String) : Except Fault String :=
  match reference? s with
  | none => .ok s
  | some name =>
    match env.get? name with
    | some value => .ok value
    | none => .error (.refused
        ("Environment variable '" ++ name ++ "' not found (referenced as '" ++ s ++ "')"))

/-- What is said of a setting whose text has no value of its type. -/
def unparsable (detail : Option String) : Fault :=
  .refused ("Failed to parse value" ++ (detail.map (": " ++ ·)).getD "")

/-- Reads a setting of a type. -/
def read {α : Type} (env : Environment) (parse : String → Except Fault α) : Reader α :=
  readText fun s => do parse (← expand env s)

/-! ## Types of settings

Each type has a function from the text that a setting stands for to its value.  A text without a
value is repeated in what is said of it only where it was to be a chain; anything else may be a
secret. -/

/-- A text is its own value. -/
def text (s : String) : Except Fault String := .ok s

/-- A count of 64 bits. -/
def word (s : String) : Except Fault Nat :=
  match Decimal.word64? s with
  | some n => .ok n
  | none => .error (unparsable none)

/-- A truth value, spelled out in lower case. -/
def flag (s : String) : Except Fault Bool :=
  if s = "true" then .ok true else if s = "false" then .ok false else .error (unparsable none)

/-- A chain identifier. -/
def chain (s : String) : Except Fault ChainId :=
  match ChainId.parse? s with
  | some c => .ok c
  | none => .error (unparsable (some (ChainId.formatMessage s)))

/-- A setting may be a secret, so it is never shown. -/
def shown : String := "LiteralOrEnv(<redacted>)"

end Setting

end Tollbooth
