import Tollbooth.Text.Split
/-!
# Environments

An environment gives names values.  It is kept as a function of the names under which variables were
set, none of which has an equals sign.  `Environment.get?` is how a program sees it: the environment
is a list of lines `NAME=value`, and a name is looked for in front of an equals sign of a line, so
that a name with an equals sign may find the end of a value.
-/

set_option autoImplicit false

namespace Tollbooth

/-- The variables of an environment, as far as they are text. -/
abbrev Environment := String → Option String

namespace Environment

/-- The environment with a variable, unless it is already set. -/
def setDefault (env : Environment) (name value : String) : Environment := fun n =>
  match env n with
  | some v => some v
  | none => if n = name then some value else none

/-- What stands in the environment behind a name and an equals sign. -/
def get? (env : Environment) (name : String) : Option String :=
  match Text.splitFirst '=' name.toList with
  | (_, none) => env name
  | ([], some _) => none
  | (key, some rest) => do
    let value ← env (.ofList key)
    let start := rest ++ ['=']
    if start.isPrefixOf value.toList then some (.ofList (value.toList.drop start.length)) else none

/-- The value of the first of some names that has one. -/
def first? (env : Environment) (names : List String) : Option String := names.findSome? env

end Environment

end Tollbooth
