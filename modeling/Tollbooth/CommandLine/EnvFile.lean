import Tollbooth.Bytes
import Tollbooth.Environment
import Tollbooth.Text.Alphanumeric
import Tollbooth.Text.Blank
/-!
# Files of environment variables

A file `.env` adds variables to the environment, one in a line: `NAME=value`, also with `export` in
front.  A variable that is already set keeps its value.

* A value may be quoted, and a quoted value may go over several lines.  In single quotes everything
  stands for itself; elsewhere a backslash takes the meaning from a character, and `$NAME` or
  `${NAME}` stand for the value of a variable.
* A `#` at the start of a line, or behind a blank, starts a comment.
* The first line that is none of these ends the file: what came before it counts.
-/

set_option autoImplicit false

namespace Tollbooth

namespace EnvFile

/-! ## Lines -/

/-- Where in a line a character stands. -/
inductive Place where
  | plain
  /-- Behind a blank. -/
  | blank
  /-- Behind a backslash. -/
  | escaped
  | singleQuoted
  | singleQuotedEscaped
  | doubleQuoted
  | doubleQuotedEscaped
deriving DecidableEq

/-- The place that a character outside of quotes leads to. -/
def Place.afterOuter (c : Char) : Place :=
  if c = '\\' then .escaped else if c = '"' then .doubleQuoted
  else if c = '\'' then .singleQuoted else .plain

/-- The place behind a character; there is none if a comment starts with it. -/
def Place.next? (p : Place) (c : Char) : Option Place :=
  match p with
  | .plain =>
    some (if Text.isBlank c && c ≠ '\n' && c ≠ '\r' then .blank else .afterOuter c)
  | .blank => if c = '#' then none else some (.afterOuter c)
  | .escaped => some .plain
  | .singleQuoted =>
    some (if c = '\\' then .singleQuotedEscaped else if c = '\'' then .plain else .singleQuoted)
  | .singleQuotedEscaped => some .singleQuoted
  | .doubleQuoted =>
    some (if c = '\\' then .doubleQuotedEscaped else if c = '"' then .plain else .doubleQuoted)
  | .doubleQuotedEscaped => some .doubleQuoted

/-- What stands in front of a comment, and the place at the end of the line without one. -/
def uncomment : Place → List Char → List Char × Option Place
  | p, [] => ([], some p)
  | p, c :: cs =>
    match p.next? c with
    | none => ([], none)
    | some q => ((uncomment q cs).map (c :: ·) id)

/-- The lines with their ends. -/
def splitLines (s : Bytes) : List Bytes :=
  match s with
  | [] => []
  | b :: bs =>
    if b = 0x0a then [b] :: splitLines bs
    else
      match splitLines bs with
      | [] => [[b]]
      | line :: lines => (b :: line) :: lines

/-- The text is a comment. -/
def isComment (cs : List Char) : Bool := (cs.dropWhile Text.isBlank).head? == some '#'

/-- The entries of lines: several lines make an entry if quotes are open at their ends.  An entry is
absent if it does not end or a line is no text; nothing comes after it. -/
def entries (pending : List Char) (place : Place) : List Bytes → List (Option (List Char))
  | [] => if place = .plain then [] else [none]
  | line :: lines =>
    match Bytes.toString? line with
    | none => [none]
    | some text =>
      let whole := pending ++ text.toList
      if isComment whole then some [] :: entries [] .plain lines
      else
        match uncomment place text.toList with
        | (front, none) => some (pending ++ front) :: entries [] .plain lines
        | (_, some .plain) => some whole :: entries [] .plain lines
        | (_, some place) => entries whole place lines

/-! ## Values -/

/-- What is being read of a value. -/
inductive Mode where
  | outer (quoted : Bool)
  | singleQuoted
  /-- Behind a backslash. -/
  | escaped (quoted : Bool)
  /-- In a variable name behind a dollar sign. -/
  | name (quoted : Bool) (read : List Char)
  /-- In a variable name between braces. -/
  | braced (quoted : Bool) (read : List Char)
  /-- Behind the value. -/
  | ended
deriving DecidableEq

/-- A character of a variable name without braces. -/
def isNameChar (c : Char) : Bool := Text.isAlphanumeric c

/-- The value of a variable, which is nothing if it is not set. -/
def valueOf (env : Environment) (read : List Char) : List Char :=
  ((env.get? (.ofList read)).getD "").toList

/-- The mode behind a character, and what the character adds to the value. -/
def Mode.next? (env : Environment) (m : Mode) (c : Char) : Option (Mode × List Char) :=
  match m with
  | .outer quoted =>
    if c = '$' then some (.name quoted [], [])
    else if c = '\\' then some (.escaped quoted, [])
    else if c = '"' then some (.outer !quoted, [])
    else if quoted then some (m, [c])
    else if c = '\'' then some (.singleQuoted, [])
    else if c = ' ' || c = '\t' then some (.ended, [])
    else some (m, [c])
  | .singleQuoted => some (if c = '\'' then (.outer false, []) else (m, [c]))
  | .escaped quoted =>
    if ['\\', '\'', '"', '$', ' '].contains c then some (.outer quoted, [c])
    else if c = 'n' then some (.outer quoted, ['\n'])
    else none
  | .name quoted read =>
    if isNameChar c then some (.name quoted (read ++ [c]), [])
    else if c = '\x7b' && read.isEmpty then some (.braced quoted [], [])
    else if c = '$' then some (.name quoted [], valueOf env read)
    else some (.outer quoted, valueOf env read ++ [c])
  | .braced quoted read =>
    some (if c = '\x7d' then (.outer quoted, valueOf env read)
      else (.braced quoted (read ++ [c]), []))
  | .ended => if c = ' ' || c = '\t' then some (m, []) else none

/-- The value that a text stands for. -/
def value? (env : Environment) : Mode → List Char → Option (List Char)
  | .outer false, [] => some []
  | .escaped false, [] => some []
  | .name false read, [] => some (valueOf env read)
  | .ended, [] => some []
  | _, [] => none
  | m, c :: cs =>
    if m = .ended && c = '#' then some []
    else do
      let (next, added) ← m.next? env c
      return added ++ (← value? env next cs)

/-! ## Entries -/

/-- A character that a variable may start with. -/
def isKeyStart (c : Char) : Bool := c.isAlpha || c == '_'

/-- A character of a variable. -/
def isKeyChar (c : Char) : Bool := c.isAlphanum || c == '_' || c == '.'

/-- Splits off a variable and the blanks behind it. -/
def splitKey? (cs : List Char) : Option (List Char × List Char) :=
  match cs with
  | c :: _ =>
    if isKeyStart c then
      some (cs.takeWhile isKeyChar, (cs.dropWhile isKeyChar).dropWhile Text.isBlank)
    else none
  | [] => none

/-- What stands behind an equals sign. -/
def afterEquals? : List Char → Option (List Char)
  | '=' :: rest => some (rest.dropWhile Text.isBlank)
  | _ => none

/-- The variable of an assignment and the text behind the equals sign.  The word `export` may stand
in front, and may be a variable itself. -/
def splitEntry? (cs : List Char) : Option (List Char × List Char) := do
  let (key, rest) ← splitKey? cs
  match afterEquals? rest with
  | some value => return (key, value)
  | none =>
    guard (String.ofList key = "export")
    let (key, rest) ← splitKey? rest
    return (key, ← afterEquals? rest)

/-- The environment after an entry; none if the entry is wrong. -/
def extend? (env : Environment) (entry : List Char) : Option Environment :=
  let cs := (Text.trim (.ofList entry)).toList
  if cs.isEmpty || isComment cs then some env
  else do
    let (key, text) ← splitEntry? cs
    let value ← if isComment text then some [] else value? env (.outer false) text
    return env.setDefault (.ofList key) (.ofList value)

/-- The environment after some entries, up to the first that is wrong. -/
def extendAll (env : Environment) : List (Option (List Char)) → Environment
  | [] => env
  | none :: _ => env
  | some entry :: rest =>
    match extend? env entry with
    | some env => extendAll env rest
    | none => env

/-- The bytes behind a byte order mark, if there is one. -/
def dropMark : Bytes → Bytes
  | 0xef :: 0xbb :: 0xbf :: rest => rest
  | s => s

/-- The environment with the variables of a file. -/
def load (env : Environment) (content : Bytes) : Environment :=
  extendAll env (entries [] .plain (splitLines (dropMark content)))

end EnvFile

end Tollbooth
