import Tollbooth.Bytes
import Tollbooth.Text.Split
/-!
# Files

What a computation may know of the files around it is a function from paths to contents.
`Files.ofList` is that function for files that are listed, with paths walked from the current
directory or from the root.
-/

set_option autoImplicit false

namespace Tollbooth

/-- Why a file cannot be read. -/
inductive FileFault where
  /-- There is no such file. -/
  | missing
  | isDirectory
  /-- A part of the path that should be a directory is none. -/
  | notDirectory
  | denied
  /-- The path or a part of it is too long. -/
  | tooLong
  /-- There is a null in the path, where nothing can stand behind it. -/
  | hasNull
  /-- The content is no UTF-8, although a text was asked for. -/
  | notText
  | other (reason : String)
deriving DecidableEq, Inhabited

/-- What is said of a file that cannot be read. -/
def FileFault.message : FileFault → String
  | .missing => "No such file or directory (os error 2)"
  | .denied => "Permission denied (os error 13)"
  | .notDirectory => "Not a directory (os error 20)"
  | .isDirectory => "Is a directory (os error 21)"
  | .tooLong => "File name too long (os error 36)"
  | .hasNull => "file name contained an unexpected NUL byte"
  | .notText => "stream did not contain valid UTF-8"
  | .other reason => reason

/-- The files that can be read. -/
abbrev Files := String → Except FileFault Bytes

/-- The content of a file that has to be UTF-8. -/
def Files.readText (files : Files) (path : String) : Except FileFault Bytes := do
  let content ← files path
  if (Bytes.toString? content).isSome then return content else .error .notText

/-! ## Listed files -/

namespace Files

/-- The parts of a path between its slashes; the root is a part of its own. -/
def parts (path : String) : List String :=
  let parts := (Text.splitAll (· == '/') path.toList).map String.ofList
  if path.startsWith "/" then "/" :: parts else parts

/-- The parts that lead somewhere. -/
def steps (path : String) : List String :=
  (parts path).filter fun part => part != "" && part != "."

/-- Where a path has led so far. -/
inductive Place where
  | file (content : Bytes)
  | directory (steps : List String)
  /-- A directory above the current one. -/
  | above
deriving DecidableEq

/-- How many bytes a part of a path may have. -/
def mostPartBytes : Nat := 255

/-- How many bytes a path may have. -/
def mostPathBytes : Nat := 4095

/-- What a part of a path leads to from a place. -/
def Place.next (listed : List (List String × Bytes)) : Place → String → Except FileFault Place
  | .file _, _ => .error .notDirectory
  | .above, part =>
    if part == "" || part == "." || part == ".." then .ok .above
    else .error (if mostPartBytes < part.utf8ByteSize then .tooLong else .missing)
  | .directory steps, part =>
    let next := steps ++ [part]
    if part == "" || part == "." then .ok (.directory steps)
    else if part == ".." then
      .ok (if steps = [] then .above else if steps = ["/"] then .directory steps
        else .directory steps.dropLast)
    else if mostPartBytes < part.utf8ByteSize then .error .tooLong
    else
      match listed.lookup next with
      | some content => .ok (.file content)
      | none =>
        if next = ["/"] || listed.any (next.isPrefixOf ·.1) then .ok (.directory next)
        else .error .missing

/-- The files with these paths, which have no parts that lead nowhere or back. -/
def ofList (listed : List (String × Bytes)) : Files := fun path =>
  if path = "" then .error .missing
  else if path.contains '\x00' then .error .hasNull
  else if mostPathBytes < path.utf8ByteSize then .error .tooLong
  else
    let step := Place.next (listed.map fun f => (steps f.1, f.2))
    match (parts path).foldlM step (.directory []) with
    | .ok (.file content) => .ok content
    | .ok _ => .error .isDirectory
    | .error fault => .error fault

end Files

end Tollbooth
