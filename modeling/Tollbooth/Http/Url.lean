import Tollbooth.Http.Url.Host
import Tollbooth.Http.Url.Path
/-!
# URLs

A URL is read as browsers read it and kept in its parts, so that every URL has one normal form:
`Url.parse?` reads, `Url.text` writes.  Blanks around it are dropped, scheme and host are in lower
case, a port that the scheme implies is left out, dot segments are resolved, and characters that may
not stand in a part are percent-encoded.

Only whole URLs are read here; `Http/Url/Reference` reads those that refer to another one.
-/

set_option autoImplicit false

namespace Tollbooth.Http

open Tollbooth (Bytes)

/-- The path of a URL. -/
inductive UrlPath where
  /-- A text without structure, of a scheme such as `mailto`. -/
  | plain (text : List Char)
  /-- Segments, each behind a slash. -/
  | segments (parts : List (List Char))
deriving DecidableEq, Inhabited

/-- A URL in its parts, each percent-encoded where it has to be. -/
structure Url where
  scheme : List Char
  username : List Char
  password : List Char
  host : Option (List Char)
  port : Option Nat
  path : UrlPath
  query : Option (List Char)
  fragment : Option (List Char)
deriving DecidableEq, Inhabited

namespace Url

/-! ## Writing -/

/-- User name and password in front of a host. -/
def userInfoText (u : Url) : List Char :=
  if u.username = [] ∧ u.password = [] then []
  else u.username ++ (if u.password = [] then [] else ':' :: u.password) ++ ['@']

/-- Host and port with what stands in front of them. -/
def authorityText (u : Url) : List Char :=
  match u.host with
  | some host =>
    '/' :: '/' :: u.userInfoText ++ host ++
      (match u.port with
        | some port => ':' :: Nat.toDigits 10 port
        | none => [])
  | none =>
    match u.path with
    | .segments ([] :: _ :: _) => ['/', '.']
    | _ => []

/-- The path. -/
def pathText (u : Url) : List Char :=
  match u.path with
  | .plain text => text
  | .segments parts => parts.flatMap ('/' :: ·)

/-- The query behind its mark. -/
def queryText (u : Url) : List Char :=
  match u.query with
  | some q => '?' :: q
  | none => []

/-- The normal form. -/
def text (u : Url) : String :=
  .ofList (u.scheme ++ ':' :: u.authorityText ++ u.pathText ++ u.queryText ++
    match u.fragment with
    | some f => '#' :: f
    | none => [])

/-- What a server is asked for: path and query. -/
def target (u : Url) : String := .ofList (u.pathText ++ u.queryText)

instance : ToString Url := ⟨text⟩

/-! ## Reading -/

/-- The schemes of web addresses with the ports that they imply. -/
def webSchemes : List (String × Option Nat) :=
  [("http", some 80), ("https", some 443), ("ws", some 80), ("wss", some 443), ("ftp", some 21),
    ("file", none)]

/-- The scheme is one of a web address. -/
def isWebScheme (scheme : List Char) : Bool := webSchemes.any fun s => s.1.toList == scheme

/-- The port that a scheme implies. -/
def defaultPort (scheme : List Char) : Option Nat :=
  (webSchemes.find? fun s => s.1.toList == scheme).bind (·.2)

/-- The URL has a host. -/
def hasHost (u : Url) : Bool := u.host.any (· != [])

/-- The URL has a scheme that can be requested. -/
def isRequestable (u : Url) : Bool := ["http", "https"].any fun s => s.toList == u.scheme

/-- How many bytes the URL of a request may have. -/
def mostBytes : Nat := 65534

/-- The URL can stand in a request: its host has no character that is refused there, and it is not
too long. -/
def isSendable (u : Url) : Bool :=
  !(u.host.getD []).any (fun c => ['"', '\x60', '\x7b', '\x7d'].contains c) &&
    u.text.utf8ByteSize ≤ mostBytes

/-- The text without controls and blanks around it, and without tabs and line breaks. -/
def clean (cs : List Char) : List Char :=
  let trimmed := cs.dropWhile (·.toNat ≤ 0x20)
  let trimmed := (trimmed.reverse.dropWhile (·.toNat ≤ 0x20)).reverse
  trimmed.filter fun c => !(['\t', '\n', '\r'].contains c)

/-- A character of a scheme behind its first. -/
def isSchemeChar (c : Char) : Bool := c.isAlphanum || ['+', '-', '.'].contains c

/-- The scheme in lower case, and what follows its colon. -/
def splitScheme? : List Char → Option (List Char × List Char)
  | [] => none
  | c :: cs =>
    if !c.isAlpha then none
    else
      match cs.dropWhile isSchemeChar with
      | ':' :: rest => some ((c :: cs.takeWhile isSchemeChar).map Char.toLower, rest)
      | _ => none

/-- Host and the text of the port if there is a colon outside of brackets. -/
def splitPort : Bool → List Char → List Char × Option (List Char)
  | _, [] => ([], none)
  | inside, c :: cs =>
    if c == ':' && !inside then ([], some cs)
    else
      let inside := if c == '[' then true else if c == ']' then false else inside
      let (host, port) := splitPort inside cs
      (c :: host, port)

/-- The port of a text of digits; none if the text is empty or the scheme implies the port. -/
def port? (scheme : List Char) : Option (List Char) → Option (Option Nat)
  | none => some none
  | some [] => some none
  | some cs =>
    if cs.all Char.isDigit then
      let n := Nat.ofDigitChars 10 cs 0
      if n < 65536 then some (if defaultPort scheme = some n then none else some n) else none
    else none

/-- The path behind an authority or a slash. -/
def pathOf (web : Bool) (cs : List Char) : UrlPath :=
  if cs.isEmpty && !web then .segments []
  else .segments (Path.resolve [] (Path.split web (Path.withoutSlash web cs)))

/-- A URL of a scheme with nothing else. -/
def bare (scheme : List Char) : Url := ⟨scheme, [], [], none, none, .plain [], none, none⟩

/-- User, host and port of an authority, which is `last` if nothing follows it.  The host of a URL
that is no web address may be empty if there is no port and no user, and if an empty user is all
there is. -/
def authority? (scheme : List Char) (last : Bool) (cs : List Char) : Option Url := do
  let web := isWebScheme scheme
  let (user, hostPort) := Text.splitLast '@' cs
  let (host, port) := splitPort false hostPort
  let (name, password) := Text.splitFirst ':' (user.getD [])
  let password := password.getD []
  guard (!(host.isEmpty && (web || port.isSome || !name.isEmpty || !password.isEmpty)))
  guard (!(user == some [] && hostPort.isEmpty && !last))
  let host ← if web then Host.web? host else Host.other? host
  let port ← port? scheme port
  return { bare scheme with
    port
    username := Percent.encode Percent.userInfo name
    password := Percent.encode Percent.userInfo password
    host := some host }

/-- Splits an authority from the path behind it. -/
def splitAuthority (web : Bool) (cs : List Char) : List Char × List Char :=
  (cs.takeWhile (!Path.isSlash web ·), cs.dropWhile (!Path.isSlash web ·))

/-- The URL of a file.  Its host may be empty, this machine is no host, and neither is a drive; a
path that starts with a drive has no host. -/
def file? (cs : List Char) : Option Url := do
  let scheme := ['f', 'i', 'l', 'e']
  let at' (host : List Char) (parts : List Path.Segment) : Url :=
    { bare scheme with
      host := some (if parts.head?.any Path.isDrive then [] else host)
      path := .segments (Path.collapse parts) }
  let below (cs : List Char) : List Path.Segment :=
    Path.resolve [] (Path.withColon (Path.split true cs))
  match cs with
  | a :: b :: rest =>
    if Path.isSlash true a && Path.isSlash true b then
      let (host, path) := splitAuthority true rest
      if Path.isDrive host then return at' [] (below rest)
      else if host.isEmpty then return at' [] (below path)
      else
        let host ← Host.web? host
        if host == "localhost".toList then return at' [] (below path)
        else return at' host (below (Path.withoutSlash true path))
    else return at' [] (below cs)
  | cs => return at' [] (below cs)

/-- Cuts an authority at the backslash behind its colon, where a port cannot go on. -/
def splitPath (cs : List Char) : List Char × List Char :=
  let (user, hostPort) := Text.splitLast '@' cs
  match splitPort false hostPort with
  | (_, none) => (cs, [])
  | (host, some port) =>
    let back := port.dropWhile (· != '\\')
    let front := (user.map (· ++ ['@'])).getD [] ++ host ++ ':' :: port.takeWhile (· != '\\')
    (front, if back.isEmpty then [] else '/' :: back)

/-- The URL without query and fragment behind an authority; `last` if there are neither. -/
def behindSlashes? (scheme : List Char) (last : Bool) (cs : List Char) : Option Url := do
  let web := isWebScheme scheme
  let (authority, path) := splitAuthority web cs
  let (authority, front) := if web then (authority, []) else splitPath authority
  let path := front ++ path
  let u ← authority? scheme (last && path.isEmpty) authority
  return { u with path := pathOf web path }

/-- The URL without query and fragment; `last` if there are neither. -/
def base? (scheme : List Char) (last : Bool) (cs : List Char) : Option Url :=
  if scheme == ['f', 'i', 'l', 'e'] then file? cs
  else if isWebScheme scheme then behindSlashes? scheme last (cs.dropWhile (Path.isSlash true))
  else
    match cs with
    | '/' :: '/' :: rest => behindSlashes? scheme last rest
    | '/' :: rest => some { bare scheme with path := pathOf false ('/' :: rest) }
    | cs => some { bare scheme with path := .plain (Percent.encode Percent.controls cs) }

/-- The URL with query and fragment, each encoded where it has to be. -/
def withEnd (u : Url) (query fragment : Option (List Char)) : Url :=
  let set := if isWebScheme u.scheme then Percent.webQuery else Percent.query
  { u with
    query := query.map (Percent.encode set)
    fragment := fragment.map (Percent.encode Percent.fragment) }

/-- The URL of a scheme with what stands behind the colon. -/
def ofScheme? (scheme : List Char) (rest : List Char) : Option Url := do
  let (rest, fragment) := Text.splitFirst '#' rest
  let (rest, query) := Text.splitFirst '?' rest
  let u ← base? scheme (query.isNone && fragment.isNone) rest
  return u.withEnd query fragment

/-- The URL that a text spells. -/
def parse? (s : String) : Option Url := do
  let (scheme, rest) ← splitScheme? (clean s.toList)
  ofScheme? scheme rest

end Url

end Tollbooth.Http
