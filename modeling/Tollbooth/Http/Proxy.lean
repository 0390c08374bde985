import Tollbooth.Environment
import Tollbooth.Http.Url
import Tollbooth.Text.Base64
import Tollbooth.Text.Blank
import Tollbooth.Text.Lossy
/-!
# Proxies

A proxy takes a request and passes it on.  Which one a request is sent to is set by variables of the
environment: one for plain and one for encrypted requests, one for both, and one that lists the
hosts that are reached without any.

* `Proxy.parse?` reads the text of a variable, and does so by the rules for the authority of a
  request, which are not those of `Url.parse?`: nothing is put right.
* `Exceptions.contains` says which hosts need no proxy.
* `Proxies.ofEnvironment` collects them all, and `Proxies.route` says which proxy a URL is
  requested from.
-/

set_option autoImplicit false

namespace Tollbooth.Http

/-! ## Authorities

An authority is accepted or not in one pass over its characters, with a few marks of what was seen.
Host, port and user are only taken apart afterwards. -/

/-- What has been seen of an authority. -/
structure AuthorityMarks where
  /-- The colons behind the user and behind brackets. -/
  colons : Nat
  opened : Bool
  closed : Bool
  /-- There is a percent sign that belongs to no user. -/
  percent : Bool
  /-- The last character ends the user. -/
  bare : Bool
deriving DecidableEq

namespace AuthorityMarks

/-- Nothing has been seen. -/
def start : AuthorityMarks := ⟨0, false, false, false, false⟩

/-- A character without a meaning of its own that may stand in an authority. -/
def isOrdinary (c : Char) : Bool := c.isAlphanum || "!$&'()*+,-.;=_~".toList.contains c

/-- What has been seen behind one more character, if it may stand there. -/
def next? (m : AuthorityMarks) (c : Char) : Option AuthorityMarks :=
  let m := { m with bare := false }
  if c == ':' then if m.colons < 8 then some { m with colons := m.colons + 1 } else none
  else if c == '[' then if m.percent || m.opened then none else some { m with opened := true }
  else if c == ']' then
    if m.opened && !m.closed then some { m with closed := true, colons := 0, percent := false }
    else none
  else if c == '@' then some { m with colons := 0, percent := false, bare := true }
  else if c == '%' then some { m with percent := true }
  else if isOrdinary c then some m
  else none

/-- An authority may end here. -/
def isComplete (m : AuthorityMarks) : Bool :=
  m.opened == m.closed && m.colons ≤ 1 && !m.percent && !m.bare

end AuthorityMarks

/-- The text is an authority: user, host and port. -/
def isAuthority (cs : List Char) : Bool :=
  cs ≠ [] && (cs.foldlM AuthorityMarks.next? .start).any (·.isComplete)

/-- A character that ends an authority. -/
def endsAuthority (c : Char) : Bool := c == '/' || c == '?' || c == '#'

/-- A character of a path in a request. -/
def isPathChar (c : Char) : Bool :=
  0x21 ≤ c.toNat && !(['#', '<', '>', '?', '\x60'].contains c)

/-- A character of a query in a request. -/
def isQueryChar (c : Char) : Bool :=
  0x21 ≤ c.toNat && !(['"', '#', '<', '>'].contains c)

/-- The text is path, query and fragment of a request. -/
def isPathAndQuery (cs : List Char) : Bool :=
  let (rest, _) := Text.splitFirst '#' cs
  let (path, query) := Text.splitFirst '?' rest
  path.all isPathChar && (query.getD []).all isQueryChar

/-! ## Proxies -/

/-- Where requests are sent instead of their own hosts. -/
structure Proxy where
  /-- The connection to it is encrypted. -/
  isEncrypted : Bool
  host : List Char
  port : Nat
  /-- What names the user to it. -/
  user : Option Bytes
deriving DecidableEq, Inhabited

namespace Proxy

/-- The schemes of proxies that tunnel connections of any kind. -/
def tunnelSchemes : List String := ["socks4", "socks4a", "socks5", "socks5h"]

/-- A character of a scheme. -/
def isSchemeChar (c : Char) : Bool := c.isAlphanum || c == '+' || c == '-' || c == '.'

/-- The scheme in front of two slashes, and what stands behind them. -/
def splitScheme? (cs : List Char) : Option (String × List Char) :=
  match cs.dropWhile isSchemeChar with
  | ':' :: '/' :: '/' :: rest =>
    let scheme := String.ofList (cs.takeWhile isSchemeChar)
    some (if ["http", "https"].contains scheme.toLower then scheme.toLower else scheme, rest)
  | _ => none

/-- The value of a header that names a user. -/
def userValue (user : List Char) : Bytes :=
  let (name, password) := Text.splitFirst ':' user
  let shown (cs : List Char) : String := Text.lossy (Percent.decode cs)
  Bytes.ofString ("Basic " ++
    Base64.encodeString (Bytes.ofString (shown name ++ ":" ++ shown (password.getD []))))

/-- Host and port of an authority without a user. -/
def splitHost (cs : List Char) : List Char × Option Nat :=
  let host := if cs.head? == some '[' then cs.takeWhile (· != ']') ++ [']']
    else cs.takeWhile (· != ':')
  let port := match Text.splitLast ':' cs with
    | (some _, port) => Decimal.word64? (.ofList port)
    | (none, _) => none
  (host, port.filter (· < 65536))

/-- The proxy of an authority. -/
def ofAuthority? (scheme : String) (cs : List Char) : Option Proxy :=
  if isAuthority cs then
    let (user, rest) := match Text.splitFirst '@' cs with
      | (user, some rest) => (some user, rest)
      | (_, none) => (none, cs)
    if isAuthority rest then
      let isEncrypted := scheme == "https"
      let (host, port) := splitHost (Text.splitLast '@' rest).2
      some {
        isEncrypted
        host
        port := port.getD (if isEncrypted then 443 else 80)
        user := if tunnelSchemes.contains scheme then none else user.map userValue }
    else none
  else none

/-- The proxy that a text names.  Without a scheme the text is an authority and nothing else. -/
def parse? (s : String) : Option Proxy :=
  if Url.mostBytes < s.utf8ByteSize || s == "*" then none
  else
    match splitScheme? s.toList with
    | some (scheme, rest) =>
      if (["http", "https"] ++ tunnelSchemes).contains scheme &&
          isPathAndQuery (rest.dropWhile (!endsAuthority ·)) then
        ofAuthority? scheme (rest.takeWhile (!endsAuthority ·))
      else none
    | none => ofAuthority? "http" s.toList

end Proxy

/-! ## Exceptions

An entry is an address, a block of addresses or a domain.  A domain covers those below it. -/

/-- The address of a machine: its number and how many bits that has. -/
structure MachineAddress where
  width : Nat
  number : Nat
deriving DecidableEq

namespace MachineAddress

/-- The number of an address in places of so many. -/
def ofPlaces (places : List Nat) : Nat := places.foldl (fun n p => n * 65536 + p) 0

/-- The address that a text spells. -/
def parse? (cs : List Char) : Option MachineAddress :=
  match Host.embedded? cs with
  | some places => some ⟨32, ofPlaces places⟩
  | none => (Host.eightGroups? cs).map fun groups => ⟨128, ofPlaces groups⟩

end MachineAddress

/-- Addresses that have their first bits in common. -/
structure AddressBlock where
  address : MachineAddress
  /-- How many bits are left open. -/
  free : Nat
deriving DecidableEq

namespace AddressBlock

/-- The address is in the block. -/
def contains (b : AddressBlock) (a : MachineAddress) : Bool :=
  a.width == b.address.width && a.number >>> b.free == b.address.number >>> b.free

/-- The block that a text spells: an address, perhaps with the number of bits in common behind a
slash. -/
def parse? (cs : List Char) : Option AddressBlock :=
  match Text.splitFirst '/' cs with
  | (_, none) => (MachineAddress.parse? cs).map (⟨·, 0⟩)
  | (address, some common) => do
    let address ← MachineAddress.parse? address
    let n ← Decimal.digits? (.ofList common)
    guard (n ≤ address.width ∧ common.length ≤ (if address.width = 32 then 3 else 4))
    return ⟨address, address.width - n⟩

end AddressBlock

/-- Hosts that are reached without a proxy. -/
structure Exceptions where
  blocks : List AddressBlock
  /-- Domains in lower case. -/
  domains : List (List Char)
deriving DecidableEq

namespace Exceptions

/-- The exceptions that a text lists between commas. -/
def ofText (s : String) : Exceptions :=
  let entries := (Text.splitAll (· == ',') s.toList).map fun cs => (Text.trim (.ofList cs)).toList
  { blocks := entries.filterMap AddressBlock.parse?
    domains := (entries.filter fun cs => cs ≠ [] && (AddressBlock.parse? cs).isNone).map
      (·.map Char.toLower) }

/-- The domain is an entry or below one; a point may stand in front of an entry, and a star is an
entry for all domains. -/
def covers (entry domain : List Char) : Bool :=
  let name := if entry.head? == some '.' then entry.drop 1 else entry
  entry == ['*'] || domain == entry || domain == name || ('.' :: name).isSuffixOf domain

/-- The host needs no proxy. -/
def contains (e : Exceptions) (host : List Char) : Bool :=
  match MachineAddress.parse? (host.filter fun c => c ≠ '[' ∧ c ≠ ']') with
  | some address => e.blocks.any (·.contains address)
  | none => e.domains.any (covers · (host.map Char.toLower))

end Exceptions

/-! ## The proxies of an environment -/

/-- Which proxy to take for what. -/
structure Proxies where
  plain : Option Proxy
  encrypted : Option Proxy
  exceptions : Exceptions
deriving DecidableEq

namespace Proxies

/-- Every host is reached without a proxy. -/
def direct : Proxies := ⟨none, none, ⟨[], []⟩⟩

/-- The proxies that the variables of an environment name.  A program that answers a request itself
takes none, for its caller could set the variables. -/
def ofEnvironment (env : Environment) : Proxies :=
  let value (names : List String) : Option Proxy := (env.first? names).bind Proxy.parse?
  let common := value ["ALL_PROXY", "all_proxy"]
  if (env "REQUEST_METHOD").isSome then direct
  else {
    plain := value ["HTTP_PROXY", "http_proxy"] <|> common
    encrypted := value ["HTTPS_PROXY", "https_proxy"] <|> common
    exceptions := .ofText ((env.first? ["NO_PROXY", "no_proxy"]).getD "") }

/-- The proxy that a URL is requested from. -/
def route (p : Proxies) (u : Url) : Option Proxy :=
  if p.exceptions.contains (u.host.getD []) then none
  else if u.scheme == "http".toList then p.plain
  else if u.scheme == "https".toList then p.encrypted
  else none

end Proxies

end Tollbooth.Http
